import Interpolation.Document
import Interpolation.Manifest

/-!
# Manifests as documents

How the parts of a manifest are spelled in a data document. Each record lists its fields in the order in which
a sequence would give them; the type of a result has two spellings. A manifest passes over what a sequence has
beyond the fields of its record, while a bundle refuses such a sequence; signatures occur in both.
-/

namespace Interpolation

open Document

/-- The spelling of a positional parameter. -/
def PositionalParameter.decode? (surplus : Surplus) (document : Document) : Option PositionalParameter := do
  match ← document.record? surplus [["name"], ["type"], ["description"]] with
  | [name, type, description] =>
    return {
      name := ← optional? text? name
      type := ← required? text? type
      description := ← optional? text? description }
  | _ => none

/-- The spelling of a keyword parameter. -/
def KeywordParameter.decode? (surplus : Surplus) (document : Document) : Option KeywordParameter := do
  match ← document.record? surplus [["name"], ["type"], ["description"], ["default"]] with
  | [name, type, description, default] =>
    return {
      name := ← required? text? name
      type := ← required? text? type
      description := ← optional? text? description
      default := ← optional? value? default }
  | _ => none

/-- The spelling of a signature. -/
def Signature.decode? (surplus : Surplus) (document : Document) : Option Signature := do
  match ← document.record? surplus
      [["namespace"], ["name"], ["description"], ["args"], ["kwargs"], ["return_type", "returnType"]] with
  | [home, name, description, positional, keyword, returnType] =>
    return {
      home := ← orElse? "" text? home
      name := ← orElse? "" text? name
      description := ← orElse? "" text? description
      positional := ← orElse? [] (sequence? (PositionalParameter.decode? surplus)) positional
      keyword := ← orElse? [] (sequence? (KeywordParameter.decode? surplus)) keyword
      returnType := ← orElse? "" text? returnType }
  | _ => none

/-- The spelling of a group of a listing. -/
def Section.decode? (document : Document) : Option Section := do
  match ← document.record? .ignored [["key"], ["title"], ["description"], ["methods"]] with
  | [key, title, description, methods] =>
    return {
      key := ← required? text? key
      title := ← orElse? "" text? title
      description := ← optional? text? description
      methods := ← orElse? [] (sequence? text?) methods }
  | _ => none

/-- The spelling of the head of a manifest, as a manifest without sections and methods. -/
def Manifest.decodeHead? (document : Document) : Option Manifest := do
  match ← document.record? .ignored [["prefix"], ["title"], ["description"], ["aliases"]] with
  | [name, title, description, aliases] =>
    return {
      name := ← required? text? name
      title := ← optional? text? title
      description := ← optional? text? description
      aliases := ← orElse? [] (sequence? text?) aliases }
  | _ => none

/-- **The spelling of a manifest.** -/
def Manifest.decode? (document : Document) : Option Manifest := do
  match ← document.record? .ignored [["namespace"], ["section"], ["method"]] with
  | [head, sections, methods] =>
    return { ← required? Manifest.decodeHead? head with
      sections := ← orElse? [] (sequence? Section.decode?) sections
      methods := ← orElse? [] (sequence? (Signature.decode? .ignored)) methods }
  | _ => none

/-- **The spelling of a bundle.** -/
def Bundle.decode? (document : Document) : Option Bundle :=
  document.table? (table? (Signature.decode? .refused))

end Interpolation
