import Interpolation.ParseError
import Interpolation.Syntax.ArgumentList
import Interpolation.Syntax.Head
import Interpolation.Tree

/-!
# Binding arguments to slots

A call is read by binding the arguments of its list, from the left, to the slots of its method's signature
(`Interpolation.bindWith`). A keyword argument goes to the slot of its name, and no name may be used twice;
a positional argument goes to the next positional slot. A blank value leaves its slot empty but uses it up.
Every other value is an interpolated text, read by a `Interpolation.Reader` that the caller supplies: binding
itself does not know how texts are read, nor how deep they may be nested.
-/

namespace Interpolation

/-- A way to read interpolated texts: from the byte offset at which a text starts and the text itself to its
tree. -/
abbrev Reader := Nat → List Char → Except ParseError Tree

/-- **How far binding has come.** -/
structure Binding where
  /-- The call with the slots filled so far. -/
  call : Call
  /-- The number of positional arguments so far. -/
  positional : Nat
  /-- The keywords used so far. -/
  supplied : List String

namespace Binding

/-- Before the first argument. -/
def start (qualifier : String) (signature : Signature) : Binding := ⟨.blank qualifier signature, 0, []⟩

/-- The value of an argument that starts at the given offset: nothing if it is blank. -/
def value (read : Reader) (offset : Nat) (text : List Char) : Except ParseError (Option Tree) :=
  if Text.isBlankText text then .ok none else some <$> read offset text

/-- Binds a keyword argument. -/
def keyword (read : Reader) (state : Binding) (offset : Nat) (word text : List Char) :
    Except ParseError Binding :=
  let name := String.ofList word
  match state.call.signature.keywordIndex? name with
  | none => .error ⟨.unknownKeyword name, offset⟩
  | some index =>
    if state.supplied.contains name then
      .error ⟨.duplicateKeyword name, offset⟩
    else do
      let tree ← value read (offset + Text.width word + 1) text
      return { state with
        call := state.call.put (state.call.signature.positional.length + index) tree
        supplied := name :: state.supplied }

/-- Binds a positional argument of a call that was written with the given method name. -/
def next (read : Reader) (name : String) (state : Binding) (offset : Nat) (text : List Char) :
    Except ParseError Binding :=
  if state.positional < state.call.signature.positional.length then do
    let tree ← value read offset text
    return { state with
      call := state.call.put state.positional tree
      positional := state.positional + 1 }
  else
    .error ⟨.tooManyPositional state.call.qualifier name, offset⟩

/-- Binds one argument of a list that starts at the given offset. -/
def argument (read : Reader) (name : String) (start : Nat) (state : Binding) (argument : Argument) :
    Except ParseError Binding :=
  match keyword? argument.text with
  | some (word, text) => state.keyword read (start + argument.offset) word text
  | none => state.next read name (start + argument.offset) argument.text

end Binding

/-- **Reads a call** from its names and its argument list. An unknown method is reported at `callStart`, where
the head of the call begins, and all else relative to `listStart`, where the argument list begins. -/
def bindWith (catalog : Catalog) (read : Reader) (callStart listStart : Nat) (qualifier name : String)
    (raw : List Char) : Except ParseError Call :=
  match catalog.lookup qualifier name with
  | none => .error ⟨.unknownMethod qualifier name, callStart⟩
  | some signature =>
    (·.call) <$> (ArgumentList.split raw).foldlM (Binding.argument read name listStart)
      (Binding.start qualifier signature)

end Interpolation
