import Interpolation.Proofs.FixedPoint

/-!
# A call by itself

There are two ways to read a call: to scan a text that is this call and nothing else, and to bind its argument
list directly. The first finds the argument list by itself. It counts braces, trims, looks for the head and
drops the parenthesis at the end, and what is left is the argument list, whatever that is, as long as the
braces of the list do not close the span too early (`Interpolation.readSpan_eq_of_begins`).

The two then do the same, at different offsets. A list that starts further on has its errors further on
(`Interpolation.bindWith_translates`), and only an unknown method is reported in front of the list
(`Interpolation.Dialect.scan_call`).
-/

namespace Interpolation

open Brace

section Reading

variable {catalog : Catalog} {read : Reader}

/-- A text that is one span is read like that span. -/
theorem scanWith_braced {inner : List Char} (h : Closes inner) (offset : Nat) :
    scanWith catalog read offset (braced inner) = (fun node => [node]) <$> readSpan catalog read offset inner := by
  have hcut : Piece.cut (braced inner) = [.span inner] := Piece.cut_eq_iff.2
    ⟨by simp [Piece.source], by simpa [Piece.Sound] using h, .singleton _⟩
  rw [scanWith, hcut]
  cases hspan : readSpan catalog read offset inner with
  | error error => simp only [readPieces, hspan]; rfl
  | ok node => simp only [readPieces, hspan]; rfl

/-- **A span that is a call with its closing parenthesis** is bound to the list in the parentheses. -/
theorem readSpan_eq_of_begins {inner raw : List Char} {head : CallHead} (h : head.Begins inner)
    (hrest : head.rest = raw ++ [')']) (offset : Nat) :
    readSpan catalog read offset inner = Node.call <$>
      bindWith catalog read (offset + 2) (offset + 2 + head.width) (String.ofList head.qualifier)
        (String.ofList head.name) raw := by
  have htrim := h.trim_eq_self hrest
  have hleading : Text.leading inner = [] := by
    have hsplit := Text.leading_append_trimStart inner
    rw [Text.trimStart_eq_self (Text.trim_eq_self_iff.1 htrim).1] at hsplit
    exact List.append_left_eq_self.1 hsplit
  have hne : ¬inner.isEmpty = true := by
    rw [List.isEmpty_iff]
    rintro rfl
    simpa [hrest] using h.1
  rw [readSpan, htrim, if_neg hne, CallHead.read?_eq_some_iff_begins.2 h, hleading]
  dsimp only
  rw [CallHead.arguments_of_rest_eq hrest]
  rfl

/-- Where the head of a call starts does not matter to a method that is known. -/
theorem bindWith_callStart {qualifier name : String} {signature : Signature}
    (hlookup : catalog.lookup qualifier name = some signature) (callStart other listStart : Nat)
    (raw : List Char) :
    bindWith catalog read callStart listStart qualifier name raw =
      bindWith catalog read other listStart qualifier name raw := by
  rw [bindWith, bindWith, hlookup]

end Reading

namespace Dialect

/-- The text of a call. -/
def callText (qualifier name raw : String) : String :=
  spanText (qualifier ++ "." ++ name ++ "(" ++ raw ++ ")")

/-- A text that is one call is bound. -/
theorem scan_callText (dialect : Dialect) {qualifier name raw : String}
    (hqualifier : isWord qualifier.toList = true) (hname : Hyphenated name.toList)
    (hraw : Closes (raw.toList ++ [')'])) :
    dialect.scan (callText qualifier name raw) = (fun call => [.call call]) <$>
      bindWith dialect.catalog dialect.values 2 (qualifier.utf8ByteSize + name.utf8ByteSize + 4) qualifier name
        raw.toList := by
  let head : CallHead := ⟨qualifier.toList, name.toList, raw.toList ++ [')']⟩
  have hbegins : head.Begins (head.text ++ head.rest) := ⟨rfl, hqualifier, hname⟩
  have htext : (callText qualifier name raw).toList = braced (head.text ++ head.rest) := by
    rw [callText, toList_spanText]
    simp [head, CallHead.text]
  have hwidth : 0 + 2 + head.width = qualifier.utf8ByteSize + name.utf8ByteSize + 4 := by
    rw [← Text.width_toList, ← Text.width_toList]
    show 0 + 2 + (Text.width qualifier.toList + Text.width name.toList + 2) = _
    omega
  rw [scan_eq, htext, scanWith_braced (hbegins.closes_iff_rest.2 hraw), readSpan_eq_of_begins hbegins rfl, hwidth,
    ← comp_map, String.ofList_toList, String.ofList_toList]
  rfl

/-- **Scanning a call by itself is binding its argument list.** If the walk along the list and what stands behind
it comes down to zero at the very end only, the text of the call is scanned to the call that the list is bound
to. An error in the list is the same one, behind the head and the braces, and an unknown method is reported
where the head starts. -/
theorem scan_call (dialect : Dialect) {qualifier name raw : String}
    (hqualifier : isWord qualifier.toList = true) (hname : Hyphenated name.toList)
    (hraw : FirstZeroAtEnd 1 (cut (raw.toList ++ [')', '}', '}']))) :
    (∀ call, dialect.scan (callText qualifier name raw) = .ok [.call call] ↔
      dialect.bind qualifier name raw = .ok call) ∧
    (∀ signature error, dialect.catalog.lookup qualifier name = some signature →
      dialect.bind qualifier name raw = .error error →
        dialect.scan (callText qualifier name raw) =
          .error (error.shift (qualifier.utf8ByteSize + name.utf8ByteSize + 4))) ∧
    (dialect.catalog.lookup qualifier name = none →
      dialect.bind qualifier name raw = .error ⟨.unknownMethod qualifier name, 0⟩ ∧
        dialect.scan (callText qualifier name raw) = .error ⟨.unknownMethod qualifier name, 2⟩) := by
  have hread := dialect.values_translates
  have hcloses : Closes (raw.toList ++ [')']) := by
    rw [Closes, List.append_assoc]
    exact hraw
  have hbind : dialect.bind qualifier name raw =
      bindWith dialect.catalog dialect.values 0 0 qualifier name raw.toList := rfl
  rw [dialect.scan_callText hqualifier hname hcloses, hbind]
  refine ⟨fun call => ?_, fun signature error hlookup herror => ?_, fun hlookup => ?_⟩
  · rw [map_eq_ok_iff]
    simp [bindWith_eq_ok_congr hread]
  · rw [bindWith_callStart hlookup _ (qualifier.utf8ByteSize + name.utf8ByteSize + 4),
      ← Nat.add_zero (qualifier.utf8ByteSize + name.utf8ByteSize + 4), bindWith_translates hread, herror]
    rfl
  · rw [bindWith, bindWith, hlookup]
    exact ⟨rfl, rfl⟩

/-- A list with a parenthesis in quotes, a call and quotes that stay open, one with an error in a call, and one
with parentheses that do not match, of a method that is unknown. -/
theorem scan_call_joining :
    joining.scan (callText "text" "join" "\x7b\x7b text.join(')', a) \x7d\x7d, by=\"-") =
        .ok [.call ⟨"text", joinMethod,
          [⟨.positional, "string", some [.call ⟨"text", joinMethod,
              [⟨.positional, "string", some [.text "')'"]⟩, ⟨.positional, "string", some [.text "a"]⟩,
                ⟨.keyword "by", "string", none⟩]⟩]⟩,
            ⟨.positional, "string", none⟩, ⟨.keyword "by", "string", some [.text "\"-"]⟩]⟩] ∧
      joining.scan (callText "text" "join" "é, {{text.join(with=b)}}") = .error ⟨.unknownKeyword "with", 28⟩ ∧
      joining.scan (callText "text" "split-up" "),)") = .error ⟨.unknownMethod "text" "split-up", 2⟩ := by
  have hword : isWord "text".toList = true := by decide
  have hjoin : Hyphenated "join".toList := isMethodName_iff.1 (by decide)
  have hsplit : Hyphenated "split-up".toList := isMethodName_iff.1 (by decide)
  refine ⟨?_, ?_, ?_⟩
  · refine ((scan_call joining hword hjoin (by decide)).1 _).2 ?_
    cbv
  · have herror : joining.bind "text" "join" "é, {{text.join(with=b)}}" = .error ⟨.unknownKeyword "with", 16⟩ := by
      cbv
    rw [(scan_call joining hword hjoin (by decide)).2.1 joinMethod _ (by rfl) herror]
    rfl
  · exact ((scan_call joining hword hsplit (by decide)).2.2 (by rfl)).2

end Dialect

end Interpolation
