import Mathlib.Tactic.SplitIfs

/-!
# The order of bytes

Strings are compared by the code points of their characters. Listings are said to be in the order of bytes, and
for texts in UTF-8 this is the same order (`Interpolation.Text.lt_iff_bytes_lt`): a character with a larger code
point has bytes that are larger where they first differ from those of the other, so that what follows does not
matter (`Interpolation.Text.utf8EncodeChar_append_lt`).
-/

namespace Interpolation.Text

open String

/-- The bytes of a string's UTF-8 form. -/
def bytes (s : String) : List UInt8 := s.toUTF8.data.toList

/-- A list of bytes is below another one if its first byte is, or if the first bytes are the same and the rest
is below the rest. -/
theorem cons_lt_cons_of_le {a b : Nat} (hb : b < 256) (h : a ≤ b) {s t : List UInt8}
    (hrest : a = b → s < t) : UInt8.ofNat a :: s < UInt8.ofNat b :: t := by
  rw [List.cons_lt_cons_iff]
  rcases Nat.lt_or_eq_of_le h with hlt | heq
  · left
    rw [UInt8.lt_iff_toNat_lt, UInt8.toNat_ofNat', UInt8.toNat_ofNat']
    omega
  · exact Or.inr ⟨congrArg _ heq, hrest heq⟩

/-- **The bytes of a smaller character come first**, whatever follows. -/
theorem utf8EncodeChar_append_lt {c d : Char} (h : c < d) (s t : List UInt8) :
    utf8EncodeChar c ++ s < utf8EncodeChar d ++ t := by
  have hlt : c.val.toNat < d.val.toNat := h
  have hbound : d.val.toNat < 1114112 := by
    rcases d.valid with h | ⟨-, h⟩ <;> omega
  simp only [utf8EncodeChar]
  generalize c.val.toNat = v at hlt
  generalize d.val.toNat = w at hlt hbound
  -- A larger character has no fewer bytes, and with more of them the first one is larger.
  split_ifs <;> try omega
  all_goals rw [List.cons_append, List.cons_append]
  · exact cons_lt_cons_of_le (by omega) (by omega) (by omega)
  · exact cons_lt_cons_of_le (by omega) (by omega) (by omega)
  · exact cons_lt_cons_of_le (by omega) (by omega) (by omega)
  · exact cons_lt_cons_of_le (by omega) (by omega) (by omega)
  · refine cons_lt_cons_of_le (by omega) (by omega) fun h₁ => ?_
    exact cons_lt_cons_of_le (by omega) (by omega) (by omega)
  · exact cons_lt_cons_of_le (by omega) (by omega) (by omega)
  · exact cons_lt_cons_of_le (by omega) (by omega) (by omega)
  · refine cons_lt_cons_of_le (by omega) (by omega) fun h₁ => ?_
    refine cons_lt_cons_of_le (by omega) (by omega) fun h₂ => ?_
    exact cons_lt_cons_of_le (by omega) (by omega) (by omega)
  · exact cons_lt_cons_of_le (by omega) (by omega) (by omega)
  · refine cons_lt_cons_of_le (by omega) (by omega) fun h₁ => ?_
    refine cons_lt_cons_of_le (by omega) (by omega) fun h₂ => ?_
    refine cons_lt_cons_of_le (by omega) (by omega) fun h₃ => ?_
    exact cons_lt_cons_of_le (by omega) (by omega) (by omega)

/-- The order of texts by characters is kept by their bytes. -/
theorem flatMap_utf8EncodeChar_lt {s t : List Char} (h : s < t) :
    s.flatMap utf8EncodeChar < t.flatMap utf8EncodeChar := by
  induction s generalizing t with
  | nil =>
    cases t with
    | nil => exact absurd h (List.not_lt_nil _)
    | cons d t =>
      have hne : utf8EncodeChar d ++ t.flatMap utf8EncodeChar ≠ [] := by simp
      obtain ⟨first, rest, hcons⟩ := List.exists_cons_of_ne_nil hne
      rw [List.flatMap_nil, List.flatMap_cons, hcons]
      exact List.nil_lt_cons first rest
  | cons c s ih =>
    cases t with
    | nil => exact absurd h (List.not_lt_nil _)
    | cons d t =>
      rw [List.flatMap_cons, List.flatMap_cons]
      rcases List.cons_lt_cons_iff.1 h with hlt | ⟨rfl, hrest⟩
      · exact utf8EncodeChar_append_lt hlt _ _
      · exact List.append_left_lt (ih hrest)

theorem bytes_eq (s : String) : bytes s = s.toList.flatMap utf8EncodeChar := by
  obtain ⟨l, rfl⟩ : ∃ l, s = ofList l := ⟨s.toList, ofList_toList.symm⟩
  rw [bytes, toUTF8, toByteArray_ofList, List.utf8Encode, List.data_toByteArray, toList_ofList]

/-- **The order of strings is the order of their bytes.** -/
theorem lt_iff_bytes_lt {s t : String} : s < t ↔ bytes s < bytes t := by
  have hkeeps {s t : String} (h : s < t) : bytes s < bytes t := by
    rw [bytes_eq, bytes_eq]
    exact flatMap_utf8EncodeChar_lt h
  refine ⟨hkeeps, fun h => ?_⟩
  rcases Std.lt_trichotomy s t with hlt | rfl | hgt
  · exact hlt
  · exact absurd h (List.lt_irrefl _)
  · exact absurd h (List.lt_asymm (hkeeps hgt))

end Interpolation.Text
