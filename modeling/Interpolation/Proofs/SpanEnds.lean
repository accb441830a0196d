import Interpolation.Syntax.Piece
import Interpolation.Proofs.Slices

/-!
# Spans by bytes

The pairs of braces of a text are searched for in its bytes, one byte after the other, with a level that is
counted up and down (`Interpolation.Guarded.spanEnd`). On any bytes whatsoever the search ends without a
trap, and what it finds is at least two pairs behind its start and not beyond the end
(`Interpolation.Guarded.spanEnd_total`): the level is at least one as long as the search goes on.

On the bytes of a text it finds what the characters say (`Interpolation.Guarded.spanEnd_encode`). It also
looks at the bytes that carry on a character, and no pair starts with one of these.
-/

namespace Interpolation.Guarded

open Text

/-- The bytes of an opening pair. -/
def opening : List UInt8 := encode ['{', '{']

/-- The bytes of a closing pair. -/
def closing : List UInt8 := encode ['}', '}']

/-- Whether the bytes from an offset on start with those of a pair. -/
def startsAt (pair bytes : List UInt8) (offset : Nat) : Except Halt Bool :=
  if offset ≤ bytes.length then .ok (pair.isPrefixOf (bytes.drop offset)) else .error (.trap .outOfRange)

/-- The end of the closing pair that brings the level to zero. -/
def closeFrom (bytes : List UInt8) (level i : Nat) : Except Halt (Option Nat) :=
  if _inside : i < bytes.length then do
    if ← startsAt opening bytes i then
      closeFrom bytes (level + 1) (i + 2)
    else if ← startsAt closing bytes i then
      let level ← difference level 1
      if level = 0 then return some (i + 2) else closeFrom bytes level (i + 2)
    else
      closeFrom bytes level (i + 1)
  else
    return none
termination_by bytes.length - i

/-- **The end of the span that starts at an offset**, if it has one. -/
def spanEnd (bytes : List UInt8) (start : Nat) : Except Halt (Option Nat) := closeFrom bytes 1 (start + 2)

/-! ### On any bytes -/

section Search

variable {bytes : List UInt8} {level i : Nat}

/-- One step of the search. -/
theorem closeFrom_succ (hi : i < bytes.length) :
    closeFrom bytes (level + 1) i =
      if opening <+: bytes.drop i then closeFrom bytes (level + 2) (i + 2)
      else if closing <+: bytes.drop i then
        if level = 0 then .ok (some (i + 2)) else closeFrom bytes level (i + 2)
      else closeFrom bytes (level + 1) (i + 1) := by
  rw [closeFrom, dif_pos hi, startsAt, startsAt, if_pos (Nat.le_of_lt hi), if_pos (Nat.le_of_lt hi),
    difference_of_le (Nat.le_add_left 1 level)]
  simp only [← List.isPrefixOf_iff_prefix]
  cases opening.isPrefixOf (bytes.drop i) with
  | true => rfl
  | false =>
    cases closing.isPrefixOf (bytes.drop i) with
    | true => rfl
    | false => rfl

theorem closeFrom_of_le (hi : bytes.length ≤ i) : closeFrom bytes level i = .ok none := by
  rw [closeFrom, dif_neg (Nat.not_lt.2 hi)]
  rfl

theorem add_two_le_of_prefix_drop {s t : Char} (h : encode [s, t] <+: bytes.drop i) :
    i + 2 ≤ bytes.length := by
  have hs := s.utf8Size_pos
  have ht := t.utf8Size_pos
  have hle := h.length_le
  rw [length_encode, List.length_drop, width_cons, width_cons, width_nil] at hle
  omega

/-- **The search does not halt**, and what it finds is a closing pair further on. -/
theorem closeFrom_total (bytes : List UInt8) (level i : Nat) :
    ∃ found, closeFrom bytes (level + 1) i = .ok found ∧
      ∀ stop ∈ found, i + 2 ≤ stop ∧ stop ≤ bytes.length := by
  induction hn : bytes.length - i using Nat.strong_induction_on generalizing level i with
  | _ n ih =>
    have hnext (level j : Nat) (hj : i < j) (hin : i < bytes.length) :
        ∃ found, closeFrom bytes (level + 1) j = .ok found ∧
          ∀ stop ∈ found, i + 2 ≤ stop ∧ stop ≤ bytes.length := by
      obtain ⟨found, heq, hfound⟩ := ih (bytes.length - j) (by omega) level j rfl
      exact ⟨found, heq, fun stop hstop => ⟨by have := (hfound stop hstop).1; omega, (hfound stop hstop).2⟩⟩
    rcases Nat.lt_or_ge i bytes.length with hi | hi
    · rw [closeFrom_succ hi]
      split_ifs with hopen hclose hlevel
      · exact hnext (level + 1) (i + 2) (by omega) hi
      · refine ⟨_, rfl, fun stop hstop => ?_⟩
        obtain rfl := Option.mem_some_iff.1 hstop
        exact ⟨le_rfl, add_two_le_of_prefix_drop hclose⟩
      · obtain ⟨rest, rfl⟩ := Nat.exists_eq_add_one_of_ne_zero hlevel
        exact hnext rest (i + 2) (by omega) hi
      · exact hnext level (i + 1) (by omega) hi
    · exact ⟨none, closeFrom_of_le hi, by simp⟩

/-- **The end of a span** is at least four bytes behind its start and not beyond the end. -/
theorem spanEnd_total (bytes : List UInt8) (start : Nat) :
    ∃ found, spanEnd bytes start = .ok found ∧ ∀ stop ∈ found, start + 4 ≤ stop ∧ stop ≤ bytes.length :=
  closeFrom_total bytes 0 (start + 2)

end Search

/-! ### On the bytes of a text -/

section Characters

variable {before rest : List Char} {s t : Char} {level : Nat}

theorem encode_pair_prefix_iff :
    encode [s, t] <+: (encode (before ++ rest)).drop (width before) ↔ ∃ more, rest = s :: t :: more := by
  rw [drop_width_encode, encode_prefix_iff]
  exact ⟨fun ⟨more, hmore⟩ => ⟨more, hmore.symm⟩, fun ⟨more, hmore⟩ => ⟨more, hmore.symm⟩⟩

/-- No pair starts with a character of its own that is not followed by another one. -/
theorem not_prefix_of_single {c : Char} (h : ∀ more, c = s → rest ≠ s :: more) :
    ¬encode [s, s] <+: (encode (before ++ c :: rest)).drop (width before) := by
  intro hprefix
  obtain ⟨more, hmore⟩ := encode_pair_prefix_iff.1 hprefix
  exact h more (List.cons.inj hmore).1 (List.cons.inj hmore).2

theorem width_lt_length_encode (before rest : List Char) (c : Char) :
    width before < (encode (before ++ c :: rest)).length := by
  rw [length_encode]
  exact width_lt_append before rest c

theorem closeFrom_opening :
    closeFrom (encode (before ++ '{' :: '{' :: rest)) (level + 1) (width before) =
      closeFrom (encode (before ++ ['{', '{'] ++ rest)) (level + 2) (width (before ++ ['{', '{'])) := by
  have hopen : opening <+: (encode (before ++ '{' :: '{' :: rest)).drop (width before) :=
    encode_pair_prefix_iff.2 ⟨rest, rfl⟩
  rw [closeFrom_succ (width_lt_length_encode _ _ _), if_pos hopen, width_append, List.append_assoc]
  rfl

theorem closeFrom_closing :
    closeFrom (encode (before ++ '}' :: '}' :: rest)) (level + 1) (width before) =
      if level = 0 then .ok (some (width before + 2))
      else closeFrom (encode (before ++ ['}', '}'] ++ rest)) level (width (before ++ ['}', '}'])) := by
  have hopen : ¬opening <+: (encode (before ++ '}' :: '}' :: rest)).drop (width before) :=
    not_prefix_of_single fun _ h => absurd h (by decide)
  have hclose : closing <+: (encode (before ++ '}' :: '}' :: rest)).drop (width before) :=
    encode_pair_prefix_iff.2 ⟨rest, rfl⟩
  rw [closeFrom_succ (width_lt_length_encode _ _ _), if_neg hopen, if_pos hclose, width_append,
    List.append_assoc]
  rfl

/-- No pair of braces starts with a byte that carries on a character. -/
theorem not_prefix_of_isContinuation {bytes : List UInt8} {i : Nat} {byte : UInt8} (h : bytes[i]? = some byte)
    (hbyte : isContinuation byte = true) : ¬opening <+: bytes.drop i ∧ ¬closing <+: bytes.drop i := by
  obtain ⟨hi, rfl⟩ := List.getElem?_eq_some_iff.1 h
  rw [List.drop_eq_getElem_cons hi]
  have hne (first : UInt8) (hfirst : isContinuation first = false) : first ≠ bytes[i] := by
    rintro rfl
    rw [hfirst] at hbyte
    cases hbyte
  constructor
  · exact fun hopen => hne 0x7b (by decide) (List.cons_prefix_cons.1 hopen).1
  · exact fun hclose => hne 0x7d (by decide) (List.cons_prefix_cons.1 hclose).1

/-- The search passes over a character with which no pair starts, all its bytes included. -/
theorem closeFrom_pass {c : Char} (hopen : ∀ more, c = '{' → rest ≠ '{' :: more)
    (hclose : ∀ more, c = '}' → rest ≠ '}' :: more) :
    closeFrom (encode (before ++ c :: rest)) (level + 1) (width before) =
      closeFrom (encode (before ++ c :: rest)) (level + 1) (width (before ++ [c])) := by
  have hfirst : closeFrom (encode (before ++ c :: rest)) (level + 1) (width before) =
      closeFrom (encode (before ++ c :: rest)) (level + 1) (width before + 1) := by
    rw [closeFrom_succ (width_lt_length_encode _ _ _), opening, closing, if_neg (not_prefix_of_single hopen),
      if_neg (not_prefix_of_single hclose)]
  rw [hfirst, width_append, width_cons, width_nil]
  refine walk_over_character before rest c fun i byte hbyte hcont => ?_
  obtain ⟨hopen, hclose⟩ := not_prefix_of_isContinuation hbyte hcont
  rw [closeFrom_succ (List.getElem?_eq_some_iff.1 hbyte).1, if_neg hopen, if_neg hclose]

/-- What is found behind some characters is found behind these and more of them. -/
theorem map_found (before front : List Char) (found : Option (List Char × List Char)) :
    ((found.map fun (inner, after) => (front ++ inner, after)).map fun (inner, _) =>
        width before + width inner + 2) =
      found.map fun (inner, _) => width (before ++ front) + width inner + 2 := by
  cases found with
  | none => rfl
  | some pair => simp [Nat.add_assoc]

end Characters

/-- **The search finds the end that the characters say.** -/
theorem closeFrom_encode (before rest : List Char) (level : Nat) :
    closeFrom (encode (before ++ rest)) (level + 1) (width before) =
      .ok ((untilClose? level rest).map fun (inner, _) => width before + width inner + 2) := by
  fun_induction untilClose? level rest generalizing before with
  | case1 level rest ih =>
    rw [closeFrom_opening, ih (before ++ ['{', '{'])]
    exact congrArg _ (map_found before ['{', '{'] _).symm
  | case2 rest =>
    rw [closeFrom_closing, if_pos rfl]
    rfl
  | case3 rest level ih =>
    rw [closeFrom_closing, if_neg (Nat.succ_ne_zero level), ih (before ++ ['}', '}'])]
    exact congrArg _ (map_found before ['}', '}'] _).symm
  | case4 level c rest hopen hclose ih =>
    rw [closeFrom_pass hopen hclose, List.append_cons, ih (before ++ [c])]
    exact congrArg _ (map_found before [c] _).symm
  | case5 level =>
    rw [closeFrom_of_le (by simp)]
    rfl

/-- **The end of a span** that starts behind some characters. -/
theorem spanEnd_encode (before behind : List Char) :
    spanEnd (encode (before ++ '{' :: '{' :: behind)) (width before) =
      .ok ((untilClose? 0 behind).map fun (inner, _) => width before + 2 + width inner + 2) := by
  have hpair : width (before ++ ['{', '{']) = width before + 2 := width_append _ _
  have h := closeFrom_encode (before ++ ['{', '{']) behind 0
  rw [List.append_assoc, hpair] at h
  exact h

end Interpolation.Guarded
