import Interpolation.Syntax.ArgumentList
import Interpolation.Proofs.Slices
import Interpolation.Proofs.Splitting

/-!
# Argument lists by offsets

An argument list is walked along once, with the offset of the character and the offset at which its argument
starts, and every argument is a slice of the list (`Interpolation.Guarded.split`). The walk adds the width
of each character, and one for each comma that cuts, so that both offsets are always those between two
characters: the list is what stands in front of the argument, its characters so far and the rest. From there
on the walk gives what the pieces of the list give (`Interpolation.Guarded.splitFrom_eq`), and in particular
every slice is taken.

The depth of the walk is the one number that may go below zero. It is a signed one, and it stays within the
length of the list (`Interpolation.Nesting.natAbs_depth_walk_le`).
-/

namespace Interpolation

namespace Nesting

/-- A character changes the depth by one at most. -/
theorem natAbs_depth_step_le (state : Nesting) (c : Char) :
    (state.step c).depth.natAbs ≤ state.depth.natAbs + 1 := by
  obtain ⟨depth, quote⟩ := state
  cases quote with
  | none =>
    simp only [step]
    split_ifs <;> dsimp only <;> omega
  | some mark =>
    simp only [step]
    split_ifs <;> exact Nat.le_add_right _ _

/-- **The depth stays within the length** of what has been read. -/
theorem natAbs_depth_walk_le (state : Nesting) (s : List Char) :
    (state.walk s).depth.natAbs ≤ state.depth.natAbs + s.length := by
  induction s generalizing state with
  | nil => exact le_rfl
  | cons c s ih =>
    have hfirst := natAbs_depth_step_le state c
    have hrest := ih (state.step c)
    rw [walk_cons, List.length_cons]
    omega

end Nesting

namespace Guarded

open Text ArgumentList

/-- The argument between two offsets of a list. -/
def trimmed (raw : List Char) (start stop : Nat) : Except Halt Argument := do
  let piece ← slice raw start stop
  return ⟨start + (← lead piece), trim piece⟩

/-- The arguments from one that starts at an offset, the walk having come to the rest at another. -/
def splitFrom (raw : List Char) (state : Nesting) (start i : Nat) : List Char → Except Halt (List Argument)
  | [] => do
    let last ← trimmed raw start (width raw)
    return if last.text.isEmpty then [] else [last]
  | c :: rest =>
    if state.cuts c then do
      let argument ← trimmed raw start i
      let arguments ← splitFrom raw state (i + 1) (i + c.utf8Size) rest
      return argument :: arguments
    else
      splitFrom raw (state.step c) start (i + c.utf8Size) rest

/-- **The arguments of a list**, cut out of it by their offsets. -/
def split (raw : List Char) : Except Halt (List Argument) := splitFrom raw .outside 0 0 raw

section Walk

variable {raw before piece rest first : List Char} {others : List (List Char)} {state : Nesting}
  {start i : Nat}

theorem trimmed_eq (hraw : raw = before ++ piece ++ rest) (hstart : start = width before)
    (hi : i = start + width piece) :
    trimmed raw start i = .ok ⟨start + width (leading piece), trim piece⟩ := by
  have hslice : slice raw start i = .ok piece :=
    slice_eq_ok_iff.2 ⟨before, rest, hraw, hstart.symm, hstart ▸ hi.symm⟩
  rw [trimmed, hslice, ok_bind, lead_eq]
  rfl

/-- **The walk gives what the pieces give**, the first of them beginning with the characters so far. -/
theorem splitFrom_eq (before piece : List Char) (hpieces : pieces state rest = first :: others)
    (hraw : raw = before ++ piece ++ rest) (hstart : start = width before) (hi : i = start + width piece) :
    splitFrom raw state start i rest = .ok (dropEmptyLast (place start ((piece ++ first) :: others))) := by
  induction rest generalizing state before piece first others start i with
  | nil =>
    obtain ⟨rfl, rfl⟩ := List.cons.inj hpieces
    have hend : width raw = start + width piece := by simp [hraw, hstart]
    rw [splitFrom, trimmed_eq hraw hstart hend, List.append_nil]
    rfl
  | cons c rest ih =>
    rw [pieces] at hpieces
    rw [splitFrom]
    by_cases hcut : state.cuts c = true
    · rw [if_pos hcut] at hpieces ⊢
      obtain ⟨rfl, rfl⟩ := List.cons.inj hpieces
      obtain ⟨next, others, hnext⟩ := List.exists_cons_of_ne_nil (pieces_ne_nil state rest)
      -- A comma is one byte wide, and the next argument starts behind it.
      obtain rfl : c = ',' := by
        rw [Nesting.cuts, Bool.and_eq_true, beq_iff_eq] at hcut
        exact hcut.1
      have hbehind : i + 1 = width (before ++ piece ++ [',']) := by
        rw [width_append, width_append, ← hstart, ← hi]
        rfl
      have hrest : splitFrom raw state (i + 1) (i + 1) rest =
          .ok (dropEmptyLast (place (i + 1) (next :: others))) :=
        ih _ [] hnext (by simp [hraw]) hbehind rfl
      have hone : i + Char.utf8Size ',' = i + 1 := rfl
      rw [trimmed_eq hraw hstart hi, ok_bind, hone, hrest, List.append_nil, hnext, hi]
      rfl
    · rw [if_neg hcut] at hpieces ⊢
      obtain ⟨next, others', hnext⟩ := List.exists_cons_of_ne_nil (pieces_ne_nil (state.step c) rest)
      rw [hnext] at hpieces
      obtain ⟨rfl, rfl⟩ := List.cons.inj hpieces
      have hwider : i + c.utf8Size = start + width (piece ++ [c]) := by
        rw [width_append, width_cons, width_nil]
        omega
      rw [ih before (piece ++ [c]) hnext (by simp [hraw]) hstart hwider, List.append_assoc]
      rfl

end Walk

/-- **The arguments that are cut out are those of the list.** -/
theorem split_eq (raw : List Char) : split raw = .ok (ArgumentList.split raw) := by
  obtain ⟨first, others, hpieces⟩ := List.exists_cons_of_ne_nil (pieces_ne_nil .outside raw)
  rw [ArgumentList.split, hpieces, split]
  exact splitFrom_eq [] [] hpieces rfl rfl rfl

end Guarded

end Interpolation
