import Interpolation.Proofs.Braces

/-!
# Spans that start in a span

Braces count in pairs from the left, so where a span ends depends on where it starts: of three braces in a row,
the first two are the opening pair for a search that comes from the left, and the last two for one that starts
at the second brace. This file compares two searches for the end of a span in one text, the second of which
starts later.

The later search never goes on for longer (`Interpolation.Brace.Closes.encloses`): what stands between braces
and starts in a span ends in it, wherever it starts. Behind any brace the search that came earlier has opened at
least as many pairs as the later one. The two may be out of step in one run of opening braces, in the middle of
which the later one starts, and are in step again behind it (`Interpolation.length_le_of_out_of_step`).
-/

namespace Interpolation

open Brace

/-- The text behind the closing pair of a span, so many further pairs being open. -/
def afterClose? (level : Nat) (s : List Char) : Option (List Char) := (untilClose? level s).map (·.2)

@[simp] theorem afterClose?_nil (k : Nat) : afterClose? k [] = none := rfl

@[simp] theorem afterClose?_opening (k : Nat) (s : List Char) :
    afterClose? k ('{' :: '{' :: s) = afterClose? (k + 1) s := by
  rw [afterClose?, untilClose?, Option.map_map]
  rfl

@[simp] theorem afterClose?_zero_closing (s : List Char) : afterClose? 0 ('}' :: '}' :: s) = some s := rfl

@[simp] theorem afterClose?_succ_closing (k : Nat) (s : List Char) :
    afterClose? (k + 1) ('}' :: '}' :: s) = afterClose? k s := by
  rw [afterClose?, untilClose?, Option.map_map]
  rfl

/-- A character that does not start a pair is passed over. -/
theorem afterClose?_single {c : Char} {s : List Char} (h : IsBrace c → s.head? ≠ some c) (k : Nat) :
    afterClose? k (c :: s) = afterClose? k s := by
  rw [afterClose?, untilClose?, Option.map_map]
  · rfl
  · rintro rest rfl rfl
    exact h (Or.inl rfl) rfl
  · rintro rest rfl rfl
    exact h (Or.inr rfl) rfl

theorem length_le_of_afterClose? {k : Nat} {s t : List Char} (h : afterClose? k s = some t) :
    t.length ≤ s.length := by
  obtain ⟨⟨inner, after⟩, hfound, rfl⟩ := Option.map_eq_some_iff.1 h
  have := length_of_untilClose? hfound
  dsimp only
  omega

/-- A span ends where its text and the closing pair do. -/
theorem Brace.Closes.afterClose?_append {inner : List Char} (h : Closes inner) (t : List Char) :
    afterClose? 0 (inner ++ '}' :: '}' :: t) = some t := by
  rw [afterClose?, untilClose?_zero_eq_some_iff.2 ⟨rfl, h⟩]
  rfl

/-! ### Two searches -/

section Searches

variable {j k : Nat} {s t u : List Char}

/-- **In step**: with more pairs open, a search stops later. -/
theorem length_le_of_in_step (h : j ≤ k) (hk : afterClose? k s = some t) (hj : afterClose? j s = some u) :
    t.length ≤ u.length := by
  fun_induction cut s generalizing j k with
  | case1 rest ih =>
    rw [afterClose?_opening] at hk hj
    exact ih (Nat.succ_le_succ h) hk hj
  | case2 rest ih =>
    cases j with
    | zero =>
      obtain rfl : rest = u := by simpa using hj
      cases k with
      | zero =>
        obtain rfl : rest = t := by simpa using hk
        exact Nat.le_refl _
      | succ k => exact length_le_of_afterClose? (by simpa using hk)
    | succ j =>
      cases k with
      | zero => omega
      | succ k => exact ih (Nat.le_of_succ_le_succ h) (by simpa using hk) (by simpa using hj)
  | case3 c rest hopen hclose ih =>
    have hpair := head?_ne_of_not_pair hopen hclose
    rw [afterClose?_single hpair] at hk hj
    exact ih h hk hj
  | case4 => simp at hk

/-- **Out of step**: one of the searches has a brace in front of it that the other has behind it. If it is the one
with fewer pairs open, there must be one less, since the brace may be the first of a pair. -/
theorem length_le_of_out_of_step :
    (j ≤ k → afterClose? k ('{' :: s) = some t → afterClose? j s = some u → t.length ≤ u.length) ∧
      (j < k → afterClose? k s = some t → afterClose? j ('{' :: s) = some u → t.length ≤ u.length) := by
  induction s generalizing j k with
  | nil => simp
  | cons c s ih =>
    by_cases hc : c = '{'
    · -- The brace completes a pair for one of the two, and the next one may for the other.
      subst hc
      rw [afterClose?_opening, afterClose?_opening]
      exact ⟨fun h => ih.2 (Nat.lt_succ_of_le h), fun h => ih.1 h⟩
    · have hsingle (n : Nat) : afterClose? n ('{' :: c :: s) = afterClose? n (c :: s) :=
        afterClose?_single (fun _ hhead => hc (by simpa using hhead)) n
      rw [hsingle, hsingle]
      exact ⟨length_le_of_in_step, fun h => length_le_of_in_step (Nat.le_of_lt h)⟩

/-- **A search that starts later** at two opening braces, before the other one stops, stops no later. -/
theorem length_le_of_starts_later {before : List Char}
    (ht : afterClose? k (before ++ '{' :: '{' :: s) = some t) (hbefore : t.length < s.length + 2)
    (hu : afterClose? 0 s = some u) : t.length ≤ u.length := by
  generalize heq : before ++ '{' :: '{' :: s = whole at ht
  -- Along the text, unit by unit, up to the braces at which the later search starts.
  fun_induction cut whole generalizing before k with
  | case1 rest ih =>
    rw [afterClose?_opening] at ht
    rcases before with _ | ⟨c, _ | ⟨d, before⟩⟩
    · obtain rfl : s = rest := by simpa using heq
      exact length_le_of_in_step (Nat.zero_le _) ht hu
    · obtain ⟨rfl, rfl⟩ : c = '{' ∧ '{' :: s = rest := by simpa using heq
      exact length_le_of_out_of_step.1 (Nat.zero_le _) ht hu
    · exact ih (by simpa using (List.cons.inj (List.cons.inj heq).2).2) ht
  | case2 rest ih =>
    rcases before with _ | ⟨c, _ | ⟨d, before⟩⟩
    · simp at heq
    · simp at heq
    · have hrest : before ++ '{' :: '{' :: s = rest := (List.cons.inj (List.cons.inj heq).2).2
      cases k with
      | zero =>
        obtain rfl : rest = t := by simpa using ht
        have hlength := congrArg List.length hrest
        simp only [List.length_append, List.length_cons] at hlength
        omega
      | succ k => exact ih hrest (by simpa using ht)
  | case3 c rest hopen hclose ih =>
    have hpair := head?_ne_of_not_pair hopen hclose
    rw [afterClose?_single hpair] at ht
    cases before with
    | nil =>
      obtain ⟨rfl, rfl⟩ : '{' = c ∧ '{' :: s = rest := by simpa using heq
      exact absurd rfl (hpair (Or.inl rfl))
    | cons d before => exact ih (List.cons.inj heq).2 ht
  | case4 => simp at heq

end Searches

/-! ### Spans -/

namespace Brace.Closes

variable {inner x before behind t : List Char}

/-- Two spans at the beginning of one text are the same. -/
theorem eq_of_append (hinner : Closes inner) (hx : Closes x) (heq : braced inner ++ t = braced x ++ behind) :
    inner = x ∧ t = behind := by
  have heq : inner ++ '}' :: '}' :: t = x ++ '}' :: '}' :: behind := by simpa [braced] using heq
  have hfirst : untilClose? 0 (x ++ '}' :: '}' :: behind) = some (inner, t) :=
    untilClose?_zero_eq_some_iff.2 ⟨heq.symm, hinner⟩
  rw [untilClose?_zero_eq_some_iff.2 ⟨rfl, hx⟩] at hfirst
  simpa [eq_comm] using hfirst

/-- **A span that starts in a span ends in it.** -/
theorem encloses (hinner : Closes inner) (hx : Closes x)
    (heq : braced inner ++ t = before ++ braced x ++ behind) (hbefore : before.length < (braced inner).length) :
    ∃ more, braced inner = before ++ braced x ++ more ∧ behind = more ++ t := by
  have houter := hinner.afterClose?_append t
  have hlater := hx.afterClose?_append behind
  have hlength := congrArg List.length heq
  have hle : t.length ≤ behind.length := by
    simp only [braced, List.length_append, List.length_cons, List.length_nil] at hlength hbefore
    rcases before with _ | ⟨c, _ | ⟨d, before⟩⟩
    · obtain ⟨-, rfl⟩ := hinner.eq_of_append hx (by simpa using heq)
      exact Nat.le_refl _
    · have hrest : inner ++ '}' :: '}' :: t = '{' :: (x ++ '}' :: '}' :: behind) := by
        simpa [braced] using (List.cons.inj (List.cons.inj heq).2).2
      rw [hrest] at houter
      exact length_le_of_out_of_step.1 (Nat.le_refl _) houter hlater
    · have hrest : inner ++ '}' :: '}' :: t = before ++ '{' :: '{' :: (x ++ '}' :: '}' :: behind) := by
        simpa [braced] using (List.cons.inj (List.cons.inj heq).2).2
      rw [hrest] at houter
      refine length_le_of_starts_later houter ?_ hlater
      simp only [List.length_append, List.length_cons]
      simp only [List.length_cons] at hbefore hlength
      omega
  rcases List.append_eq_append_iff.1 heq with ⟨more, hmore, rfl⟩ | ⟨more, hmore, rfl⟩
  · obtain rfl : more = [] := by
      rw [List.length_append] at hle
      exact List.length_eq_zero_iff.1 (by omega)
    exact ⟨[], by simpa using hmore.symm, by simp⟩
  · exact ⟨more, hmore, rfl⟩

end Brace.Closes

end Interpolation
