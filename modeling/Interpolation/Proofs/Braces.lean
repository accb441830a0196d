import Interpolation.Syntax.Piece
import Mathlib.Data.List.Infix

/-!
# Pairs of braces

The boundaries of spans are found by a walk along the text that takes braces in pairs. This file says what
that walk is on its own terms, without the functions that cut a text, and then that those functions follow it.

* `Interpolation.Brace.cut` – the **units** of a text: read from the left, two equal braces are one unit and
  every other character is a unit by itself. Units are where all the trouble is: of three braces in a row the
  first two belong together, so putting two texts side by side may shift a pair. The condition under which it
  does not is `Interpolation.Brace.Apart` (`Interpolation.Brace.cut_append`).
* `Interpolation.Brace.Closes` – what stands between the braces of a span: counted from level one, the units
  of the text and its closing pair come down to zero, for the first time, at their very end.
* `Interpolation.Brace.IsBalanced` – a text whose own units come back to the level they start from and never
  go below it. A text closes a span exactly when it is balanced and does not end in a closing brace on its
  own (`Interpolation.Brace.closes_iff`), which is the form that composes: balanced texts may be put
  together.

The two searches of the scanner are then characterized, `Interpolation.untilOpen?_eq_some_iff` for the first
opening pair and `Interpolation.untilClose?_eq_some_iff` for the pair that closes a span.
-/

namespace Interpolation

/-- **A unit of a text**, as far as braces are concerned. -/
inductive Brace where
  /-- A pair of opening braces. -/
  | opening
  /-- A pair of closing braces. -/
  | closing
  /-- A character on its own. -/
  | single (c : Char)
deriving DecidableEq

namespace Brace

/-- **The units of a text**, braces being taken in pairs from the left. -/
def cut : List Char → List Brace
  | '{' :: '{' :: rest => opening :: cut rest
  | '}' :: '}' :: rest => closing :: cut rest
  | c :: rest => single c :: cut rest
  | [] => []

/-! ### Cutting two texts side by side -/

/-- Whether a character is a brace. -/
def IsBrace (c : Char) : Prop := c = '{' ∨ c = '}'

instance (c : Char) : Decidable (IsBrace c) := inferInstanceAs (Decidable (_ ∨ _))

/-- The first text does not end in a brace on its own that the second one would complete to a pair. -/
def Apart (s t : List Char) : Prop :=
  ∀ c, t.head? = some c → IsBrace c → (cut s).getLast? ≠ some (single c)

@[simp] theorem cut_nil : cut [] = [] := rfl

@[simp] theorem cut_opening (s : List Char) : cut ('{' :: '{' :: s) = opening :: cut s := by
  rw [cut]

@[simp] theorem cut_closing (s : List Char) : cut ('}' :: '}' :: s) = closing :: cut s := by
  rw [cut]

/-- A character that does not start a pair is a unit by itself. -/
theorem cut_single {c : Char} {s : List Char} (h : IsBrace c → s.head? ≠ some c) :
    cut (c :: s) = single c :: cut s := by
  rw [cut]
  · rintro rest rfl rfl
    exact h (Or.inl rfl) rfl
  · rintro rest rfl rfl
    exact h (Or.inr rfl) rfl

/-- A character that starts no pair in front of a text starts none in front of a beginning of it. -/
theorem cut_single_of_append {c : Char} {s t : List Char} (h : IsBrace c → (s ++ t).head? ≠ some c) :
    cut (c :: s) = single c :: cut s := by
  refine cut_single fun hb hhead => h hb ?_
  rw [List.head?_append, hhead]
  rfl

/-- A brace that starts no pair is not followed by its like. -/
theorem head?_ne_of_not_pair {c : Char} {s : List Char} (hopen : ∀ rest, c = '{' → s = '{' :: rest → False)
    (hclose : ∀ rest, c = '}' → s = '}' :: rest → False) (hb : IsBrace c) : s.head? ≠ some c := by
  intro hhead
  obtain ⟨rest, rfl⟩ := List.head?_eq_some_iff.1 hhead
  rcases hb with rfl | rfl
  · exact hopen rest rfl rfl
  · exact hclose rest rfl rfl

/-- Characters other than braces are units by themselves. -/
theorem cut_cons {c : Char} (hc : ¬IsBrace c) (s : List Char) : cut (c :: s) = single c :: cut s :=
  cut_single fun h => absurd h hc

theorem cut_ne_nil {s : List Char} (h : s ≠ []) : cut s ≠ [] := by
  fun_cases cut s <;> simp_all

/-- **Texts that do not pair a brace across the seam are cut one after the other.** -/
theorem cut_append {s t : List Char} (h : Apart s t) : cut (s ++ t) = cut s ++ cut t := by
  fun_induction cut s with
  | case1 rest ih =>
    have hrest : Apart rest t := by
      intro c hc hb hlast
      exact h c hc hb (by rw [cut_opening, List.getLast?_cons, hlast]; rfl)
    simp [ih hrest]
  | case2 rest ih =>
    have hrest : Apart rest t := by
      intro c hc hb hlast
      exact h c hc hb (by rw [cut_closing, List.getLast?_cons, hlast]; rfl)
    simp [ih hrest]
  | case3 c rest hopen hclose ih =>
    have hpair := head?_ne_of_not_pair hopen hclose
    have hcut : cut (c :: rest) = single c :: cut rest := cut_single hpair
    have hrest : Apart rest t := by
      intro d hd hb hlast
      exact h d hd hb (by rw [hcut, List.getLast?_cons, hlast]; rfl)
    -- Only at the seam can the character meet one that was not behind it before.
    have hfirst : IsBrace c → (rest ++ t).head? ≠ some c := by
      intro hb hhead
      cases rest with
      | nil => exact h c hhead hb (by rw [hcut]; rfl)
      | cons d rest => exact hpair hb hhead
    rw [List.cons_append, cut_single hfirst, ih hrest, List.cons_append]
  | case4 => rfl

/-- What starts with no brace can follow any text. -/
theorem apart_of_head {s t : List Char} (h : ∀ c, t.head? = some c → ¬IsBrace c) : Apart s t :=
  fun c hc hb => absurd hb (h c hc)

/-- The last unit of a text is its last character, or a pair of it. -/
theorem getLast?_of_getLast?_cut {s : List Char} {c : Char} (h : (cut s).getLast? = some (single c)) :
    s.getLast? = some c := by
  fun_induction cut s with
  | case1 rest ih =>
    cases rest with
    | nil => simp at h
    | cons d rest =>
      rw [List.getLast?_cons_of_ne_nil (cut_ne_nil (by simp))] at h
      simpa using ih h
  | case2 rest ih =>
    cases rest with
    | nil => simp at h
    | cons d rest =>
      rw [List.getLast?_cons_of_ne_nil (cut_ne_nil (by simp))] at h
      simpa using ih h
  | case3 d rest _ _ ih =>
    cases rest with
    | nil => simpa using h
    | cons e rest =>
      rw [List.getLast?_cons_of_ne_nil (cut_ne_nil (by simp))] at h
      simpa using ih h
  | case4 => simp at h

/-! ### Levels -/

/-- How much a unit changes the level. -/
def change : Brace → Int
  | opening => 1
  | closing => -1
  | single _ => 0

/-- The level behind some units. -/
def level : Int → List Brace → Int
  | start, [] => start
  | start, unit :: units => level (start + unit.change) units

@[simp] theorem level_nil (start : Int) : level start [] = start := rfl

@[simp] theorem level_cons (start : Int) (unit : Brace) (units : List Brace) :
    level start (unit :: units) = level (start + unit.change) units := rfl

/-- The level comes down to zero, for the first time, behind the last of the units. -/
def FirstZeroAtEnd (start : Int) (units : List Brace) : Prop :=
  level start units = 0 ∧ ∀ n < units.length, level start (units.take n) ≠ 0

instance (start : Int) (units : List Brace) : Decidable (FirstZeroAtEnd start units) :=
  inferInstanceAs (Decidable (_ ∧ _))

/-- A text between the braces of a span. -/
def braced (inner : List Char) : List Char := '{' :: '{' :: inner ++ ['}', '}']

/-- **What stands between the braces of a span**: from level one, the walk along the text and the closing pair
of braces behind it comes down to zero, for the first time, at its very end. -/
def Closes (inner : List Char) : Prop := FirstZeroAtEnd 1 (cut (inner ++ ['}', '}']))

instance (inner : List Char) : Decidable (Closes inner) :=
  inferInstanceAs (Decidable (FirstZeroAtEnd _ _))

theorem firstZeroAtEnd_nil (start : Int) : FirstZeroAtEnd start [] ↔ start = 0 := by
  simp [FirstZeroAtEnd]

theorem firstZeroAtEnd_cons (start : Int) (unit : Brace) (units : List Brace) :
    FirstZeroAtEnd start (unit :: units) ↔ start ≠ 0 ∧ FirstZeroAtEnd (start + unit.change) units := by
  constructor
  · rintro ⟨hend, hbefore⟩
    refine ⟨?_, by simpa using hend, fun n hn => ?_⟩
    · simpa using hbefore 0 (by simp)
    · simpa using hbefore (n + 1) (by simpa using hn)
  · rintro ⟨hstart, hend, hbefore⟩
    refine ⟨by simpa using hend, fun n hn => ?_⟩
    cases n with
    | zero => simpa using hstart
    | succ n => simpa using hbefore n (by simpa using hn)

/-- How many pairs are open behind some units, if none of them closes more than there is to close. -/
def walk : Nat → List Brace → Option Nat
  | n, [] => some n
  | n, opening :: rest => walk (n + 1) rest
  | 0, closing :: _ => none
  | n + 1, closing :: rest => walk n rest
  | n, single _ :: rest => walk n rest

/-- **A text that leaves the level as it was** and never goes below it. -/
def IsBalanced (s : List Char) : Prop := walk 0 (cut s) = some 0

/-- Whether a text ends in a closing brace on its own. -/
def EndsStray (s : List Char) : Prop := (cut s).getLast? = some (single '}')

instance (s : List Char) : Decidable (EndsStray s) :=
  inferInstanceAs (Decidable (_ = _))

@[simp] theorem walk_nil (n : Nat) : walk n [] = some n := by rw [walk]

@[simp] theorem walk_opening (n : Nat) (units : List Brace) :
    walk n (opening :: units) = walk (n + 1) units := by rw [walk]

@[simp] theorem walk_zero_closing (units : List Brace) : walk 0 (closing :: units) = none := by rw [walk]

@[simp] theorem walk_succ_closing (n : Nat) (units : List Brace) :
    walk (n + 1) (closing :: units) = walk n units := by rw [walk]

@[simp] theorem walk_single (n : Nat) (c : Char) (units : List Brace) :
    walk n (single c :: units) = walk n units := by rw [walk]

/-- Walking along two lists of units is walking along one after the other. -/
theorem walk_append (n : Nat) (first second : List Brace) :
    walk n (first ++ second) = (walk n first).bind (walk · second) := by
  fun_induction walk n first with
  | case1 n => simp
  | case2 n rest ih => simpa using ih
  | case3 rest => simp
  | case4 n rest ih => simpa using ih
  | case5 n c rest ih => simpa using ih

/-- Pairs that are open before the walk stay open. -/
theorem walk_add {n m : Nat} {units : List Brace} (h : walk n units = some m) (k : Nat) :
    walk (n + k) units = some (m + k) := by
  fun_induction walk n units with
  | case1 n => simpa using h
  | case2 n rest ih => simpa [Nat.add_right_comm] using ih h
  | case3 rest => simp at h
  | case4 n rest ih => simpa [Nat.add_right_comm] using ih h
  | case5 n c rest ih => simpa using ih h

/-! ### The text of a span -/

/-- A unit in front of a text does not change what it ends in. -/
theorem endsStray_of_cut_cons {unit : Brace} {s t : List Char} (hcut : cut t = unit :: cut s)
    (hunit : s = [] → unit ≠ single '}') : EndsStray t ↔ EndsStray s := by
  rw [EndsStray, EndsStray, hcut]
  rcases eq_or_ne s [] with rfl | hs
  · simpa using hunit rfl
  · rw [List.getLast?_cons_of_ne_nil (cut_ne_nil hs)]

/-- A closing pair behind a text is a unit of its own, unless the text ends in a stray closing brace. -/
theorem cut_append_closing {s : List Char} (h : ¬EndsStray s) (after : List Char) :
    cut (s ++ '}' :: '}' :: after) = cut s ++ closing :: cut after := by
  rw [cut_append, cut_closing]
  rintro c hc - hlast
  obtain rfl : '}' = c := by simpa using hc
  exact h hlast

/-- Closing a span from a level above one is a walk that ends the levels in between. -/
theorem firstZeroAtEnd_cut_iff (k : Nat) (s : List Char) :
    FirstZeroAtEnd (k + 1) (cut (s ++ ['}', '}'])) ↔ walk k (cut s) = some 0 ∧ ¬EndsStray s := by
  fun_induction cut s generalizing k with
  | case1 rest ih =>
    have hlevel : ((k : Int) + 1 + change opening) = ((k + 1 : Nat) : Int) + 1 := by
      simp only [change]
      omega
    rw [List.cons_append, List.cons_append, cut_opening, firstZeroAtEnd_cons, hlevel, ih (k + 1),
      walk_opening, endsStray_of_cut_cons (cut_opening rest) (by simp)]
    constructor
    · exact fun h => h.2
    · exact fun h => ⟨by omega, h⟩
  | case2 rest ih =>
    rw [List.cons_append, List.cons_append, cut_closing, firstZeroAtEnd_cons,
      endsStray_of_cut_cons (cut_closing rest) (by simp)]
    cases k with
    | zero =>
      -- The level is zero before the end, since the pair at the end is still to come.
      have hrest : cut (rest ++ ['}', '}']) ≠ [] := cut_ne_nil (by simp)
      obtain ⟨unit, units, hunits⟩ := List.exists_cons_of_ne_nil hrest
      simp [hunits, firstZeroAtEnd_cons, change]
    | succ k =>
      have hlevel : (((k + 1 : Nat) : Int) + 1 + change closing) = (k : Int) + 1 := by
        simp only [change]
        omega
      rw [hlevel, ih k, walk_succ_closing]
      constructor
      · exact fun h => h.2
      · exact fun h => ⟨by omega, h⟩
  | case3 c rest hopen hclose ih =>
    have hpair := head?_ne_of_not_pair hopen hclose
    have hcut : cut (c :: rest) = single c :: cut rest := cut_single hpair
    by_cases hstray : rest = [] ∧ c = '}'
    · -- The stray brace pairs with the first one behind it, and a brace is left over.
      obtain ⟨rfl, rfl⟩ := hstray
      have hpair : cut (['}'] ++ ['}', '}']) = [closing, single '}'] := by decide
      rw [hpair]
      have hends : EndsStray ['}'] := by decide
      simp only [hends, not_true_eq_false, and_false, iff_false]
      rintro ⟨hend, hbefore⟩
      simp only [level_cons, level_nil, change] at hend
      exact hbefore 1 (by simp) (by simp [change]; omega)
    · have hfirst : IsBrace c → (rest ++ ['}', '}']).head? ≠ some c := by
        intro hb hhead
        cases rest with
        | nil => exact hstray ⟨rfl, by simpa using hhead.symm⟩
        | cons d rest => exact hpair hb hhead
      rw [List.cons_append, cut_single hfirst, firstZeroAtEnd_cons, walk_single,
        endsStray_of_cut_cons hcut (by rintro rfl h; exact hstray ⟨rfl, by simpa using h⟩)]
      have hlevel : ((k : Int) + 1 + change (single c)) = (k : Int) + 1 := by simp [change]
      rw [hlevel, ih k]
      constructor
      · exact fun h => h.2
      · exact fun h => ⟨by omega, h⟩
  | case4 =>
    have hends : ¬EndsStray [] := by decide
    simp only [List.nil_append, cut_closing, cut_nil, firstZeroAtEnd_cons, firstZeroAtEnd_nil, change,
      walk_nil, Option.some.injEq]
    constructor
    · rintro ⟨-, h⟩
      exact ⟨by omega, hends⟩
    · rintro ⟨h, -⟩
      exact ⟨by omega, by omega⟩

/-- **A text closes a span exactly when it is balanced and does not end in a stray closing brace.** -/
theorem closes_iff (inner : List Char) : Closes inner ↔ IsBalanced inner ∧ ¬EndsStray inner := by
  have h := firstZeroAtEnd_cut_iff 0 inner
  simpa [Closes, IsBalanced] using h

/-! ### Balanced texts -/

/-- A text without an opening pair of braces. -/
def LacksOpening (s : List Char) : Prop := ¬['{', '{'] <:+: s

/-- A text without a closing pair of braces. -/
def LacksClosing (s : List Char) : Prop := ¬['}', '}'] <:+: s

instance (s : List Char) : Decidable (LacksOpening s) := inferInstanceAs (Decidable (¬_))

instance (s : List Char) : Decidable (LacksClosing s) := inferInstanceAs (Decidable (¬_))

theorem singleton_prefix_iff {c : Char} {s : List Char} : [c] <+: s ↔ s.head? = some c := by
  cases s with
  | nil => simp
  | cons d s => simp [List.cons_prefix_cons, eq_comm]

theorem lacksOpening_cons {c : Char} {s : List Char} :
    LacksOpening (c :: s) ↔ ¬(c = '{' ∧ s.head? = some '{') ∧ LacksOpening s := by
  rw [LacksOpening, LacksOpening, List.infix_cons_iff, not_or, List.cons_prefix_cons,
    singleton_prefix_iff, eq_comm]

theorem lacksClosing_cons {c : Char} {s : List Char} :
    LacksClosing (c :: s) ↔ ¬(c = '}' ∧ s.head? = some '}') ∧ LacksClosing s := by
  rw [LacksClosing, LacksClosing, List.infix_cons_iff, not_or, List.cons_prefix_cons,
    singleton_prefix_iff, eq_comm]

/-- An opening pair somewhere in a text is, or lies in a run with, one of its units. -/
theorem lacksOpening_iff (s : List Char) : LacksOpening s ↔ opening ∉ cut s := by
  fun_induction cut s with
  | case1 rest ih => simp [lacksOpening_cons]
  | case2 rest ih => simp [lacksOpening_cons, ih]
  | case3 c rest hopen hclose ih =>
    rw [lacksOpening_cons, ih]
    have hfirst : ¬(c = '{' ∧ rest.head? = some '{') := by
      rintro ⟨rfl, hhead⟩
      exact head?_ne_of_not_pair hopen hclose (Or.inl rfl) hhead
    simp [hfirst]
  | case4 => simp [LacksOpening]

/-- A closing pair somewhere in a text is, or lies in a run with, one of its units. -/
theorem lacksClosing_iff (s : List Char) : LacksClosing s ↔ closing ∉ cut s := by
  fun_induction cut s with
  | case1 rest ih => simp [lacksClosing_cons, ih]
  | case2 rest ih => simp [lacksClosing_cons]
  | case3 c rest hopen hclose ih =>
    rw [lacksClosing_cons, ih]
    have hfirst : ¬(c = '}' ∧ rest.head? = some '}') := by
      rintro ⟨rfl, hhead⟩
      exact head?_ne_of_not_pair hopen hclose (Or.inr rfl) hhead
    simp [hfirst]
  | case4 => simp [LacksClosing]

/-- Units other than pairs leave the level as it is. -/
theorem walk_of_single {units : List Brace} (hopen : opening ∉ units) (hclose : closing ∉ units)
    (n : Nat) : walk n units = some n := by
  fun_induction walk n units <;> simp_all

/-- Without an opening pair there is nothing that a closing pair could end. -/
theorem closing_notMem_of_walk {units : List Brace} (hopen : opening ∉ units) {m : Nat}
    (h : walk 0 units = some m) : closing ∉ units ∧ m = 0 := by
  induction units with
  | nil => simpa [eq_comm] using h
  | cons unit units ih =>
    cases unit with
    | opening => simp at hopen
    | closing => simp at h
    | single c =>
      have := ih (by simpa using hopen) (by simpa using h)
      simpa using this

@[simp] theorem isBalanced_nil : IsBalanced [] := by
  rw [IsBalanced, cut_nil, walk_nil]

/-- Text without pairs of braces is balanced. -/
theorem isBalanced_of_lacks {s : List Char} (hopen : LacksOpening s) (hclose : LacksClosing s) :
    IsBalanced s :=
  walk_of_single ((lacksOpening_iff s).1 hopen) ((lacksClosing_iff s).1 hclose) 0

/-- Balanced texts that do not pair a brace across the seam are balanced together. -/
theorem IsBalanced.append {s t : List Char} (hs : IsBalanced s) (ht : IsBalanced t) (h : Apart s t) :
    IsBalanced (s ++ t) := by
  rw [IsBalanced] at hs ht ⊢
  rw [cut_append h, walk_append, hs]
  exact ht

/-- A character other than a brace may stand in front of a balanced text. -/
theorem isBalanced_cons {c : Char} (hc : ¬IsBrace c) {s : List Char} :
    IsBalanced (c :: s) ↔ IsBalanced s := by
  rw [IsBalanced, IsBalanced, cut_cons hc, walk_single]

/-- The units of a span. -/
theorem Closes.cut_braced {inner : List Char} (h : Closes inner) :
    cut (braced inner) = opening :: cut inner ++ [closing] := by
  rw [braced, List.cons_append, List.cons_append, cut_opening, cut_append_closing ((closes_iff inner).1 h).2]
  rfl

/-- A span is balanced. -/
theorem Closes.balanced {inner : List Char} (h : Closes inner) : IsBalanced (braced inner) := by
  have hbal := ((closes_iff inner).1 h).1
  rw [IsBalanced] at hbal ⊢
  rw [h.cut_braced, List.cons_append, walk_opening, walk_append, walk_add hbal 1]
  rfl

/-- A span can stand before any text. -/
theorem Closes.apart {inner : List Char} (h : Closes inner) (t : List Char) : Apart (braced inner) t := by
  intro c _ _ hlast
  rw [h.cut_braced, List.getLast?_append] at hlast
  simp at hlast

end Brace

open Brace

/-! ### The two searches -/

/-- **The first opening pair** ends a text without such a pair, which does not end in an opening brace. -/
theorem untilOpen?_eq_some_iff {s before behind : List Char} :
    untilOpen? s = some (before, behind) ↔
      s = before ++ '{' :: '{' :: behind ∧ LacksOpening before ∧ before.getLast? ≠ some '{' := by
  fun_induction untilOpen? s generalizing before with
  | case1 rest =>
    constructor
    · intro h
      obtain ⟨rfl, rfl⟩ : [] = before ∧ rest = behind := by simpa using h
      exact ⟨rfl, by decide, by simp⟩
    · rintro ⟨heq, hlacks, hlast⟩
      cases before with
      | nil => simpa using heq
      | cons c before =>
        obtain ⟨rfl, hrest⟩ : '{' = c ∧ '{' :: rest = before ++ '{' :: '{' :: behind := by
          simpa using heq
        -- A beginning longer than the empty one would hold the pair itself, or its first half.
        cases before with
        | nil => simp at hlast
        | cons d before =>
          obtain ⟨rfl, -⟩ : '{' = d ∧ _ := List.cons.inj hrest
          exact absurd (lacksOpening_cons.1 hlacks).1 (by simp)
  | case2 c rest hfirst ih =>
    constructor
    · intro h
      obtain ⟨⟨b, a⟩, hfound, heq⟩ := Option.map_eq_some_iff.1 h
      obtain ⟨rfl, rfl⟩ : c :: b = before ∧ a = behind := by simpa using heq
      obtain ⟨rfl, hlacks, hlast⟩ := ih.1 hfound
      refine ⟨rfl, lacksOpening_cons.2 ⟨?_, hlacks⟩, ?_⟩
      · rintro ⟨rfl, hhead⟩
        cases b with
        | nil => simp at hhead
        | cons d b =>
          obtain rfl : d = '{' := by simpa using hhead
          exact hfirst _ rfl rfl
      · cases b with
        | nil =>
          intro h
          obtain rfl : c = '{' := by simpa using h
          exact hfirst _ rfl rfl
        | cons d b => simpa using hlast
    · rintro ⟨heq, hlacks, hlast⟩
      cases before with
      | nil =>
        obtain ⟨rfl, rfl⟩ : c = '{' ∧ rest = '{' :: behind := by simpa using heq
        exact absurd rfl (hfirst _ rfl)
      | cons d before =>
        obtain ⟨rfl, rfl⟩ : c = d ∧ rest = before ++ '{' :: '{' :: behind := by simpa using heq
        have hfound := ih.2 ⟨rfl, (lacksOpening_cons.1 hlacks).2, by
          cases before with
          | nil => simp
          | cons e before => simpa using hlast⟩
        rw [hfound]
        rfl
  | case3 =>
    simp

/-- There is no first opening pair exactly when there is none at all. -/
theorem untilOpen?_eq_none_iff {s : List Char} : untilOpen? s = none ↔ LacksOpening s := by
  fun_induction untilOpen? s with
  | case1 rest => simp [lacksOpening_cons]
  | case2 c rest hfirst ih =>
    have hhead : ¬(c = '{' ∧ rest.head? = some '{') := by
      rintro ⟨rfl, hhead⟩
      obtain ⟨rest, rfl⟩ := List.head?_eq_some_iff.1 hhead
      exact hfirst rest rfl rfl
    rw [Option.map_eq_none_iff, ih, lacksOpening_cons]
    exact ⟨fun h => ⟨hhead, h⟩, fun h => h.2⟩
  | case3 => simp [LacksOpening]

/-- **One unit in front of what the rest of the search finds.** The unit is the first one of every text that the
pair can close, and takes the level to the one at which the rest is searched. -/
theorem map_unit_eq_some_iff {k l : Nat} (unit : List Char) (brace : Brace) {rest inner after : List Char}
    {found : Option (List Char × List Char)}
    (hfound : ∀ i, found = some (i, after) ↔
      rest = i ++ '}' :: '}' :: after ∧ walk l (cut i) = some 0 ∧ ¬EndsStray i)
    (hwalk : ∀ units, walk k (brace :: units) = walk l units)
    (hcut : ∀ i, rest = i ++ '}' :: '}' :: after → cut (unit ++ i) = brace :: cut i)
    (hstray : rest = '}' :: '}' :: after → brace ≠ single '}')
    (hfirst : unit ++ rest = inner ++ '}' :: '}' :: after → walk k (cut inner) = some 0 → ¬EndsStray inner →
      unit <+: inner) :
    found.map (fun p => (unit ++ p.1, p.2)) = some (inner, after) ↔
      unit ++ rest = inner ++ '}' :: '}' :: after ∧ walk k (cut inner) = some 0 ∧ ¬EndsStray inner := by
  have hcloses {i : List Char} (hrest : rest = i ++ '}' :: '}' :: after) :
      walk k (cut (unit ++ i)) = some 0 ∧ ¬EndsStray (unit ++ i) ↔ walk l (cut i) = some 0 ∧ ¬EndsStray i := by
    have hends : EndsStray (unit ++ i) ↔ EndsStray i := by
      refine endsStray_of_cut_cons (hcut i hrest) fun hnil => hstray ?_
      rw [hrest, hnil, List.nil_append]
    rw [hcut i hrest, hwalk, hends]
  constructor
  · intro h
    obtain ⟨⟨i, a⟩, hsome, heq⟩ := Option.map_eq_some_iff.1 h
    obtain ⟨rfl, rfl⟩ : unit ++ i = inner ∧ a = after := by simpa using heq
    obtain ⟨hrest, hi⟩ := (hfound i).1 hsome
    exact ⟨by rw [hrest, List.append_assoc], (hcloses hrest).2 hi⟩
  · rintro ⟨heq, hinner⟩
    obtain ⟨i, rfl⟩ := hfirst heq hinner.1 hinner.2
    rw [List.append_assoc] at heq
    have hrest := List.append_cancel_left heq
    rw [(hfound i).2 ⟨hrest, (hcloses hrest).1 hinner⟩]
    rfl

/-- **The closing pair of a span**, so many further pairs being open, ends a text that closes them. -/
theorem untilClose?_eq_some_iff {k : Nat} {s inner after : List Char} :
    untilClose? k s = some (inner, after) ↔
      s = inner ++ '}' :: '}' :: after ∧ walk k (cut inner) = some 0 ∧ ¬EndsStray inner := by
  -- Along the search: each case but the one that ends it puts one unit in front of what the rest finds.
  fun_induction untilClose? k s generalizing inner with
  | case1 k rest ih =>
    refine map_unit_eq_some_iff ['{', '{'] opening (fun _ => ih) (walk_opening k) (fun i _ => cut_opening i)
      (by simp) fun heq _ _ => ?_
    rcases inner with _ | ⟨c, _ | ⟨d, i⟩⟩
    · simp at heq
    · simp at heq
    · obtain ⟨rfl, rfl, -⟩ : '{' = c ∧ '{' = d ∧ _ := by simpa using heq
      exact List.prefix_append _ i
  | case2 rest =>
    constructor
    · intro h
      obtain ⟨rfl, rfl⟩ : [] = inner ∧ rest = after := by simpa using h
      exact ⟨rfl, by simp, by decide⟩
    · rintro ⟨heq, hwalk, hstray⟩
      cases inner with
      | nil => simpa using heq
      | cons c inner =>
        obtain ⟨rfl, hrest⟩ : '}' = c ∧ '}' :: rest = inner ++ '}' :: '}' :: after := by
          simpa using heq
        -- A longer text would close too much, or end in the first half of the pair.
        cases inner with
        | nil => exact absurd (by decide) hstray
        | cons d inner =>
          obtain ⟨rfl, -⟩ : '}' = d ∧ _ := List.cons.inj hrest
          simp at hwalk
  | case3 rest k ih =>
    refine map_unit_eq_some_iff ['}', '}'] closing (fun _ => ih) (walk_succ_closing k) (fun i _ => cut_closing i)
      (by simp) fun heq hwalk hstray => ?_
    -- A shorter text would leave the pair open, or end in its first half.
    rcases inner with _ | ⟨c, _ | ⟨d, i⟩⟩
    · simp at hwalk
    · obtain ⟨rfl, -⟩ : '}' = c ∧ _ := by simpa using heq
      exact absurd (by decide) hstray
    · obtain ⟨rfl, rfl, -⟩ : '}' = c ∧ '}' = d ∧ _ := by simpa using heq
      exact List.prefix_append _ i
  | case4 k c rest hopen hclose ih =>
    have hpair := head?_ne_of_not_pair hopen hclose
    refine map_unit_eq_some_iff [c] (single c) (fun _ => ih) (walk_single k c) (fun i hrest => ?_)
      (fun hrest hc => ?_) fun heq _ _ => ?_
    · rw [hrest] at hpair
      exact cut_single_of_append hpair
    · -- A closing brace right in front of the pair would have been taken as the pair's first half.
      obtain rfl : c = '}' := by simpa using hc
      exact hclose _ rfl hrest
    · cases inner with
      | nil =>
        obtain ⟨rfl, rfl⟩ : c = '}' ∧ rest = '}' :: after := by simpa using heq
        exact absurd rfl (hclose _ rfl)
      | cons d i =>
        obtain ⟨rfl, -⟩ : c = d ∧ _ := by simpa using heq
        exact List.prefix_append _ i
  | case5 k => simp

/-- **The closing pair of a span** ends the text of the span. -/
theorem untilClose?_zero_eq_some_iff {s inner after : List Char} :
    untilClose? 0 s = some (inner, after) ↔ s = inner ++ '}' :: '}' :: after ∧ Closes inner := by
  rw [untilClose?_eq_some_iff, closes_iff, IsBalanced]

end Interpolation
