import Interpolation.Proofs.Gaps

/-!
# Behind a closing parenthesis too many

The splitter counts parentheses and lets the count go below zero. Where it is below zero no comma cuts, so that
a parenthesis too many keeps the rest of the list together, whatever it holds. It does so only as long as the
count stays away from zero: an opening parenthesis that nothing closes makes up for the one too many, and the
next comma cuts again.

The count is here taken from the text alone, as the parentheses among the characters outside quotes
(`Interpolation.Nesting.unquoted`), and `Interpolation.Nesting.depth_walk` says that the walk has the same one.
The arguments of a list are those up to a comma that cuts and those behind it
(`Interpolation.ArgumentList.split_append`), so that the question is about the last argument alone. The main
statement, `Interpolation.ArgumentList.split_append_of_surplus`, says exactly when it is kept whole.
-/

namespace Interpolation

namespace Nesting

/-! ### Counting parentheses -/

/-- **The characters outside quotes**, `mark` being the quotation mark that is still to be closed. The marks
themselves do not count. -/
def unquoted (mark : Option Char) : List Char → List Char
  | [] => []
  | c :: rest =>
    match mark with
    | some quote => unquoted (if c = quote then none else some quote) rest
    | none => if c = '"' ∨ c = '\'' then unquoted (some c) rest else c :: unquoted none rest

/-- **More parentheses have been closed than opened**, outside quotes. -/
def HasSurplus (s : List Char) : Prop := (unquoted none s).count '(' < (unquoted none s).count ')'

instance (s : List Char) : Decidable (HasSurplus s) := inferInstanceAs (Decidable (_ < _))

/-- **As many parentheses have been opened as closed**, outside quotes, and no quote is left open. -/
def IsLevel (s : List Char) : Prop :=
  (unquoted none s).count '(' = (unquoted none s).count ')' ∧ (outside.walk s).quote = none

instance (s : List Char) : Decidable (IsLevel s) := inferInstanceAs (Decidable (_ ∧ _))

/-- **The depth behind a text** is the one before it, and the parentheses opened less those closed. -/
theorem depth_walk (state : Nesting) (s : List Char) :
    (state.walk s).depth =
      state.depth + (unquoted state.quote s).count '(' - (unquoted state.quote s).count ')' := by
  induction s generalizing state with
  | nil => simp [unquoted]
  | cons c s ih =>
    rw [walk_cons, ih]
    obtain ⟨depth, mark⟩ := state
    cases mark with
    | some mark =>
      by_cases hc : c = mark
      · simp [step, unquoted, hc]
      · simp [step, unquoted, hc]
    | none =>
      by_cases hquote : c = '"' ∨ c = '\''
      · simp [step, unquoted, hquote]
      · by_cases hopen : c = '('
        · subst hopen
          simp [step, unquoted]
          omega
        · by_cases hclose : c = ')'
          · subst hclose
            simp [step, unquoted]
            omega
          · simp [step, unquoted, hquote, hopen, hclose]

theorem hasSurplus_iff {s : List Char} : HasSurplus s ↔ (outside.walk s).depth < 0 := by
  rw [HasSurplus, depth_walk]
  simp only [outside]
  omega

/-- A comma cuts exactly at a level place. -/
theorem isLevel_iff {s : List Char} : IsLevel s ↔ outside.walk s = outside := by
  have hdepth := depth_walk outside s
  have hstate : outside.walk s = outside ↔ (outside.walk s).depth = 0 ∧ (outside.walk s).quote = none := by
    cases outside.walk s
    simp [outside]
  rw [IsLevel, hstate, hdepth]
  simp only [outside]
  exact and_congr_left fun _ => by omega

/-! ### Two texts in a row -/

theorem meetsNoCut_append {state : Nesting} {s t : List Char} :
    state.MeetsNoCut (s ++ t) ↔ state.MeetsNoCut s ∧ (state.walk s).MeetsNoCut t := by
  induction s generalizing state with
  | nil => simp
  | cons c s ih => rw [List.cons_append, meetsNoCut_cons, meetsNoCut_cons, ih, walk_cons, and_assoc]

/-- No later character cuts exactly if no later comma stands at a level place. -/
theorem meetsNoCut_walk_iff {before after : List Char} :
    (outside.walk before).MeetsNoCut after ↔
      ∀ p q, after = p ++ ',' :: q → ¬IsLevel (before ++ p) := by
  simp only [isLevel_iff, walk_append]
  constructor
  · rintro h p q rfl hlevel
    have hcut := h p ',' q rfl
    rw [hlevel] at hcut
    exact absurd hcut (by decide)
  · rintro h p c q rfl
    rw [Bool.eq_false_iff]
    intro hcut
    obtain ⟨rfl, hlevel⟩ := eq_outside_of_cuts hcut
    exact h p q rfl hlevel

end Nesting

open Nesting

/-- The same argument, so many bytes further on. -/
def Argument.shift (bytes : Nat) (argument : Argument) : Argument :=
  { argument with offset := bytes + argument.offset }

theorem Argument.shift_injective (bytes : Nat) : Function.Injective (shift bytes) := by
  rintro ⟨offset, text⟩ ⟨offset', text'⟩ h
  obtain ⟨hoffset, rfl⟩ := Argument.mk.inj h
  obtain rfl := Nat.add_left_cancel hoffset
  rfl

/-- What is not blank is the same in a text and in what trimming leaves of it. -/
theorem Text.solid_trim (s : List Char) : solid (trim s) = solid s := by
  obtain ⟨w, v, hw, hv, heq⟩ := exists_trim_eq s
  conv_rhs => rw [heq]
  simp [solid_append, solid_of_isBlankText hw, solid_of_isBlankText hv]

namespace ArgumentList

/-! ### Behind a comma that cuts -/

/-- **An argument starts behind the text**: it is empty, or its last character is a comma that cuts. -/
def StartsArgument (front : List Char) : Prop :=
  front = [] ∨ ∃ list, front = list ++ [','] ∧ outside.walk list = outside

theorem StartsArgument.walk_eq {front : List Char} (h : StartsArgument front) :
    outside.walk front = outside := by
  rcases h with rfl | ⟨list, rfl, hlist⟩
  · rfl
  · rw [walk_append, hlist]
    rfl

/-- **Every place is in an argument**: what stands in front of the place is a beginning behind which an argument
starts, and the part of that argument. -/
theorem exists_startsArgument (s : List Char) :
    ∃ front part, s = front ++ part ∧ StartsArgument front ∧ outside.MeetsNoCut part := by
  -- On the length: behind the first comma that cuts, the rest is such a text again.
  induction hn : s.length using Nat.strong_induction_on generalizing s with
  | _ n ih =>
    subst hn
    rcases pieces_cases outside s with ⟨hcut, -⟩ | ⟨first, rest, rfl, -, hend, -⟩
    · exact ⟨[], s, rfl, .inl rfl, hcut⟩
    · obtain ⟨front, part, rfl, hfront, hpart⟩ := ih rest.length (by simp; omega) rest rfl
      refine ⟨first ++ ',' :: front, part, by simp, .inr ?_, hpart⟩
      rcases hfront with rfl | ⟨list, rfl, hlist⟩
      · exact ⟨first, rfl, hend⟩
      · refine ⟨first ++ ',' :: list, by simp, ?_⟩
        rw [walk_append, hend, walk_cons]
        exact hlist

theorem consFirst_append {c : Char} {first second : List (List Char)} (h : first ≠ []) :
    consFirst c (first ++ second) = consFirst c first ++ second := by
  obtain ⟨piece, rest, rfl⟩ := List.exists_cons_of_ne_nil h
  rfl

/-- The pieces up to a comma that cuts, and those behind it. -/
theorem pieces_append_of_walk {state : Nesting} {s : List Char} (h : state.walk s = outside) (t : List Char) :
    pieces state (s ++ ',' :: t) = pieces state s ++ pieces outside t := by
  induction s generalizing state with
  | nil =>
    obtain rfl : state = outside := h
    rfl
  | cons c s ih =>
    rw [List.cons_append, pieces, pieces]
    split
    · rename_i hcut
      obtain ⟨rfl, rfl⟩ := eq_outside_of_cuts hcut
      have hrest : outside.walk s = outside := h
      rw [ih hrest, List.cons_append]
    · rw [ih h, consFirst_append (pieces_ne_nil _ _)]

/-- Pieces and the commas behind them are as wide as their text and one comma more. -/
theorem place_pieces_append (start : Nat) (state : Nesting) (s : List Char) (rest : List (List Char)) :
    place start (pieces state s ++ rest) =
      place start (pieces state s) ++ place (start + Text.width s + 1) rest := by
  -- On the length, as the pieces behind a comma are those of the rest.
  induction hn : s.length using Nat.strong_induction_on generalizing start state s with
  | _ n ih =>
    subst hn
    rcases pieces_cases state s with ⟨-, hpieces⟩ | ⟨first, behind, rfl, -, -, hpieces⟩
    · rw [hpieces, List.singleton_append, place, place, place]
      rfl
    · have hcomma : Char.utf8Size ',' = 1 := by decide
      have hwidth : start + Text.width (first ++ ',' :: behind) + 1 =
          start + Text.width first + 1 + Text.width behind + 1 := by
        rw [Text.width_append, Text.width_cons, hcomma]
        omega
      rw [hpieces, List.cons_append, place, ih behind.length (by simp; omega) _ outside behind rfl, place, hwidth,
        List.cons_append]

theorem place_add (bytes start : Nat) (pieces : List (List Char)) :
    place (bytes + start) pieces = (place start pieces).map (·.shift bytes) := by
  induction pieces generalizing start with
  | nil => rfl
  | cons piece pieces ih =>
    rw [place, place, List.map_cons, Nat.add_assoc bytes, Nat.add_assoc bytes, Nat.add_assoc bytes, ih]
    rfl

theorem dropEmptyLast_append {first second : List Argument} (h : second ≠ []) :
    dropEmptyLast (first ++ second) = first ++ dropEmptyLast second := by
  induction first with
  | nil => rfl
  | cons argument first ih => rw [List.cons_append, dropEmptyLast_cons (by simp [h]), ih, List.cons_append]

theorem dropEmptyLast_map_shift (bytes : Nat) (arguments : List Argument) :
    dropEmptyLast (arguments.map (·.shift bytes)) = (dropEmptyLast arguments).map (·.shift bytes) := by
  fun_induction dropEmptyLast arguments with
  | case1 => rfl
  | case2 argument hempty => simp [dropEmptyLast, Argument.shift, hempty]
  | case3 argument hne => simp [dropEmptyLast, Argument.shift, hne]
  | case4 argument rest hne ih => rw [List.map_cons, dropEmptyLast_cons (by simpa using hne), ih, List.map_cons]

/-- **Behind a comma that cuts, a list is cut as though it stood by itself.** -/
theorem split_append {front : List Char} (h : StartsArgument front) (s : List Char) :
    split (front ++ s) = split front ++ (split s).map (·.shift (Text.width front)) := by
  rcases h with rfl | ⟨list, rfl, hlist⟩
  · have hshift : (Argument.shift 0 : Argument → Argument) = id := by
      funext argument
      rw [Argument.shift, Nat.zero_add, id]
    have hnil : split [] = [] := rfl
    rw [List.nil_append, hnil, List.nil_append, Text.width_nil, hshift, List.map_id]
  · have hwidth : Text.width (list ++ [',']) = 0 + Text.width list + 1 := by
      have hcomma : Char.utf8Size ',' = 1 := by decide
      rw [Text.width_append, Text.width_cons, hcomma, Text.width_nil]
      omega
    have hsplit (t : List Char) : split (list ++ ',' :: t) =
        place 0 (pieces outside list) ++ (split t).map (·.shift (0 + Text.width list + 1)) := by
      rw [split, pieces_append_of_walk hlist, place_pieces_append,
        dropEmptyLast_append (place_ne_nil (pieces_ne_nil _ _)), split, ← dropEmptyLast_map_shift, ← place_add,
        Nat.add_zero]
    have hfront : split (list ++ [',']) = place 0 (pieces outside list) := by
      have := hsplit []
      rwa [show split [] = [] from rfl, List.map_nil, List.append_nil] at this
    rw [hfront, hwidth, List.append_assoc, List.singleton_append, hsplit]

/-! ### Kept whole -/

/-- **A list that is not blank is one argument** exactly if no comma cuts it. -/
theorem split_eq_singleton_iff {s : List Char} (hs : Text.isBlankText s = false) :
    split s = [⟨Text.width (Text.leading s), Text.trim s⟩] ↔ outside.MeetsNoCut s := by
  constructor
  · intro h
    have htexts : (split s).map (·.text) = [Text.trim s] := by rw [h]; rfl
    rcases map_text_split_cases s with ⟨hcut, -⟩ | ⟨first, rest, rfl, -, -, hsplit⟩
    · exact hcut
    · -- The comma is not blank, so that the whole list is more than what stands in front of it.
      rw [hsplit] at htexts
      have hsolid := congrArg Text.solid (List.cons.inj htexts).1
      rw [Text.solid_trim, Text.solid_trim, Text.solid_append, List.self_eq_append_right] at hsolid
      simp [Text.solid, show Text.isBlank ',' = false by decide] at hsolid
  · intro h
    have hne : (Text.trim s).isEmpty = false := by
      rw [List.isEmpty_eq_false_iff, Ne, Text.trim_eq_nil_iff, hs]
      exact Bool.false_ne_true
    rw [split, pieces_of_meetsNoCut h, place, place, dropEmptyLast, if_neg (by simp [hne]), Nat.zero_add]

/-- A part with a parenthesis too many is not blank. -/
theorem isBlankText_append_eq_false {part : List Char} (h : outside.walk part ≠ outside) (after : List Char) :
    Text.isBlankText (part ++ after) = false := by
  rw [Bool.eq_false_iff]
  intro hblank
  exact h (isQuoted_outside.walk_blank (Text.isBlankText_append.1 hblank).1)

/-- **Behind a closing parenthesis too many** the list is kept together, from the start of the argument that
holds it to the end, exactly if no later comma stands at a level place. A later comma at a level place cuts, and
behind it the list is cut as though it stood by itself. -/
theorem split_append_of_surplus {before : List Char} (h : HasSurplus before) :
    ∃ front part, before = front ++ part ∧ StartsArgument front ∧ outside.MeetsNoCut part ∧ ∀ after,
      (split (before ++ after) = split front ++
          [⟨Text.width front + Text.width (Text.leading (part ++ after)), Text.trim (part ++ after)⟩] ↔
        ∀ p q, after = p ++ ',' :: q → ¬IsLevel (before ++ p)) ∧
      ∀ p q, after = p ++ ',' :: q → IsLevel (before ++ p) →
        split (before ++ after) = split (before ++ p ++ [',']) ++
          (split q).map (·.shift (Text.width (before ++ p ++ [',']))) := by
  obtain ⟨front, part, rfl, hfront, hpart⟩ := exists_startsArgument before
  refine ⟨front, part, rfl, hfront, hpart, fun after => ⟨?_, ?_⟩⟩
  · have hwalk : outside.walk (front ++ part) = outside.walk part := by rw [walk_append, hfront.walk_eq]
    have hne : outside.walk part ≠ outside := by
      intro heq
      have hdepth := hasSurplus_iff.1 h
      rw [hwalk, heq] at hdepth
      exact absurd hdepth (by decide)
    have hlast : [⟨Text.width front + Text.width (Text.leading (part ++ after)), Text.trim (part ++ after)⟩] =
        [Argument.mk (Text.width (Text.leading (part ++ after))) (Text.trim (part ++ after))].map
          (·.shift (Text.width front)) := rfl
    rw [← meetsNoCut_walk_iff, hwalk, List.append_assoc, split_append hfront, List.append_cancel_left_eq, hlast,
      (List.map_injective_iff.2 (Argument.shift_injective _)).eq_iff,
      split_eq_singleton_iff (isBlankText_append_eq_false hne after), meetsNoCut_append]
    exact and_iff_right hpart
  · rintro p q rfl hlevel
    have hstarts : StartsArgument (front ++ part ++ p ++ [',']) := .inr ⟨_, rfl, isLevel_iff.1 hlevel⟩
    rw [← split_append hstarts]
    simp

/-- A list that stays together behind its second comma, and one that is cut again behind an opening parenthesis
that nothing closes. -/
theorem split_append_of_surplus_again :
    HasSurplus "é, x) y".toList ∧
      (∃ front part, "é, x) y".toList = front ++ part ∧ StartsArgument front ∧
        split ("é, x) y".toList ++ ", (z), ')'".toList) =
          split front ++ [⟨Text.width front + Text.width (Text.leading (part ++ ", (z), ')'".toList)),
            Text.trim (part ++ ", (z), ')'".toList)⟩]) ∧
      split ("é, x) y".toList ++ (" (z".toList ++ ',' :: " w".toList)) =
        [⟨0, ['é']⟩, ⟨4, "x) y (z".toList⟩, ⟨13, ['w']⟩] := by
  have hsurplus : HasSurplus "é, x) y".toList := by decide
  obtain ⟨front, part, heq, hfront, -, hafter⟩ := split_append_of_surplus hsurplus
  refine ⟨hsurplus, ⟨front, part, heq, hfront, (hafter _).1.2 ?_⟩, ?_⟩
  · rw [← meetsNoCut_walk_iff]
    decide
  · rw [(hafter _).2 " (z".toList " w".toList rfl (by decide)]
    decide

/-- **A closing parenthesis too many does not keep the rest together for good.** In `a) (, b` the second
parenthesis makes up for the first one, and the comma cuts. -/
theorem not_split_append_of_surplus :
    ¬∀ front part after, StartsArgument front → outside.MeetsNoCut part → HasSurplus (front ++ part) →
      split (front ++ part ++ after) = split front ++
        [⟨Text.width front + Text.width (Text.leading (part ++ after)), Text.trim (part ++ after)⟩] := by
  intro h
  have hkept := h [] "a)".toList " (, b".toList (.inl rfl) (by decide) (by decide)
  exact absurd hkept (by decide)

end ArgumentList

end Interpolation
