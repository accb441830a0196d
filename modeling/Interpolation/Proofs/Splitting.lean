import Interpolation.Proofs.Trimming
import Interpolation.Proofs.Heads
import Interpolation.Syntax.ArgumentList

/-!
# Cutting an argument list and joining it again

The splitter cuts at the commas that it meets outside all parentheses and quotes. A text that meets none
(`Interpolation.Nesting.MeetsNoCut`) is one piece, and a comma behind it cuts exactly when the text ends
outside, too. The two facts together give the inversion that everything below is derived from,
`Interpolation.ArgumentList.pieces_cases`: either a text is one piece, or it is a piece, a comma, and a rest
that is cut on its own.

Joining is the other direction. Texts of which none meets a cut and all but the last end outside
(`Interpolation.ArgumentList.Separable`) are found again when they are joined with commas and blanks
(`Interpolation.ArgumentList.pieces_intercalate`). The last one is free to end anywhere, since nothing follows
it that could be swallowed. The arguments of any list are such texts, for neither the cuts nor the blanks around
a piece change the state of the walk, so that they can be joined again
(`Interpolation.ArgumentList.split_intercalate`).
-/

namespace Interpolation

namespace Nesting

/-! ### Walking along a text -/

/-- **No character of the text ends an argument**, the walk along it starting in the given state. -/
def MeetsNoCut (state : Nesting) (s : List Char) : Prop :=
  ∀ before c after, s = before ++ c :: after → (state.walk before).cuts c = false

@[simp] theorem walk_nil (state : Nesting) : state.walk [] = state := rfl

@[simp] theorem walk_cons (state : Nesting) (c : Char) (s : List Char) :
    state.walk (c :: s) = (state.step c).walk s := rfl

theorem walk_append (state : Nesting) (s t : List Char) :
    state.walk (s ++ t) = (state.walk s).walk t := List.foldl_append

@[simp] theorem meetsNoCut_nil (state : Nesting) : state.MeetsNoCut [] := by
  intro before c after h
  simp at h

theorem meetsNoCut_cons {state : Nesting} {c : Char} {s : List Char} :
    state.MeetsNoCut (c :: s) ↔ state.cuts c = false ∧ (state.step c).MeetsNoCut s := by
  constructor
  · intro h
    refine ⟨h [] c s rfl, fun before d after heq => ?_⟩
    exact h (c :: before) d after (by rw [heq, List.cons_append])
  · rintro ⟨hc, hs⟩ before d after heq
    cases before with
    | nil =>
      obtain ⟨rfl, -⟩ : c = d ∧ s = after := by simpa using heq
      exact hc
    | cons e before =>
      obtain ⟨rfl, rfl⟩ : c = e ∧ s = before ++ d :: after := by simpa using heq
      exact hs before d after rfl

instance decidableMeetsNoCut (state : Nesting) : (s : List Char) → Decidable (state.MeetsNoCut s)
  | [] => isTrue (meetsNoCut_nil state)
  | c :: s =>
    have := decidableMeetsNoCut (state.step c) s
    decidable_of_iff _ meetsNoCut_cons.symm

/-- A character that neither quotes, nests nor separates. -/
def IsInert (c : Char) : Prop := c ≠ '"' ∧ c ≠ '\'' ∧ c ≠ '(' ∧ c ≠ ')' ∧ c ≠ ','

theorem step_outside {c : Char} (h : IsInert c) : outside.step c = outside := by
  obtain ⟨h1, h2, h3, h4, -⟩ := h
  simp [step, outside, h1, h2, h3, h4]

theorem cuts_outside {c : Char} (h : IsInert c) : outside.cuts c = false := by
  simp [cuts, h.2.2.2.2]

/-- Inert characters in front of a text make no difference to where it ends. -/
theorem walk_inert_append {s : List Char} (hs : ∀ c ∈ s, IsInert c) (t : List Char) :
    outside.walk (s ++ t) = outside.walk t := by
  induction s with
  | nil => rfl
  | cons c s ih =>
    rw [List.cons_append, walk_cons, step_outside (hs c List.mem_cons_self)]
    exact ih fun d hd => hs d (List.mem_cons_of_mem _ hd)

/-- Inert characters in front of a text make no difference to whether it is cut. -/
theorem meetsNoCut_inert_append {s : List Char} (hs : ∀ c ∈ s, IsInert c) (t : List Char) :
    outside.MeetsNoCut (s ++ t) ↔ outside.MeetsNoCut t := by
  induction s with
  | nil => rfl
  | cons c s ih =>
    have hc := hs c List.mem_cons_self
    rw [List.cons_append, meetsNoCut_cons, step_outside hc, ih fun d hd => hs d (List.mem_cons_of_mem _ hd)]
    exact ⟨fun h => h.2, fun h => ⟨cuts_outside hc, h⟩⟩

theorem isInert_of_isWordChar {c : Char} (h : isWordChar c = true) : IsInert c := by
  refine ⟨?_, ?_, ?_, ?_, ?_⟩ <;> rintro rfl <;> revert h <;> decide

theorem eq_outside_of_cuts {state : Nesting} {c : Char} (h : state.cuts c = true) :
    c = ',' ∧ state = outside := by
  simpa [cuts] using h

theorem MeetsNoCut.of_append {state : Nesting} {s t : List Char} (h : state.MeetsNoCut (s ++ t)) :
    state.MeetsNoCut s := by
  rintro before c after rfl
  exact h before c (after ++ t) (by rw [List.append_assoc, List.cons_append])

/-! ### Blanks -/

theorem isInert_of_isBlank {c : Char} (h : Text.isBlank c = true) : IsInert c := by
  refine ⟨?_, ?_, ?_, ?_, ?_⟩ <;> rintro rfl <;> revert h <;> decide

/-- **Whether the mark that is to be closed is one of the two quotation marks.** -/
def IsQuoted (state : Nesting) : Prop := ∀ mark, state.quote = some mark → mark = '"' ∨ mark = '\''

theorem IsQuoted.step {state : Nesting} (h : state.IsQuoted) (c : Char) : (state.step c).IsQuoted := by
  intro mark hmark
  rw [Nesting.step] at hmark
  split at hmark
  · rename_i open_mark hopen
    split at hmark
    · simp at hmark
    · exact h mark hmark
  · split at hmark
    · rename_i hquote
      obtain rfl : c = mark := by simpa using hmark
      exact hquote
    · split at hmark
      · simp at hmark
      · split at hmark
        · simp at hmark
        · exact h mark hmark

theorem IsQuoted.walk {state : Nesting} (h : state.IsQuoted) (s : List Char) : (state.walk s).IsQuoted := by
  induction s generalizing state with
  | nil => exact h
  | cons c s ih => exact ih (h.step c)

theorem isQuoted_outside : outside.IsQuoted := by
  intro mark hmark
  simp [outside] at hmark

/-- A blank leaves the state as it is, inside quotes and outside. -/
theorem IsQuoted.step_blank {state : Nesting} (h : state.IsQuoted) {c : Char} (hc : Text.isBlank c = true) :
    state.step c = state := by
  obtain ⟨hdouble, hsingle, hopen, hclose, -⟩ := isInert_of_isBlank hc
  obtain ⟨depth, quote⟩ := state
  cases quote with
  | none => simp [Nesting.step, hdouble, hsingle, hopen, hclose]
  | some mark =>
    -- The mark is no blank, so that the blank does not close it.
    have hmark : c ≠ mark := by
      rintro rfl
      exact (h c rfl).elim hdouble hsingle
    simp [Nesting.step, hmark]

theorem IsQuoted.walk_blank {state : Nesting} (h : state.IsQuoted) {w : List Char}
    (hw : Text.isBlankText w = true) : state.walk w = state := by
  induction w with
  | nil => rfl
  | cons c w ih =>
    obtain ⟨hc, hw⟩ := Text.isBlankText_cons.1 hw
    rw [walk_cons, h.step_blank hc, ih hw]

/-- **Trimming makes no difference to where a text ends**, be it inside quotes. -/
theorem walk_trim (s : List Char) : outside.walk (Text.trim s) = outside.walk s := by
  obtain ⟨w, v, hw, hv, heq⟩ := Text.exists_trim_eq s
  conv_rhs => rw [heq]
  rw [walk_append, walk_append, isQuoted_outside.walk_blank hw,
    (isQuoted_outside.walk (Text.trim s)).walk_blank hv]

/-- What is not cut is not cut without the blanks around it. -/
theorem MeetsNoCut.trim {s : List Char} (h : outside.MeetsNoCut s) : outside.MeetsNoCut (Text.trim s) := by
  obtain ⟨w, v, hw, -, heq⟩ := Text.exists_trim_eq s
  rw [heq, List.append_assoc, meetsNoCut_inert_append] at h
  · exact h.of_append
  · exact fun c hc => isInert_of_isBlank (List.all_eq_true.1 hw c hc)

end Nesting

open Nesting

namespace ArgumentList

/-! ### Cutting -/

/-- A text that meets no cut is one piece. -/
theorem pieces_of_meetsNoCut {state : Nesting} {s : List Char} (h : state.MeetsNoCut s) :
    pieces state s = [s] := by
  induction s generalizing state with
  | nil => rfl
  | cons c s ih =>
    obtain ⟨hc, hs⟩ := meetsNoCut_cons.1 h
    rw [pieces, if_neg (by simp [hc]), ih hs, consFirst]

/-- A comma behind a text that meets no cut and ends outside cuts it off. -/
theorem pieces_append_comma {state : Nesting} {s : List Char} (h : state.MeetsNoCut s)
    (hend : state.walk s = outside) (t : List Char) :
    pieces state (s ++ ',' :: t) = s :: pieces outside t := by
  induction s generalizing state with
  | nil =>
    obtain rfl : state = outside := hend
    rw [List.nil_append, pieces, if_pos (by decide)]
  | cons c s ih =>
    obtain ⟨hc, hs⟩ := meetsNoCut_cons.1 h
    rw [List.cons_append, pieces, if_neg (by simp [hc]), ih hs hend, consFirst]

/-- **How a text is cut**: not at all, or at the first comma that is met outside. -/
theorem pieces_cases (state : Nesting) (s : List Char) :
    (state.MeetsNoCut s ∧ pieces state s = [s]) ∨
      ∃ first rest, s = first ++ ',' :: rest ∧ state.MeetsNoCut first ∧ state.walk first = outside ∧
        pieces state s = first :: pieces outside rest := by
  induction s generalizing state with
  | nil => exact Or.inl ⟨meetsNoCut_nil state, rfl⟩
  | cons c s ih =>
    by_cases hc : state.cuts c = true
    · obtain ⟨rfl, rfl⟩ := eq_outside_of_cuts hc
      exact Or.inr ⟨[], s, rfl, meetsNoCut_nil _, rfl, pieces_append_comma (meetsNoCut_nil _) rfl s⟩
    · have hc : state.cuts c = false := by simpa using hc
      rcases ih (state.step c) with ⟨hs, hpieces⟩ | ⟨first, rest, rfl, hfirst, hend, hpieces⟩
      · have h := meetsNoCut_cons.2 ⟨hc, hs⟩
        exact Or.inl ⟨h, pieces_of_meetsNoCut h⟩
      · have h := meetsNoCut_cons.2 ⟨hc, hfirst⟩
        exact Or.inr ⟨c :: first, rest, rfl, h, hend, pieces_append_comma h hend rest⟩

theorem pieces_ne_nil (state : Nesting) (s : List Char) : pieces state s ≠ [] := by
  rcases pieces_cases state s with ⟨-, h⟩ | ⟨first, rest, -, -, -, h⟩ <;> rw [h] <;> simp

/-- A blank in front of a text is a blank in front of its first piece. -/
theorem pieces_blank_cons (s : List Char) : pieces outside (' ' :: s) = consFirst ' ' (pieces outside s) := by
  rw [pieces, if_neg (by decide)]
  rfl

/-! ### The arguments of a list -/

/-- A list of texts without the last one if that one is empty. -/
def dropEmptyText (texts : List (List Char)) : List (List Char) :=
  if texts.getLast? = some [] then texts.dropLast else texts

theorem map_text_place (start : Nat) (pieces : List (List Char)) :
    (place start pieces).map (·.text) = pieces.map Text.trim := by
  induction pieces generalizing start with
  | nil => rfl
  | cons piece pieces ih => rw [place, List.map_cons, ih, List.map_cons]

theorem map_text_dropEmptyLast (arguments : List Argument) :
    (dropEmptyLast arguments).map (·.text) = dropEmptyText (arguments.map (·.text)) := by
  fun_induction dropEmptyLast arguments with
  | case1 => rfl
  | case2 argument hempty => simp [dropEmptyText, List.isEmpty_iff.1 hempty]
  | case3 argument hne => simpa [dropEmptyText] using hne
  | case4 argument rest hne ih =>
    obtain ⟨next, rest, rfl⟩ := List.exists_cons_of_ne_nil hne
    rw [List.map_cons, ih, dropEmptyText, dropEmptyText]
    simp only [List.map_cons, List.getLast?_cons_cons, List.dropLast_cons_cons]
    split <;> rfl

/-- **The texts of the arguments** are the pieces without the blanks around them, less an empty last one. -/
theorem map_text_split (raw : List Char) :
    (split raw).map (·.text) = dropEmptyText ((pieces outside raw).map Text.trim) := by
  rw [split, map_text_dropEmptyLast, map_text_place]

/-- **How an argument list is cut**: it is one argument, or none if it is blank, or there is a first comma
that is met outside, and the arguments are the one in front of it and those of the list behind it. -/
theorem map_text_split_cases (raw : List Char) :
    (outside.MeetsNoCut raw ∧ (split raw).map (·.text) = dropEmptyText [Text.trim raw]) ∨
      ∃ first rest, raw = first ++ ',' :: rest ∧ outside.MeetsNoCut first ∧ outside.walk first = outside ∧
        (split raw).map (·.text) = Text.trim first :: (split rest).map (·.text) := by
  rw [map_text_split]
  rcases pieces_cases outside raw with ⟨hcut, hpieces⟩ | ⟨first, rest, rfl, hcut, hend, hpieces⟩
  · exact Or.inl ⟨hcut, by rw [hpieces]; rfl⟩
  · -- The rest has pieces of its own, so the first piece is not the last one, which may be dropped.
    refine Or.inr ⟨first, rest, rfl, hcut, hend, ?_⟩
    obtain ⟨piece, more, hmore⟩ := List.exists_cons_of_ne_nil (pieces_ne_nil outside rest)
    rw [hpieces, map_text_split, hmore]
    simp only [List.map_cons, dropEmptyText, List.getLast?_cons_cons, List.dropLast_cons_cons]
    split <;> rfl

/-- An argument has no blanks at its ends. -/
theorem trim_eq_of_mem_split {raw text : List Char} (h : text ∈ (split raw).map (·.text)) :
    Text.trim text = text := by
  rw [map_text_split] at h
  have hmem : text ∈ (pieces outside raw).map Text.trim := by
    rw [dropEmptyText] at h
    split at h
    · exact List.dropLast_subset _ h
    · exact h
  obtain ⟨piece, -, rfl⟩ := List.mem_map.1 hmem
  exact Text.trim_trim piece

/-- A list without arguments is blank. -/
theorem isBlankText_of_split_eq_nil {raw : List Char} (h : (split raw).map (·.text) = []) :
    Text.isBlankText raw = true := by
  rcases map_text_split_cases raw with ⟨-, htexts⟩ | ⟨first, rest, -, -, -, htexts⟩
  · rw [h, dropEmptyText] at htexts
    split at htexts
    · rename_i hlast
      exact (Text.trim_eq_nil_iff raw).1 (by simpa using hlast)
    · simp at htexts
  · rw [h] at htexts
    simp at htexts

/-- **The first argument of a list that does not start with a blank** is where the list starts. Behind it
there are blanks, and then the end of the list or the comma that cuts it off. -/
theorem map_text_split_eq_cons {raw text : List Char} {texts : List (List Char)}
    (hraw : Text.StartsSolid raw) (h : (split raw).map (·.text) = text :: texts) :
    ∃ w, Text.isBlankText w = true ∧
      ((raw = text ++ w ∧ text ≠ [] ∧ outside.MeetsNoCut raw ∧ texts = []) ∨
        ∃ rest, raw = text ++ w ++ ',' :: rest ∧ outside.MeetsNoCut (text ++ w) ∧
          outside.walk (text ++ w) = outside ∧ texts = (split rest).map (·.text)) := by
  rcases map_text_split_cases raw with ⟨hcut, htexts⟩ | ⟨first, rest, rfl, hcut, hend, htexts⟩
  · rw [h, dropEmptyText] at htexts
    split at htexts
    · simp at htexts
    · rename_i hlast
      obtain ⟨rfl, rfl⟩ : text = Text.trim raw ∧ texts = [] := by simpa using htexts
      obtain ⟨w, hw, heq⟩ := hraw.exists_eq_trim_append
      exact ⟨w, hw, Or.inl ⟨heq, by simpa using hlast, hcut, rfl⟩⟩
  · rw [h] at htexts
    obtain ⟨rfl, rfl⟩ : text = Text.trim first ∧ texts = (split rest).map (·.text) := by
      simpa using htexts
    obtain ⟨w, hw, heq⟩ := hraw.of_append.exists_eq_trim_append
    exact ⟨w, hw, Or.inr ⟨rest, by rw [← heq], by rwa [← heq], by rwa [← heq], rfl⟩⟩

/-- A blank in front of an argument list makes no difference to its arguments. -/
theorem map_text_split_blank_cons (raw : List Char) :
    (split (' ' :: raw)).map (·.text) = (split raw).map (·.text) := by
  obtain ⟨first, rest, hpieces⟩ := List.exists_cons_of_ne_nil (pieces_ne_nil outside raw)
  have htrim : Text.trim (' ' :: first) = Text.trim first := by
    rw [Text.trim, Text.trim]
    exact congrArg Text.trimEnd (Text.trimStart_blank_append (w := [' ']) (by decide) first)
  rw [map_text_split, map_text_split, pieces_blank_cons, hpieces, consFirst, List.map_cons, List.map_cons,
    htrim]

/-! ### Joining -/

/-- **Texts that stay apart when they are joined**: none of them meets a cut, and all but the last one end
outside parentheses and quotes. -/
def Separable : List (List Char) → Prop
  | [] => True
  | [text] => outside.MeetsNoCut text
  | text :: rest => outside.MeetsNoCut text ∧ outside.walk text = outside ∧ Separable rest

/-- What stands between two slots of a call. -/
def separator : List Char := [',', ' ']

theorem separable_cons_cons {first second : List Char} {rest : List (List Char)} :
    Separable (first :: second :: rest) ↔
      outside.MeetsNoCut first ∧ outside.walk first = outside ∧ Separable (second :: rest) := by
  rw [Separable]
  simp

/-- **Joined texts are cut where they were joined.** -/
theorem pieces_intercalate {first : List Char} {rest : List (List Char)} (h : Separable (first :: rest)) :
    pieces outside (separator.intercalate (first :: rest)) = first :: rest.map (' ' :: ·) := by
  induction rest generalizing first with
  | nil => simpa using pieces_of_meetsNoCut h
  | cons second rest ih =>
    -- The blank behind the comma goes to the next piece, which is cut as it would be without it.
    obtain ⟨hfirst, hend, hrest⟩ := separable_cons_cons.1 h
    rw [List.intercalate_cons_cons, List.append_assoc, separator, List.cons_append, List.cons_append,
      List.nil_append, pieces_append_comma hfirst hend, pieces_blank_cons, ← separator, ih hrest, consFirst,
      List.map_cons]

/-- A text without blanks at its ends is what is left of it behind one. -/
theorem trim_blank_cons {s : List Char} (h : Text.trim s = s) : Text.trim (' ' :: s) = s := by
  obtain ⟨hstart, hend⟩ := Text.trim_eq_self_iff.1 h
  simpa using Text.trim_append_append (w := [' ']) (v := []) (by decide) rfl hstart hend

/-- **Joined texts are the arguments of their list**, if none has blanks at its ends and the last one is not
empty. -/
theorem map_text_split_intercalate {texts : List (List Char)} (hsep : Separable texts)
    (htrim : ∀ text ∈ texts, Text.trim text = text) (hlast : texts.getLast? ≠ some []) :
    (split (separator.intercalate texts)).map (·.text) = texts := by
  cases texts with
  | nil => rfl
  | cons first rest =>
    have hrest : (rest.map (' ' :: ·)).map Text.trim = rest := by
      rw [List.map_map]
      conv => rhs; rw [← List.map_id rest]
      exact List.map_congr_left fun text hmem => trim_blank_cons (htrim text (List.mem_cons_of_mem _ hmem))
    rw [map_text_split, pieces_intercalate hsep, List.map_cons, hrest, htrim first List.mem_cons_self,
      dropEmptyText, if_neg hlast]

/-! ### Cutting and joining again -/

/-- Texts stay apart exactly if none meets a cut and all but the last end outside. -/
theorem separable_iff {texts : List (List Char)} :
    Separable texts ↔
      (∀ text ∈ texts, outside.MeetsNoCut text) ∧ ∀ text ∈ texts.dropLast, outside.walk text = outside := by
  induction texts with
  | nil => simp [Separable]
  | cons first rest ih =>
    cases rest with
    | nil => simp [Separable]
    | cons second rest =>
      rw [separable_cons_cons, ih, List.dropLast_cons_cons]
      constructor
      · rintro ⟨hfirst, hend, hcut, hends⟩
        exact ⟨List.forall_mem_cons.2 ⟨hfirst, hcut⟩, List.forall_mem_cons.2 ⟨hend, hends⟩⟩
      · rintro ⟨hcut, hends⟩
        obtain ⟨hfirst, hcut⟩ := List.forall_mem_cons.1 hcut
        obtain ⟨hend, hends⟩ := List.forall_mem_cons.1 hends
        exact ⟨hfirst, hend, hcut, hends⟩

/-- **The pieces of a text stay apart**, as they did in the text. -/
theorem separable_pieces (s : List Char) : Separable (pieces outside s) := by
  -- On the length: the pieces behind the first comma are those of the rest, cut from the outside again.
  induction hn : s.length using Nat.strong_induction_on generalizing s with
  | _ n ih =>
    subst hn
    rcases pieces_cases outside s with ⟨hcut, hpieces⟩ | ⟨first, rest, rfl, hcut, hend, hpieces⟩
    · rw [hpieces]
      exact hcut
    · have hrest := ih rest.length (by simp; omega) rest rfl
      obtain ⟨piece, more, hmore⟩ := List.exists_cons_of_ne_nil (pieces_ne_nil outside rest)
      rw [hpieces, hmore, separable_cons_cons, ← hmore]
      exact ⟨hcut, hend, hrest⟩

theorem Separable.map_trim {texts : List (List Char)} (h : Separable texts) :
    Separable (texts.map Text.trim) := by
  obtain ⟨hcut, hends⟩ := separable_iff.1 h
  refine separable_iff.2 ⟨List.forall_mem_map.2 fun text hmem => (hcut text hmem).trim, ?_⟩
  rw [← List.map_dropLast]
  exact List.forall_mem_map.2 fun text hmem => (walk_trim text).trans (hends text hmem)

theorem Separable.dropEmptyText {texts : List (List Char)} (h : Separable texts) :
    Separable (dropEmptyText texts) := by
  obtain ⟨hcut, hends⟩ := separable_iff.1 h
  rw [ArgumentList.dropEmptyText]
  split
  · exact separable_iff.2 ⟨fun text hmem => hcut text (List.dropLast_subset _ hmem),
      fun text hmem => hends text (List.dropLast_subset _ hmem)⟩
  · exact h

/-- The arguments of a list stay apart. -/
theorem separable_split (raw : List Char) : Separable ((split raw).map (·.text)) := by
  rw [map_text_split]
  exact (separable_pieces raw).map_trim.dropEmptyText

/-- **Cutting undoes joining, and what was cut can be joined again.** Texts without blanks at their ends, none
of which meets a cut and all but the last of which end outside, are the arguments of the list that they are
joined to, unless the last one is empty. The arguments of any list are such texts. -/
theorem split_intercalate :
    (∀ texts : List (List Char), (∀ text ∈ texts, Text.trim text = text) →
      (∀ text ∈ texts, outside.MeetsNoCut text) →
      (∀ text ∈ texts.dropLast, outside.walk text = outside) → texts.getLast? ≠ some [] →
        (split (separator.intercalate texts)).map (·.text) = texts) ∧
    ∀ (raw : List Char) (texts : List (List Char)), (split raw).map (·.text) = texts →
      (∀ text ∈ texts, Text.trim text = text) ∧ (∀ text ∈ texts, outside.MeetsNoCut text) ∧
        (∀ text ∈ texts.dropLast, outside.walk text = outside) ∧
        (texts.getLast? ≠ some [] → (split (separator.intercalate texts)).map (·.text) = texts) := by
  constructor
  · intro texts htrim hcut hends hlast
    exact map_text_split_intercalate (separable_iff.2 ⟨hcut, hends⟩) htrim hlast
  · rintro raw texts rfl
    have hsep := separable_split raw
    have htrim : ∀ text ∈ (split raw).map (·.text), Text.trim text = text := fun text =>
      trim_eq_of_mem_split
    obtain ⟨hcut, hends⟩ := separable_iff.1 hsep
    exact ⟨htrim, hcut, hends, map_text_split_intercalate hsep htrim⟩

/-- Commas in parentheses and in quotes, a blank in quotes that stay open, and an empty argument in between. -/
theorem split_intercalate_nested :
    (split "f(a, b), '(', , c)d, \"e, ".toList).map (·.text) =
        ["f(a, b)".toList, "'('".toList, [], "c)d, \"e,".toList] ∧
      (split (separator.intercalate ["f(a, b)".toList, "'('".toList, [], "c)d, \"e,".toList])).map (·.text) =
        ["f(a, b)".toList, "'('".toList, [], "c)d, \"e,".toList] := by
  have hsplit : (split "f(a, b), '(', , c)d, \"e, ".toList).map (·.text) =
      ["f(a, b)".toList, "'('".toList, [], "c)d, \"e,".toList] := by decide
  obtain ⟨hjoin, hcut⟩ := split_intercalate
  refine ⟨hsplit, ?_⟩
  obtain ⟨htrim, hnone, hends, -⟩ := hcut _ _ hsplit
  exact hjoin _ htrim hnone hends (by decide)

end ArgumentList

end Interpolation
