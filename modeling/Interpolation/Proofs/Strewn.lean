import Interpolation.Proofs.Enclosure
import Interpolation.Proofs.Outcome
import Mathlib

/-!
# The variables that a text holds

Which spans of variables are written in a text, said of the text alone and in a way that composes. Spans are
strewn over a text (`Interpolation.Strewn`) if they lie in it one behind the other, with anything in between;
in general they may be strewn over it in many ways, since what stands between the braces of a span can have
further braces in it.

The spans of variables that a text holds (`Interpolation.Holds`) are the ones of these with the most opening
braces: any others have fewer, as far as they start in the text, or are the same. This is true of the pieces of
a text one by one. Literal text has no opening pair; behind the opening pair of a call there is its head, and
no variable starts with one; and of what is strewn over the span of a variable, the span itself is the only
one to have its first brace (`Interpolation.Brace.Closes.encloses` keeps the others inside). Texts are then put
together with their spans, as long as no opening pair lies across the seam (`Interpolation.Holds.append`).
-/

namespace Interpolation

open Brace

/-! ### Blanks and braces -/

theorem notMem_of_isBlankText {w : List Char} (hw : Text.isBlankText w = true) : '{' ∉ w := fun hmem =>
  not_isBrace_of_isBlankText hw '{' hmem (Or.inl rfl)

theorem Text.trim_blank_append {w : List Char} (hw : isBlankText w = true) (s : List Char) :
    trim (w ++ s) = trim s := by
  rw [trim, trim, trimStart_blank_append hw]

/-- **No opening pair lies across the seam** of two texts. -/
def Unpaired (s t : List Char) : Prop := s.getLast? = some '{' → t.head? ≠ some '{'

theorem unpaired_of_notMem_left {s : List Char} (hs : '{' ∉ s) (t : List Char) : Unpaired s t := fun hlast =>
  absurd (List.mem_of_getLast? hlast) hs

theorem unpaired_of_notMem_right {t : List Char} (ht : '{' ∉ t) (s : List Char) : Unpaired s t := fun _ hhead =>
  ht (List.mem_of_mem_head? hhead)

/-- With no pair across the end of two texts, there is none behind the first one, whatever is behind it. -/
theorem Unpaired.append_right {s t u : List Char} (h : Unpaired s t) (hend : Unpaired (s ++ t) u) :
    Unpaired s (t ++ u) := by
  intro hlast
  cases t with
  | nil => exact hend (by simpa using hlast)
  | cons c t => exact h hlast

theorem Unpaired.of_append {s t u : List Char} (h : Unpaired (s ++ t) u) : Unpaired t u := by
  intro hlast
  refine h ?_
  rw [List.getLast?_append, hlast]
  rfl

/-! ### Spans one behind the other -/

/-- **Spans are strewn over a text**: they lie in it in order, without overlapping. -/
inductive Strewn : List (List Char) → List Char → Prop
  /-- No spans. -/
  | nil (s : List Char) : Strewn [] s
  /-- A span behind anything, and further spans behind it. -/
  | cons (gap : List Char) {inner : List Char} {rest : List (List Char)} {s : List Char} :
    Strewn rest s → Strewn (inner :: rest) (gap ++ braced inner ++ s)

/-- How many opening braces there are in some spans. -/
def openingBraces (spans : List (List Char)) : Nat := (spans.map fun inner => (braced inner).count '{').sum

@[simp] theorem openingBraces_nil : openingBraces [] = 0 := rfl

@[simp] theorem openingBraces_cons (inner : List Char) (spans : List (List Char)) :
    openingBraces (inner :: spans) = (braced inner).count '{' + openingBraces spans := rfl

@[simp] theorem openingBraces_append (first second : List (List Char)) :
    openingBraces (first ++ second) = openingBraces first + openingBraces second := by
  simp [openingBraces]

theorem count_braced (inner : List Char) : (braced inner).count '{' = inner.count '{' + 2 := by
  simp [braced]

namespace Strewn

variable {spans others : List (List Char)} {s t : List Char}

theorem append_left (gap : List Char) (h : Strewn spans s) : Strewn spans (gap ++ s) := by
  cases h with
  | nil => exact .nil _
  | cons more hrest =>
    rw [List.append_assoc, ← List.append_assoc, ← List.append_assoc]
    exact .cons _ hrest

theorem append (h : Strewn spans s) (ht : Strewn others t) : Strewn (spans ++ others) (s ++ t) := by
  induction h with
  | nil s => exact ht.append_left s
  | cons gap _ ih =>
    rw [List.append_assoc _ _ t]
    exact .cons gap ih

theorem eq_nil_of_nil (h : Strewn spans []) : spans = [] := by
  generalize heq : ([] : List Char) = empty at h
  cases h with
  | nil => rfl
  | cons gap _ => simp [braced] at heq

/-- Spans have their braces from the text over which they are strewn. -/
theorem openingBraces_le (h : Strewn spans s) : openingBraces spans ≤ s.count '{' := by
  induction h with
  | nil => exact Nat.zero_le _
  | cons gap _ ih =>
    rw [openingBraces_cons, List.count_append, List.count_append]
    omega

/-- Where no span starts with the first character, the spans are strewn over what is behind it. -/
theorem of_cons {c : Char} (h : Strewn spans (c :: s))
    (hno : ∀ inner ∈ spans, ∀ behind, c :: s ≠ braced inner ++ behind) : Strewn spans s := by
  generalize heq : c :: s = whole at h
  cases h with
  | nil => exact .nil _
  | @cons gap inner rest behind hrest =>
    cases gap with
    | nil => exact absurd heq (hno inner List.mem_cons_self behind)
    | cons d gap =>
      obtain ⟨-, rfl⟩ := List.cons.inj heq
      exact .cons gap hrest

/-- A span starts with two opening braces. -/
theorem of_cons_of_not_opening {c : Char} (h : Strewn spans (c :: s)) (hno : ¬(c = '{' ∧ s.head? = some '{')) :
    Strewn spans s := by
  refine h.of_cons fun inner _ behind heq => hno ?_
  obtain ⟨rfl, rfl⟩ : c = '{' ∧ s = '{' :: (inner ++ '}' :: '}' :: behind) := by simpa [braced] using heq
  exact ⟨rfl, rfl⟩

/-- No span starts in a text without an opening pair, if there is none across its end either. -/
theorem of_append_of_lacksOpening (h : Strewn spans (s ++ t)) (hs : LacksOpening s)
    (hseam : Unpaired s t) : Strewn spans t := by
  induction s with
  | nil => exact h
  | cons c s ih =>
    obtain ⟨hno, hs⟩ := lacksOpening_cons.1 hs
    have hrest : Unpaired s t := Unpaired.of_append (List.singleton_append.symm ▸ hseam)
    refine ih (h.of_cons_of_not_opening ?_) hs hrest
    rintro ⟨rfl, hhead⟩
    cases s with
    | nil => exact hseam rfl (by simpa using hhead)
    | cons d s => exact hno ⟨rfl, by simpa using hhead⟩

/-- **What starts in a span ends in it**, and what does not lies behind it. -/
theorem exists_append_of_closes {inner done : List Char} (hinner : Closes inner) (hdone : braced inner = done ++ s)
    (hcloses : ∀ x ∈ spans, Closes x) (h : Strewn spans (s ++ t)) :
    ∃ inside behind, spans = inside ++ behind ∧ Strewn inside s ∧ Strewn behind t := by
  induction spans generalizing done s with
  | nil => exact ⟨[], [], rfl, .nil _, .nil _⟩
  | cons x rest ih =>
    generalize hwhole : s ++ t = whole at h
    cases h with
    | @cons gap _ _ after hrest =>
      rw [List.append_assoc] at hwhole
      rcases Nat.lt_or_ge gap.length s.length with hlt | hge
      · have heq : braced inner ++ t = done ++ gap ++ braced x ++ after := by
          rw [hdone, List.append_assoc, hwhole]
          simp
        have hbefore : (done ++ gap).length < (braced inner).length := by
          rw [hdone, List.length_append, List.length_append]
          omega
        obtain ⟨more, hmore, rfl⟩ := hinner.encloses (hcloses x List.mem_cons_self) heq hbefore
        have hs : s = gap ++ braced x ++ more := by
          rw [hdone] at hmore
          simpa using hmore
        obtain ⟨inside, behind, rfl, hinside, hbehind⟩ :=
          ih hmore (fun y hy => hcloses y (List.mem_cons_of_mem _ hy)) hrest
        exact ⟨x :: inside, behind, rfl, hs ▸ .cons gap hinside, hbehind⟩
      · obtain ⟨more, rfl⟩ := List.prefix_of_prefix_length_le ⟨t, hwhole⟩ ⟨_, rfl⟩ hge
        obtain rfl : t = more ++ (braced x ++ after) := by
          rw [List.append_assoc] at hwhole
          exact List.append_cancel_left hwhole
        refine ⟨[], x :: rest, rfl, .nil _, ?_⟩
        rw [← List.append_assoc]
        exact .cons more hrest

end Strewn

/-! ### Spans of variables -/

/-- **What a span of a variable holds**: it closes the span, and no call head is at its beginning. -/
structure IsReference (inner : List Char) : Prop where
  /-- The closing pair behind it is the first one to bring the level to zero. -/
  closes : Closes inner
  /-- Behind the blanks in front there is no call head. -/
  headless : CallHead.read? (Text.trim inner) = none

/-- A head at the beginning of a text stays there, whatever is added to the text. -/
theorem CallHead.exists_read?_append {s : List Char} {head : CallHead} (h : read? s = some head)
    (more : List Char) : ∃ other, read? (s ++ more) = some other := by
  obtain ⟨rfl, hqualifier, hname⟩ := read?_eq_some_iff.1 h
  refine ⟨⟨head.qualifier, head.name, head.rest ++ more⟩, read?_eq_some_iff.2 ⟨?_, hqualifier, hname⟩⟩
  rw [List.append_assoc]
  rfl

theorem CallHead.getLast?_text (head : CallHead) : head.text.getLast? = some '(' := by
  rw [text, List.getLast?_concat]

/-- **A text that begins with a call head** behind some blanks is not what a span of a variable holds. -/
theorem not_isReference_of_read? {head : CallHead} {s w : List Char} (hhead : CallHead.read? s = some head)
    (hw : Text.isBlankText w = true) (more : List Char) : ¬IsReference (w ++ head.text ++ more) := by
  rintro ⟨-, hheadless⟩
  obtain ⟨-, hqualifier, hname⟩ := CallHead.read?_eq_some_iff.1 hhead
  have hstart : Text.StartsSolid (head.text ++ more) := by
    rw [CallHead.text, List.append_assoc, List.append_assoc]
    exact startsSolid_append_of_isWord hqualifier _
  have htrim : Text.trim (w ++ head.text ++ more) = Text.trim (head.text ++ more) := by
    rw [List.append_assoc, Text.trim_blank_append hw]
  obtain ⟨v, hv, heq⟩ := hstart.exists_eq_trim_append
  -- The head ends in a parenthesis, so that no blank at the end of the text is part of it.
  have hbegins : ∃ rest, Text.trim (head.text ++ more) = head.text ++ rest := by
    rcases List.append_eq_append_iff.1 heq with ⟨rest, hrest, -⟩ | ⟨rest, hrest, rfl⟩
    · exact ⟨rest, hrest⟩
    · refine ⟨[], ?_⟩
      rcases List.eq_nil_or_concat rest with rfl | ⟨rest, c, rfl⟩
      · simpa using hrest.symm
      · have hlast := head.getLast?_text
        rw [hrest, List.concat_eq_append, ← List.append_assoc, List.getLast?_concat] at hlast
        obtain rfl := Option.some.inj hlast
        have hparen := List.all_eq_true.1 hv '(' (by simp)
        exact absurd hparen (by decide)
  obtain ⟨rest, hrest⟩ := hbegins
  have hread : CallHead.read? (head.text ++ rest) = some ⟨head.qualifier, head.name, rest⟩ :=
    CallHead.read?_eq_some_iff.2 ⟨rfl, hqualifier, hname⟩
  rw [htrim, hrest, hread] at hheadless
  simp at hheadless

/-! ### Texts and their spans of variables -/

/-- **The spans of variables that a text holds** are strewn over it, and any others that start in it, whatever
stands behind it, have fewer opening braces. -/
structure Holds (spans : List (List Char)) (s : List Char) : Prop where
  /-- The spans lie in the text. -/
  strewn : Strewn spans s
  /-- Others end in it, too, and have fewer opening braces. -/
  most : ∀ {others : List (List Char)} {t : List Char}, Unpaired s t →
    (∀ inner ∈ others, IsReference inner) → Strewn others (s ++ t) →
      ∃ inside behind, others = inside ++ behind ∧ Strewn behind t ∧
        (openingBraces inside < openingBraces spans ∨ inside = spans)

/-- Literal text holds no variables. -/
theorem holds_nil_of_lacksOpening {s : List Char} (hs : LacksOpening s) : Holds [] s where
  strewn := .nil s
  most hseam _ h := ⟨[], _, rfl, h.of_append_of_lacksOpening hs hseam, .inr rfl⟩

theorem holds_nil_of_notMem {s : List Char} (hs : '{' ∉ s) : Holds [] s :=
  holds_nil_of_lacksOpening fun hlies => hs (hlies.subset (by simp))

namespace Holds

variable {spans others : List (List Char)} {s t : List Char}

/-- **Texts side by side** hold the variables of the one and of the other, if no opening pair lies across the
seam. -/
theorem append (h : Holds spans s) (ht : Holds others t) (hseam : Unpaired s t) :
    Holds (spans ++ others) (s ++ t) where
  strewn := h.strewn.append ht.strewn
  most {all u} hend hall hstrewn := by
    rw [List.append_assoc] at hstrewn
    obtain ⟨inside, rest, rfl, hrest, hmost⟩ := h.most (hseam.append_right hend) hall hstrewn
    obtain ⟨inside', behind, rfl, hbehind, hmost'⟩ :=
      ht.most hend.of_append (fun x hx => hall x (List.mem_append_right _ hx)) hrest
    refine ⟨inside ++ inside', behind, by simp, hbehind, ?_⟩
    rw [openingBraces_append, openingBraces_append]
    rcases hmost with hmost | rfl
    · refine .inl (Nat.add_lt_add_of_lt_of_le hmost ?_)
      exact hmost'.elim Nat.le_of_lt fun heq => by rw [heq]
    · exact hmost'.imp (Nat.add_lt_add_left · _) fun heq => by rw [heq]

/-- Text without opening braces may stand in front. -/
theorem append_left (h : Holds spans s) {gap : List Char} (hgap : '{' ∉ gap) : Holds spans (gap ++ s) :=
  (holds_nil_of_notMem hgap).append h (unpaired_of_notMem_left hgap s)

/-- Text without opening braces may stand behind. -/
theorem append_right (h : Holds spans s) {gap : List Char} (hgap : '{' ∉ gap) : Holds spans (s ++ gap) := by
  have happend := h.append (holds_nil_of_notMem hgap) (unpaired_of_notMem_right hgap s)
  rwa [List.append_nil] at happend

end Holds

/-- **The span of a variable** holds the variable. -/
theorem IsReference.holds {inner : List Char} (h : IsReference inner) : Holds [inner] (braced inner) where
  strewn := by
    have hstrewn : Strewn [inner] ([] ++ braced inner ++ []) := .cons [] (.nil [])
    rwa [List.nil_append, List.append_nil] at hstrewn
  most {others t} _ hothers hstrewn := by
    obtain ⟨inside, behind, rfl, hinside, hbehind⟩ :=
      hstrewn.exists_append_of_closes h.closes (List.nil_append (braced inner)).symm
        fun x hx => (hothers x hx).closes
    refine ⟨inside, behind, rfl, hbehind, ?_⟩
    generalize hwhole : braced inner = whole at hinside
    cases hinside with
    | nil =>
      left
      simp [count_braced]
    | @cons gap x rest s hrest =>
      cases gap with
      | nil =>
        right
        have hx := (hothers x (by simp)).closes
        obtain ⟨rfl, rfl⟩ := h.closes.eq_of_append (t := []) hx (by simpa using hwhole)
        rw [hrest.eq_nil_of_nil]
      | cons c gap =>
        -- The first brace is in none of the others.
        left
        obtain ⟨rfl, htail⟩ : '{' = c ∧ _ := List.cons.inj hwhole
        have hstrewn : Strewn (x :: rest) (gap ++ braced x ++ s) := .cons gap hrest
        have hcount := hstrewn.openingBraces_le
        rw [openingBraces_cons inner, openingBraces_nil, hwhole, List.cons_append, List.cons_append,
          List.count_cons_self]
        omega

/-- **What a call is opened with** holds no variables. -/
theorem holds_nil_opening {head : CallHead} {s w : List Char} (hhead : CallHead.read? s = some head)
    (hw : Text.isBlankText w = true) : Holds [] ('{' :: '{' :: (w ++ head.text)) where
  strewn := .nil _
  most {others t} _ hothers hstrewn := by
    have hbrace : ∀ c ∈ w ++ head.text, ¬IsBrace c := by
      intro c hc
      rcases List.mem_append.1 hc with hc | hc
      · exact not_isBrace_of_isBlankText hw c hc
      · exact (CallHead.read?_eq_some_iff_begins.1 hhead).not_isBrace_text c hc
    have hne : w ++ head.text ≠ [] := by simp [CallHead.text]
    -- At the first brace stands what begins with a head, and at the second one there is no pair.
    have hfirst : Strewn others ('{' :: (w ++ head.text ++ t)) := by
      refine hstrewn.of_cons fun x hx behind heq => ?_
      have heq : w ++ head.text ++ t = x ++ '}' :: '}' :: behind := by simpa [braced] using heq
      rcases List.append_eq_append_iff.1 heq with ⟨more, rfl, -⟩ | ⟨more, hmore, hbehind⟩
      · exact not_isReference_of_read? hhead hw more (hothers _ hx)
      · cases more with
        | nil =>
          obtain rfl : w ++ head.text = x := by simpa using hmore
          exact not_isReference_of_read? hhead hw [] (by simpa using hothers _ hx)
        | cons c more =>
          obtain ⟨rfl, -⟩ : '}' = c ∧ _ := List.cons.inj hbehind
          exact hbrace '}' (by rw [hmore]; simp) (Or.inr rfl)
    have hsecond : Strewn others (w ++ head.text ++ t) := by
      refine hfirst.of_cons_of_not_opening fun hpair => ?_
      have hhead := hpair.2
      rw [List.head?_append_of_ne_nil _ hne] at hhead
      exact hbrace '{' (List.mem_of_mem_head? hhead) (Or.inl rfl)
    have hnotMem : '{' ∉ w ++ head.text := fun hmem => hbrace '{' hmem (Or.inl rfl)
    exact (holds_nil_of_notMem hnotMem).most (unpaired_of_notMem_left hnotMem t) hothers hsecond

/-- **The span of a call** holds the variables that its argument list holds. -/
theorem Holds.call {head : CallHead} {inner : List Char} {spans : List (List Char)}
    (hhead : CallHead.read? (Text.trim inner) = some head) (h : Holds spans head.arguments) :
    Holds spans (braced inner) := by
  obtain ⟨w, v, hw, hv, hinner⟩ := Text.exists_trim_eq inner
  obtain ⟨htext, -, -⟩ := CallHead.read?_eq_some_iff.1 hhead
  have hopening : Holds spans ('{' :: '{' :: (w ++ head.text) ++ head.arguments) := by
    refine (holds_nil_opening hhead hw).append h fun hlast => ?_
    rw [← List.cons_append, ← List.cons_append, List.getLast?_append, head.getLast?_text] at hlast
    simp at hlast
  have hblank := notMem_of_isBlankText hv
  rcases head.rest_cases with hrest | hrest
  · have hwhole : braced inner = '{' :: '{' :: (w ++ head.text) ++ head.arguments ++ (')' :: (v ++ ['}', '}'])) := by
      rw [braced, hinner, htext, hrest]
      simp
    rw [hwhole]
    exact hopening.append_right (by simpa using hblank)
  · have hwhole : braced inner = '{' :: '{' :: (w ++ head.text) ++ head.arguments ++ (v ++ ['}', '}']) := by
      rw [braced, hinner, htext, hrest]
      simp
    rw [hwhole]
    exact hopening.append_right (by simpa using hblank)

end Interpolation
