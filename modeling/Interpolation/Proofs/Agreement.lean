import Interpolation.Proofs.Outcome

/-!
# A text that goes along with its canonical text

A text and the canonical text of its tree are compared from the left, each of them with something behind it.
If the two go along with each other all the way, then they are the same and the tree is settled
(`Interpolation.Reader.Agrees`). For the nodes of a tree this is a walk along its pieces. For a call it is a
walk along the slots (`Interpolation.Binding.Steps.listing_agrees`): the first argument that has not been
compared yet must be the one for the first slot that has not, since what is written of a slot shows its label.

Applied to a text that is its own canonical text, this says that a tree that is read back is settled.
-/

namespace Interpolation

open Brace

/-- **A text that is read and goes along with the canonical text of its tree** is that text, and the tree is
settled. -/
def Reader.Agrees (read : Reader) : Prop :=
  ∀ s tree x y, read 0 s = .ok tree → s ++ x = Tree.spelling tree ++ y →
    s = Tree.spelling tree ∧ Tree.Settled tree

/-! ### What is written of a slot -/

/-- The word that selects a label. -/
def Label.word? : Label → Option (List Char)
  | .positional => none
  | .keyword name => some name.toList

theorem Label.word?_inj {label other : Label} (h : label.word? = other.word?) : label = other := by
  cases label <;> cases other <;> simp_all [Label.word?, String.toList_inj]

/-- What stands behind a slot is no part of it. -/
theorem stops_of_head {t : List Char} (ht : t.head? = some ',' ∨ t.head? = some ')') :
    ∀ c, t.head? = some c → Text.isBlank c = false ∧ isWordChar c = false ∧ c ≠ '=' := by
  intro c hc
  rcases ht with ht | ht
  · obtain rfl : ',' = c := by simpa [ht] using hc
    decide
  · obtain rfl : ')' = c := by simpa [ht] using hc
    decide

/-- **What is written of a slot shows its label**, with a comma or a closing parenthesis behind it. -/
theorem Label.Accepts.shows {label : Label} {content t : List Char} (h : label.Accepts content)
    (hlabel : label.IsWritable) (ht : t.head? = some ',' ∨ t.head? = some ')') :
    Text.StartsSolid (label.mark ++ content ++ t) ∧
      (keyword? (label.mark ++ content ++ t)).map Prod.fst = label.word? := by
  have hstop := stops_of_head ht
  cases label with
  | positional =>
    rw [Label.mark_positional, List.nil_append]
    constructor
    · intro c hc
      rw [List.head?_append] at hc
      cases hhead : content.head? with
      | none => exact (hstop c (by simpa [hhead] using hc)).1
      | some d =>
        obtain rfl : d = c := by simpa [hhead] using hc
        exact (Text.trim_eq_self_iff.1 h.1).1 d hhead
    · rw [keyword?_append_eq_none h.2 fun c hc => (hstop c hc).2]
      rfl
  | keyword name =>
    have hshape : (Label.keyword name).mark ++ content ++ t = name.toList ++ '=' :: (content ++ t) := by
      simp
    rw [hshape]
    constructor
    · exact startsSolid_append_of_isWord hlabel _
    · rw [keyword?_eq_some_iff.2 ⟨rfl, hlabel⟩]
      rfl

/-- A keyword argument shows its label whatever is behind it. -/
theorem Label.Takes.keyword?_append {name : String} {text content : List Char}
    (h : (Label.keyword name).Takes text content) (tail : List Char) :
    (keyword? (text ++ tail)).map Prod.fst = some name.toList := by
  cases h with
  | keyword hword =>
    rw [List.append_assoc, List.cons_append, keyword?_eq_some_iff.2 ⟨rfl, hword⟩]
    rfl

/-- **How the first of several slots is written**, with a closing parenthesis behind them all: alone, or in
front of a comma and a blank. -/
theorem Slot.listing_append_cases {slot : Slot} {rest : List Slot}
    (h : (slot :: rest).any Slot.isFilled = true) (y : List Char) :
    ∃ tail, Slot.listing (slot :: rest) ++ ')' :: y = slot.spelling ++ tail ∧
      ((rest.any Slot.isFilled = false ∧ tail = ')' :: y) ∨
        (rest.any Slot.isFilled = true ∧ tail = ',' :: ' ' :: (Slot.listing rest ++ ')' :: y))) := by
  cases hrest : rest.any Slot.isFilled with
  | false =>
    have hslot : slot.isFilled = true := by simpa [hrest] using h
    exact ⟨')' :: y, by rw [Slot.listing_last hslot hrest], Or.inl ⟨rfl, rfl⟩⟩
  | true =>
    exact ⟨_, by rw [Slot.listing_cons hrest, List.append_assoc]; rfl, Or.inr ⟨rfl, rfl⟩⟩

theorem Slot.keptApart_of_none {slots : List Slot} (h : slots.any Slot.isFilled = false) :
    Slot.KeptApart slots := by
  intro before slot after value heq hvalue
  rw [Slot.value_eq_none_of_any h (by simp [heq])] at hvalue
  simp at hvalue

/-! ### Along the slots -/

section Slots

variable {read : Reader} {state last : Binding} {before after : List Slot} {raw x y : List Char}

/-- Without further arguments nothing more is filled. -/
theorem Binding.Reached.any_eq_false (hreached : state.Reached before after)
    (hsteps : Binding.Steps read state [] last) (hlast : last.call.slots = before ++ after) :
    after.any Slot.isFilled = false := by
  cases hsteps
  rw [hreached.slots] at hlast
  rw [← List.append_cancel_left hlast]
  simp [Slot.isFilled, Slot.emptied]

/-- What holds in front of a solid character is not a run of blanks. -/
theorem not_isBlankText_of_head {s : List Char} {c : Char} (hhead : s.head? = some c)
    (hc : Text.isBlank c = false) : Text.isBlankText s = false := by
  obtain ⟨rest, rfl⟩ := List.head?_eq_some_iff.1 hhead
  simp [Text.isBlankText, hc]

/-- Where nothing more is written, there are no further arguments. -/
theorem Binding.Steps.eq_nil_of_none
    (hsteps : Binding.Steps read state ((ArgumentList.split raw).map (·.text)) last)
    (hreached : state.Reached before after) (hlast : last.call.slots = before ++ after)
    (hnone : after.any Slot.isFilled = false) (heq : raw ++ x = ')' :: y) : raw = [] := by
  obtain ⟨hsolid, hword⟩ := (Label.accepts_nil .positional).shows trivial (t := ')' :: y) (Or.inr rfl)
  rw [Label.mark_positional, List.nil_append, List.nil_append, ← heq] at hsolid hword
  have hsolid := hsolid.of_append
  cases htexts : (ArgumentList.split raw).map (·.text) with
  | nil => exact Text.eq_nil_of_isBlankText (ArgumentList.isBlankText_of_split_eq_nil htexts) hsolid
  | cons text texts =>
    -- The argument would start with the parenthesis, and a slot would hold it in the end.
    exfalso
    rw [htexts] at hsteps
    obtain ⟨w, hw, hraw⟩ := ArgumentList.map_text_split_eq_cons hsolid htexts
    obtain ⟨behind, hbehind, hne⟩ : ∃ behind, raw = text ++ behind ∧ text ≠ [] := by
      rcases hraw with ⟨hraw, hne, -, -⟩ | ⟨rest, hraw, -, -, -⟩
      · exact ⟨w, hraw, hne⟩
      · refine ⟨w ++ ',' :: rest, by rw [hraw, List.append_assoc], ?_⟩
        rintro rfl
        cases w with
        | nil => simp [hraw] at heq
        | cons c w =>
          obtain ⟨rfl, -⟩ : c = ')' ∧ _ := by simpa [hraw] using heq
          exact absurd (Text.isBlankText_cons.1 hw).1 (by decide)
    obtain ⟨first, more, rfl⟩ := List.exists_cons_of_ne_nil hne
    obtain ⟨rfl, -⟩ : first = ')' ∧ _ := by simpa [hbehind] using heq
    obtain ⟨label, content, index, value, slot, htakes, htarget, hgives, -, hslot, -, hvalue⟩ :=
      hsteps.exists_first hreached.shaped
    cases label with
    | keyword name =>
      have hshown := htakes.keyword?_append (behind ++ x)
      rw [← List.append_assoc, ← hbehind, hword] at hshown
      simp [Label.word?] at hshown
    | positional =>
      cases htakes
      cases value with
      | none =>
        rw [Reader.Gives, not_isBlankText_of_head rfl (by decide)] at hgives
        simp at hgives
      | some tree =>
        have hmem : slot ∈ after := by
          rw [hlast, List.getElem?_append_right (hreached.le_of_target? htarget)] at hslot
          exact List.mem_of_getElem? hslot
        rw [Slot.value_eq_none_of_any hnone hmem] at hvalue
        simp at hvalue

/-- The value of an argument goes along with what is written of the value. -/
theorem Reader.Gives.agrees (hread : read.Agrees) {content t : List Char} {slot : Slot}
    (hgives : read.Gives content slot.value) (ht : Text.StartsSolid t)
    (heq : content ++ x = slot.content ++ t) :
    content = slot.content ∧ ∀ value : Tree, slot.value = some value → value.Settled := by
  cases hvalue : slot.value with
  | none =>
    rw [hvalue] at hgives
    rw [Slot.content_of_none hvalue] at heq ⊢
    have hsolid : Text.StartsSolid (content ++ x) := by
      rw [heq]
      exact ht
    exact ⟨Text.eq_nil_of_isBlankText hgives hsolid.of_append, by simp⟩
  | some value =>
    rw [hvalue] at hgives
    rw [Slot.content_of_some hvalue] at heq ⊢
    obtain ⟨hcontent, hsettled⟩ := hread content value x t hgives.2 heq
    refine ⟨hcontent, fun other hother => ?_⟩
    obtain rfl := Option.some.inj hother
    exact hsettled

/-- **The first argument is the one for the first slot**, if the argument list goes along with what is written
of the slots. -/
theorem Binding.Steps.first_agrees (hread : read.Agrees) {slot : Slot} {rest : List Slot} {text t : List Char}
    {texts : List (List Char)} (hsteps : Binding.Steps read state (text :: texts) last)
    (hreached : state.Reached before (slot :: rest)) (hnamed : state.call.signature.IsWellNamed)
    (hlast : last.call.slots = before ++ slot :: rest) (hlabel : slot.label.IsWritable)
    (haccepts : slot.label.Accepts slot.content) (ht : t.head? = some ',' ∨ t.head? = some ')')
    (heq : text ++ x = slot.spelling ++ t) :
    text = slot.spelling ∧ (∀ value : Tree, slot.value = some value → value.Settled) ∧
      ∃ next, Binding.Steps read next texts last ∧ next.Reached (before ++ [slot]) rest ∧
        next.call.signature = state.call.signature := by
  obtain ⟨hsolid, hword⟩ := haccepts.shows hlabel ht
  rw [← Slot.spelling_eq, ← heq] at hword
  obtain ⟨label, content, index, value, found, htakes, htarget, hgives, hrest, hfound, -, hvalue⟩ :=
    hsteps.exists_first hreached.shaped
  -- What is written of a slot shows its label, and an argument shows the label that it is for.
  have hsame : label = slot.label := by
    cases label with
    | positional => exact (hreached.label_eq_positional htarget).symm
    | keyword name =>
      rw [htakes.keyword?_append x] at hword
      exact Label.word?_inj hword
  subst hsame
  have hnext := hreached.target?_eq hnamed
  rw [hnext] at htarget
  obtain rfl := Option.some.inj htarget
  obtain rfl : slot = found := by simpa [hlast] using hfound
  subst hvalue
  have hcontent : content ++ x = slot.content ++ t := by
    rw [htakes.eq_append, Slot.spelling_eq, List.append_assoc, List.append_assoc] at heq
    exact List.append_cancel_left heq
  obtain ⟨rfl, hsettled⟩ := hgives.agrees hread (fun c hc => (stops_of_head ht c hc).1) hcontent
  refine ⟨by rw [htakes.eq_append, Slot.spelling_eq], hsettled, _, hrest, hreached.advance hnext, ?_⟩
  rw [Binding.call_advance]
  rfl

/-- Blanks in front of a solid text are none. -/
theorem eq_nil_of_blank_append {w s t : List Char} (hw : Text.isBlankText w = true)
    (ht : Text.StartsSolid t) (heq : w ++ s = t) : w = [] := by
  refine Text.eq_nil_of_isBlankText hw (Text.StartsSolid.of_append (t := s) ?_)
  rwa [heq]

/-- What is known of an argument list and the slots that it fills once they have been compared. -/
structure Slot.Agree (raw : List Char) (slots : List Slot) : Prop where
  listing : raw = Slot.listing slots
  apart : Slot.KeptApart slots
  settled : ∀ slot ∈ slots, ∀ value : Tree, slot.value = some value → value.Settled

/-- Where nothing more is written, there is nothing to compare. -/
theorem Slot.agree_of_none (hnone : after.any Slot.isFilled = false) : Slot.Agree [] after where
  listing := (Slot.listing_of_none hnone).symm
  apart := Slot.keptApart_of_none hnone
  settled slot hslot value hvalue := by
    rw [Slot.value_eq_none_of_any hnone hslot] at hvalue
    simp at hvalue

/-- A slot that has been compared is put in front of none that is written. -/
theorem Slot.agree_last {slot : Slot} (hlabel : slot.label.IsWritable) (hslot : slot.isFilled = true)
    (hnone : after.any Slot.isFilled = false) (hcut : Nesting.outside.MeetsNoCut slot.spelling)
    (hsettled : ∀ value : Tree, slot.value = some value → value.Settled) :
    Slot.Agree slot.spelling (slot :: after) where
  listing := (Slot.listing_last hslot hnone).symm
  apart := by
    rw [Slot.spelling_eq, Nesting.meetsNoCut_inert_append hlabel.isInert_mark] at hcut
    exact Slot.keptApart_cons.2 ⟨⟨hcut, by simp [hnone]⟩, Slot.keptApart_of_none hnone⟩
  settled := List.forall_mem_cons.2 ⟨hsettled, (Slot.agree_of_none hnone).settled⟩

/-- A slot that has been compared is put in front of others that have been. -/
theorem Slot.Agree.cons {slot : Slot} (h : Slot.Agree raw after) (hlabel : slot.label.IsWritable)
    (hafter : after.any Slot.isFilled = true) (hcut : Nesting.outside.MeetsNoCut slot.spelling)
    (hend : Nesting.outside.walk slot.spelling = Nesting.outside)
    (hsettled : ∀ value : Tree, slot.value = some value → value.Settled) :
    Slot.Agree (slot.spelling ++ ',' :: ' ' :: raw) (slot :: after) where
  listing := by rw [Slot.listing_cons hafter, h.listing]
  apart := by
    rw [Slot.spelling_eq, Nesting.meetsNoCut_inert_append hlabel.isInert_mark] at hcut
    rw [Slot.spelling_eq, Nesting.walk_inert_append hlabel.isInert_mark] at hend
    exact Slot.keptApart_cons.2 ⟨⟨hcut, fun _ => hend⟩, h.apart⟩
  settled := List.forall_mem_cons.2 ⟨hsettled, h.settled⟩

/-- **An argument list that goes along with what is written of the slots** that it fills is what is written of
them. -/
theorem Binding.Steps.listing_agrees (hread : read.Agrees)
    (hsteps : Binding.Steps read state ((ArgumentList.split raw).map (·.text)) last)
    (hreached : state.Reached before after) (hnamed : state.call.signature.IsWellNamed)
    (hlast : last.call.slots = before ++ after) (hlabels : ∀ slot ∈ after, slot.label.IsWritable)
    (haccepts : ∀ slot ∈ after, slot.label.Accepts slot.content)
    (heq : raw ++ x = Slot.listing after ++ ')' :: y) : Slot.Agree raw after := by
  -- On the slots that are left. Binding has come to the first of them, and so has the comparison.
  induction after generalizing raw state before with
  | nil =>
    obtain rfl := hsteps.eq_nil_of_none hreached hlast rfl heq
    exact Slot.agree_of_none rfl
  | cons slot rest ih =>
    cases hany : (slot :: rest).any Slot.isFilled with
    | false =>
      rw [Slot.listing_of_none hany] at heq
      obtain rfl := hsteps.eq_nil_of_none hreached hlast hany heq
      exact Slot.agree_of_none hany
    | true =>
      obtain ⟨t, ht, hcases⟩ := Slot.listing_append_cases hany y
      have hstop : t.head? = some ',' ∨ t.head? = some ')' := by
        rcases hcases with ⟨-, rfl⟩ | ⟨-, rfl⟩
        · exact Or.inr rfl
        · exact Or.inl rfl
      have hsolid : Text.StartsSolid t := fun c hc => (stops_of_head hstop c hc).1
      have hlabel := hlabels slot List.mem_cons_self
      have haccept := haccepts slot List.mem_cons_self
      rw [ht] at heq
      have hraw : Text.StartsSolid raw := by
        refine Text.StartsSolid.of_append (t := x) ?_
        rw [heq, Slot.spelling_eq]
        exact (haccept.shows hlabel hstop).1
      have hlast' : last.call.slots = (before ++ [slot]) ++ rest := by rw [hlast, List.append_assoc]; rfl
      cases htexts : (ArgumentList.split raw).map (·.text) with
      | nil =>
        rw [htexts] at hsteps
        rw [hreached.any_eq_false hsteps hlast] at hany
        simp at hany
      | cons text texts =>
        rw [htexts] at hsteps
        obtain ⟨w, hw, hraw⟩ := ArgumentList.map_text_split_eq_cons hraw htexts
        rcases hraw with ⟨rfl, -, hcut, rfl⟩ | ⟨more, rfl, hcut, hend, rfl⟩
        · -- The list ends behind this argument, so no further slot is written.
          rw [List.append_assoc] at heq
          obtain ⟨rfl, hsettled, next, hnext, hreached', -⟩ :=
            hsteps.first_agrees hread hreached hnamed hlast hlabel haccept hstop heq
          have hnone := hreached'.any_eq_false hnext hlast'
          obtain rfl := eq_nil_of_blank_append hw hsolid (List.append_cancel_left heq)
          rw [List.append_nil] at hcut ⊢
          exact Slot.agree_last hlabel (by simpa [hnone] using hany) hnone hcut hsettled
        · -- A comma cuts the argument off, and the slots behind this one are compared with the rest.
          rw [List.append_assoc, List.append_assoc] at heq
          obtain ⟨rfl, hsettled, next, hnext, hreached', hsignature⟩ :=
            hsteps.first_agrees hread hreached hnamed hlast hlabel haccept hstop heq
          have heq := List.append_cancel_left heq
          obtain rfl := eq_nil_of_blank_append hw hsolid heq
          rw [List.append_nil] at hcut hend ⊢
          rcases hcases with ⟨-, rfl⟩ | ⟨hrest, rfl⟩
          · -- The comma is not the parenthesis that ends the list of slots.
            simp at heq
          · cases more with
            | nil =>
              rw [hreached'.any_eq_false hnext hlast'] at hrest
              simp at hrest
            | cons c more =>
              obtain ⟨rfl, hmore⟩ : c = ' ' ∧ more ++ x = Slot.listing rest ++ ')' :: y := by simpa using heq
              rw [ArgumentList.map_text_split_blank_cons] at hnext
              have hagree := ih hnext hreached' (by rwa [hsignature]) hlast'
                (fun s hs => hlabels s (List.mem_cons_of_mem _ hs))
                (fun s hs => haccepts s (List.mem_cons_of_mem _ hs)) hmore
              exact hagree.cons hlabel hrest hcut hend hsettled

end Slots

/-! ### Along the nodes -/

section Nodes

variable {catalog : Catalog} (hcatalog : catalog.IsWellNamed) {read : Reader} (htranslates : read.Translates)
  (hends : read.KeepsEnds) (hread : read.Agrees)

include hcatalog htranslates hends hread

/-- **An argument list that goes along with the one of the call** that it is bound to is that of the call. -/
theorem bindWith_agrees {qualifier name : String} {raw x y : List Char} {call : Call}
    (hbind : bindWith catalog read 0 0 qualifier name raw = .ok call)
    (heq : raw ++ x = Slot.listing call.slots ++ ')' :: y) : Slot.Agree raw call.slots := by
  obtain ⟨signature, last, hfound, hsteps, rfl⟩ := (bindWith_eq_ok_iff htranslates).1 hbind
  obtain ⟨-, hsignature, hshaped⟩ := hsteps.isShaped
  have hnamed : last.call.signature.IsWellNamed := by
    rw [hsignature]
    exact hcatalog _ _ _ hfound
  have haccepts : ∀ slot ∈ last.call.slots, slot.label.Accepts slot.content := by
    intro slot hslot
    cases hvalue : slot.value with
    | none =>
      rw [Slot.content_of_none hvalue]
      exact slot.label.accepts_nil
    | some value =>
      obtain ⟨-, -, content, -, haccepts, -, hgiven⟩ := hsteps.exists_argument hslot hvalue
      rw [Slot.content_of_some hvalue]
      exact haccepts.of_alike (hends content value hgiven)
  have hreached := Binding.reached_start qualifier (hshaped.trans (by rw [hsignature]))
  exact hsteps.listing_agrees hread hreached (by rw [← hsignature]; exact hnamed) rfl
    (fun slot hslot => hshaped.isWritable hnamed hslot) haccepts heq

omit hcatalog htranslates hends hread in
/-- What two spans hold goes along as the spans do. -/
theorem inner_agrees_of_braced {inner other x y : List Char} (heq : braced inner ++ x = braced other ++ y) :
    inner ++ '}' :: '}' :: x = other ++ '}' :: '}' :: y := by
  simpa [braced] using heq

omit hcatalog htranslates hends hread in
/-- What goes along with a solid text has no blanks in front. -/
theorem exists_trim_append_of_agrees {inner other x y : List Char} (hne : other ≠ [])
    (hother : Text.StartsSolid other) (heq : inner ++ x = other ++ y) :
    ∃ w, Text.isBlankText w = true ∧ inner = Text.trim inner ++ w := by
  refine Text.StartsSolid.exists_eq_trim_append (Text.StartsSolid.of_append (t := x) ?_)
  rw [heq]
  intro c hc
  rw [List.head?_append_of_ne_nil _ hne] at hc
  exact hother c hc

/-- **A span that goes along with the canonical text of its node** is that text. -/
theorem span_agrees {inner x y : List Char} {node : Node} (hcloses : Closes inner)
    (hreads : SpanReads catalog read inner node) (heq : braced inner ++ x = node.spelling ++ y) :
    braced inner = node.spelling ∧ node.Settled := by
  cases hreads with
  | path hne hnone =>
    rw [Node.spelling_variable, String.toList_ofList] at heq ⊢
    -- Blanks can only have stood behind the path, and there the canonical text has a brace.
    have heq := inner_agrees_of_braced heq
    obtain ⟨w, hw, hinner⟩ := exists_trim_append_of_agrees hne (Text.startsSolid_trim inner) heq
    rw [hinner, List.append_assoc, ← hinner] at heq
    have hw := eq_nil_of_blank_append hw (by simp [Text.StartsSolid]; decide) (List.append_cancel_left heq)
    rw [hw, List.append_nil] at hinner
    rw [← hinner, Node.settled_variable_iff, String.toList_ofList]
    exact ⟨rfl, ((closes_iff inner).1 hcloses).2⟩
  | @call head call hhead hbind =>
    have hbegins := CallHead.read?_eq_some_iff_begins.1 hhead
    obtain ⟨hqualifier, hname⟩ := names_of_bindWith htranslates hbind
    have htext : call.head.text = head.text := by
      rw [CallHead.text, CallHead.text, Call.head, hqualifier, hname, String.toList_ofList,
        String.toList_ofList]
    rw [Node.spelling_call, htext] at heq ⊢
    have heq := inner_agrees_of_braced heq
    rw [List.append_assoc] at heq
    have hsolid : Text.StartsSolid head.text := by
      have htrim := Text.startsSolid_trim inner
      rw [hbegins.1] at htrim
      exact htrim.of_append
    obtain ⟨w, hw, hinner⟩ := exists_trim_append_of_agrees (by simp [CallHead.text]) hsolid heq
    rw [hbegins.1] at hinner
    have hrest : head.rest ++ (w ++ '}' :: '}' :: x) = Slot.listing call.slots ++ ')' :: '}' :: '}' :: y := by
      rw [hinner, List.append_assoc, List.append_assoc] at heq
      simpa [Call.head] using List.append_cancel_left heq
    have hclosing : Text.StartsSolid ('}' :: '}' :: y) := by
      intro c hc
      obtain rfl : '}' = c := by simpa using hc
      decide
    rcases head.rest_cases with hclosed | hopen
    · rw [hclosed, List.append_assoc] at hrest
      have hagree := bindWith_agrees hcatalog htranslates hends hread hbind hrest
      rw [hagree.listing] at hrest
      have hblank : w ++ '}' :: '}' :: x = '}' :: '}' :: y := by simpa using List.append_cancel_left hrest
      have hw := eq_nil_of_blank_append hw hclosing hblank
      refine ⟨?_, Node.settled_call_iff.2 ⟨hagree.apart, hagree.settled⟩⟩
      rw [hinner, hw, hclosed, hagree.listing, List.append_nil]
      rfl
    · -- Without the parenthesis the blanks and braces behind the list would have to start with it.
      rw [hopen] at hrest
      have hagree := bindWith_agrees hcatalog htranslates hends hread hbind hrest
      rw [hagree.listing] at hrest
      have hblank := List.append_cancel_left hrest
      have hparenthesis : Text.StartsSolid (')' :: '}' :: '}' :: y) := by
        intro c hc
        obtain rfl : ')' = c := by simpa using hc
        decide
      have hw := eq_nil_of_blank_append hw hparenthesis hblank
      rw [hw] at hblank
      simp at hblank

/-- **A piece that goes along with the canonical text of its node** is that text. -/
theorem piece_agrees {piece : Piece} {node : Node} {x y : List Char} (hsound : piece.Sound)
    (hreads : PieceReads catalog read piece node) (heq : piece.source ++ x = node.spelling ++ y) :
    piece.source = node.spelling ∧ node.Settled := by
  cases piece with
  | unclosed behind => exact hreads.elim
  | span inner => exact span_agrees hcatalog htranslates hends hread hsound hreads heq
  | text content =>
    obtain rfl : node = .text (String.ofList content) := hreads
    rw [Node.spelling_text, String.toList_ofList]
    exact ⟨rfl, Node.settled_text _⟩

/-- Pieces that go along with the canonical text of their nodes are that text. -/
theorem pieces_agree {pieces : List Piece} {tree : Tree} {x y : List Char}
    (hsound : ∀ piece ∈ pieces, piece.Sound)
    (hreads : List.Forall₂ (PieceReads catalog read) pieces tree)
    (heq : Piece.sources pieces ++ x = Tree.spelling tree ++ y) :
    Piece.sources pieces = Tree.spelling tree ∧ Tree.Settled tree := by
  induction hreads with
  | nil => exact ⟨rfl, Tree.settled_nil⟩
  | @cons piece node pieces tree hpiece _ ih =>
    rw [Piece.sources_cons, Tree.spelling_cons, List.append_assoc, List.append_assoc] at heq
    obtain ⟨hsource, hsettled⟩ := piece_agrees hcatalog htranslates hends hread
      (hsound piece List.mem_cons_self) hpiece heq
    rw [hsource] at heq
    obtain ⟨hsources, hrest⟩ := ih (fun p hp => hsound p (List.mem_cons_of_mem _ hp))
      (List.append_cancel_left heq)
    rw [Piece.sources_cons, Tree.spelling_cons, hsource, hsources]
    exact ⟨rfl, Tree.settled_cons.2 ⟨hsettled, hrest⟩⟩

theorem scanWith_agrees : Reader.Agrees (scanWith catalog read) := by
  intro s tree x y h heq
  rcases (scanWith_eq_ok_iff htranslates).1 h with ⟨rfl, rfl⟩ | ⟨-, hreads⟩
  · exact ⟨by simp, Tree.settled_cons.2 ⟨Node.settled_text "", Tree.settled_nil⟩⟩
  · obtain ⟨hsource, hsound, -⟩ := Piece.cut_spec s
    rw [← hsource] at heq ⊢
    exact pieces_agree hcatalog htranslates hends hread hsound hreads heq

end Nodes

/-- **Reading goes along with canonical text**, at every level. -/
theorem readWithin_agrees {catalog : Catalog} (hcatalog : catalog.IsWellNamed) (limit levels : Nat) :
    Reader.Agrees (readWithin catalog limit levels) := by
  induction levels with
  | zero =>
    intro s tree x y h
    simp [readWithin] at h
  | succ levels ih =>
    exact scanWith_agrees hcatalog (readWithin_translates catalog limit levels)
      (readWithin_keepsEnds catalog limit levels) ih

/-- **A tree that is read back is settled.** -/
theorem Dialect.settled_of_scan_render {dialect : Dialect} (hcatalog : dialect.catalog.IsWellNamed)
    {tree : Tree} (h : dialect.scan (Tree.render tree) = .ok tree) : tree.Settled := by
  rw [Dialect.scan_eq] at h
  have hagrees := scanWith_agrees hcatalog dialect.values_translates (readWithin_keepsEnds _ _ _)
    (readWithin_agrees hcatalog _ _)
  exact (hagrees _ tree [] [] h rfl).2

end Interpolation
