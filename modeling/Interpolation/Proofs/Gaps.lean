import Interpolation.Proofs.Places

/-!
# What stands between arguments

The arguments of a list lie in it in order, and what is left of the list around them is next to nothing: blanks
in front of the first one, blanks around a single comma between each two of them, and behind the last one blanks
again, or blanks around the comma that an empty last argument was dropped behind.

`Interpolation.ArgumentList.Tiling` says this along the text, one argument after the other, with the part of the
text that is done already in front. It is what cutting does (`Interpolation.ArgumentList.tiling_split`), and
whatever is asked about the parts of the list between two offsets (`Interpolation.Text.Slice`) is an induction
along it.
-/

namespace Interpolation

/-- **The part of a text between two offsets**, both of which are offsets of characters or of the end. -/
def Text.Slice (s : List Char) (start stop : Nat) (part : List Char) : Prop :=
  StandsAt part start s ∧ start + width part = stop

/-- A text without any of its blanks. -/
def Text.solid (s : List Char) : List Char := s.filter fun c => !isBlank c

/-- The offset behind an argument. -/
def Argument.stop (argument : Argument) : Nat := argument.offset + Text.width argument.text

theorem Text.solid_append (s t : List Char) : solid (s ++ t) = solid s ++ solid t := List.filter_append ..

theorem Text.solid_of_isBlankText {w : List Char} (hw : isBlankText w = true) : solid w = [] := by
  rw [solid, List.filter_eq_nil_iff]
  intro c hc
  simpa using List.all_eq_true.1 hw c hc

namespace ArgumentList

/-- **Blanks around one comma.** -/
def IsCommaGap (gap : List Char) : Prop :=
  ∃ w v, Text.isBlankText w = true ∧ Text.isBlankText v = true ∧ gap = w ++ ',' :: v

/-- **Arguments that a text is made of**, apart from blanks and from a comma between each two of them. The first
text stands in front of the other and is what offsets start from. -/
inductive Tiling : List Char → List Char → List Argument → Prop
  /-- There are no arguments in blanks. -/
  | blank {front w : List Char} : Text.isBlankText w = true → Tiling front w []
  /-- An argument with nothing behind it but blanks. -/
  | last {front w text v : List Char} :
    Text.isBlankText w = true → Text.isBlankText v = true → Text.trim text = text →
    Tiling front (w ++ text ++ v) [⟨Text.width (front ++ w), text⟩]
  /-- An argument with a comma behind it. -/
  | cons {front w text v rest : List Char} {arguments : List Argument} :
    Text.isBlankText w = true → Text.isBlankText v = true → Text.trim text = text →
    Tiling (front ++ w ++ text ++ v ++ [',']) rest arguments →
    Tiling front (w ++ text ++ v ++ ',' :: rest) (⟨Text.width (front ++ w), text⟩ :: arguments)

/-! ### Cutting -/

/-- **The arguments that a text is cut into tile it.** -/
theorem tiling_place (front s : List Char) :
    Tiling front s (dropEmptyLast (place (Text.width front) (pieces .outside s))) := by
  -- On the length: what is behind the first comma is cut with the part up to the comma in front.
  induction hn : s.length using Nat.strong_induction_on generalizing front s with
  | _ n ih =>
    subst hn
    rcases pieces_cases .outside s with ⟨-, hpieces⟩ | ⟨first, rest, rfl, -, -, hpieces⟩
    · obtain ⟨v, hv, heq⟩ := Text.exists_eq_leading_append_trim s
      rw [hpieces, place, place, dropEmptyLast]
      split
      · rename_i hempty
        exact .blank ((Text.trim_eq_nil_iff s).1 (List.isEmpty_iff.1 hempty))
      · have hlast : Tiling front (Text.leading s ++ Text.trim s ++ v)
            [⟨Text.width (front ++ Text.leading s), Text.trim s⟩] :=
          .last (Text.isBlankText_leading s) hv (Text.trim_trim s)
        rwa [← heq, Text.width_append] at hlast
    · obtain ⟨v, hv, heq⟩ := Text.exists_eq_leading_append_trim first
      have hcomma : Char.utf8Size ',' = 1 := by decide
      have hwidth : Text.width (front ++ Text.leading first ++ Text.trim first ++ v ++ [',']) =
          Text.width front + Text.width first + 1 := by
        conv_rhs => rw [heq]
        simp only [Text.width_append, Text.width_cons, Text.width_nil, hcomma]
        omega
      have hrest := ih rest.length (by simp; omega)
        (front ++ Text.leading first ++ Text.trim first ++ v ++ [',']) rest rfl
      rw [hwidth] at hrest
      have hcons := Tiling.cons (Text.isBlankText_leading first) hv (Text.trim_trim first) hrest
      rw [hpieces, place, dropEmptyLast_cons (place_ne_nil (pieces_ne_nil _ _))]
      rwa [← heq, Text.width_append] at hcons

theorem tiling_split (raw : List Char) : Tiling [] raw (split raw) := tiling_place [] raw

/-! ### Arguments and gaps -/

namespace Tiling

variable {front s : List Char} {arguments : List Argument}

/-- An argument stands at its offset and has no blanks at its ends. -/
theorem slice_of_mem (h : Tiling front s arguments) {argument : Argument} (hmem : argument ∈ arguments) :
    Text.Slice (front ++ s) argument.offset argument.stop argument.text ∧
      Text.trim argument.text = argument.text := by
  induction h with
  | blank => simp at hmem
  | @last front w text v _ _ htrim =>
    obtain rfl := List.mem_singleton.1 hmem
    refine ⟨⟨⟨front ++ w, v, by simp, rfl⟩, rfl⟩, htrim⟩
  | @cons front w text v rest arguments _ _ htrim _ ih =>
    rcases List.mem_cons.1 hmem with rfl | hmem
    · exact ⟨⟨⟨front ++ w, v ++ ',' :: rest, by simp, rfl⟩, rfl⟩, htrim⟩
    · simpa using ih hmem

/-- In front of the first argument there are blanks. -/
theorem exists_front {first : Argument} (h : Tiling front s (first :: arguments)) :
    ∃ w more, Text.isBlankText w = true ∧ s = w ++ more ∧ first.offset = Text.width (front ++ w) := by
  cases h with
  | @last _ w text v hw => exact ⟨w, text ++ v, hw, by simp, rfl⟩
  | @cons _ w text v rest _ hw => exact ⟨w, text ++ v ++ ',' :: rest, hw, by simp, rfl⟩

/-- Between two arguments there are blanks around one comma. -/
theorem exists_between (h : Tiling front s arguments) {before after : List Argument} {first second : Argument}
    (heq : arguments = before ++ first :: second :: after) :
    ∃ gap, Text.Slice (front ++ s) first.stop second.offset gap ∧ IsCommaGap gap := by
  induction h generalizing before with
  | blank => simp at heq
  | last => cases before <;> simp at heq
  | @cons front w text v rest arguments _ hv _ hrest ih =>
    cases before with
    | nil =>
      obtain ⟨rfl, rfl⟩ := List.cons.inj heq
      obtain ⟨u, more, hu, rfl, hoffset⟩ := hrest.exists_front
      refine ⟨v ++ ',' :: u, ⟨⟨front ++ w ++ text, more, by simp, ?_⟩, ?_⟩, v, u, hv, hu, rfl⟩
      · rw [Argument.stop, Text.width_append (front ++ w)]
      · rw [hoffset, Argument.stop]
        simp only [Text.width_append, Text.width_cons, Text.width_nil]
        omega
    | cons _ before =>
      obtain ⟨-, heq⟩ := List.cons.inj heq
      simpa using ih heq

/-- Behind the last argument there are blanks, or blanks around the comma of an argument that was dropped. -/
theorem exists_behind (h : Tiling front s arguments) {last : Argument}
    (hlast : arguments.getLast? = some last) :
    ∃ gap, Text.Slice (front ++ s) last.stop (Text.width (front ++ s)) gap ∧
      (Text.isBlankText gap = true ∨ IsCommaGap gap) := by
  induction h with
  | blank => simp at hlast
  | @last front w text v _ hv _ =>
    obtain rfl : (⟨Text.width (front ++ w), text⟩ : Argument) = last := by simpa using hlast
    refine ⟨v, ⟨⟨front ++ w ++ text, [], by simp, ?_⟩, ?_⟩, .inl hv⟩
    · rw [Argument.stop, Text.width_append (front ++ w)]
    · simp only [Argument.stop, Text.width_append]
      omega
  | @cons front w text v rest arguments _ hv _ hrest ih =>
    cases arguments with
    | nil =>
      obtain rfl : (⟨Text.width (front ++ w), text⟩ : Argument) = last := by simpa using hlast
      cases hrest with
      | blank hblank =>
        refine ⟨v ++ ',' :: rest, ⟨⟨front ++ w ++ text, [], by simp, ?_⟩, ?_⟩, .inr ⟨v, rest, hv, hblank, rfl⟩⟩
        · rw [Argument.stop, Text.width_append (front ++ w)]
        · simp only [Argument.stop, Text.width_append]
          omega
    | cons second arguments =>
      rw [List.getLast?_cons_cons] at hlast
      simpa using ih hlast

/-- **Nothing is lost but blanks**: without these, a text is its arguments with commas between them, and one
more comma if an empty argument was dropped. -/
theorem solid_eq (h : Tiling front s arguments) :
    Text.solid s = [','].intercalate (arguments.map (Text.solid ·.text)) ∨
      Text.solid s = [','].intercalate (arguments.map (Text.solid ·.text)) ++ [','] := by
  have hcomma (rest : List Char) : Text.solid (',' :: rest) = ',' :: Text.solid rest := rfl
  induction h with
  | blank hblank => exact .inl (Text.solid_of_isBlankText hblank)
  | last hw hv _ =>
    left
    simp [Text.solid_append, Text.solid_of_isBlankText hw, Text.solid_of_isBlankText hv]
  | @cons front w text v rest arguments hw hv _ hrest ih =>
    have hpiece : Text.solid (w ++ text ++ v ++ ',' :: rest) = Text.solid text ++ ',' :: Text.solid rest := by
      simp [Text.solid_append, Text.solid_of_isBlankText hw, Text.solid_of_isBlankText hv, hcomma]
    cases arguments with
    | nil =>
      right
      cases hrest with
      | blank hblank => rw [hpiece, Text.solid_of_isBlankText hblank]; simp
    | cons second arguments =>
      simp only [List.map_cons] at ih ⊢
      rw [hpiece, List.intercalate_cons_cons]
      exact ih.imp (fun ih => by rw [ih]; simp) fun ih => by rw [ih]; simp

end Tiling

/-- **Cutting loses nothing of an argument list.** The arguments stand at their offsets, in order. In front of
the first there are blanks; between each two, blanks around one comma; behind the last, blanks, or blanks around
one comma if an empty argument was dropped; and a list without arguments is blank. So without its blanks the
list is its arguments without theirs, with the commas that cut it. -/
theorem split_partitions (raw : List Char) :
    (∀ argument ∈ split raw, Text.Slice raw argument.offset argument.stop argument.text ∧
      Text.trim argument.text = argument.text) ∧
    (∀ first, (split raw).head? = some first →
      ∃ gap, Text.Slice raw 0 first.offset gap ∧ Text.isBlankText gap = true) ∧
    (∀ before first second after, split raw = before ++ first :: second :: after →
      ∃ gap, Text.Slice raw first.stop second.offset gap ∧ IsCommaGap gap) ∧
    (∀ last, (split raw).getLast? = some last →
      ∃ gap, Text.Slice raw last.stop (Text.width raw) gap ∧
        (Text.isBlankText gap = true ∨ IsCommaGap gap)) ∧
    (split raw = [] → Text.isBlankText raw = true) ∧
    (Text.solid raw = [','].intercalate ((split raw).map (Text.solid ·.text)) ∨
      Text.solid raw = [','].intercalate ((split raw).map (Text.solid ·.text)) ++ [',']) := by
  have htiling := tiling_split raw
  refine ⟨fun argument hmem => htiling.slice_of_mem hmem, fun first hfirst => ?_,
    fun before first second after heq => htiling.exists_between heq,
    fun last hlast => htiling.exists_behind hlast, fun hnil => ?_, htiling.solid_eq⟩
  · obtain ⟨arguments, heq⟩ := List.head?_eq_some_iff.1 hfirst
    rw [heq] at htiling
    obtain ⟨w, more, hw, rfl, hoffset⟩ := htiling.exists_front
    exact ⟨w, ⟨.first w more, by rw [hoffset, Nat.zero_add, List.nil_append]⟩, hw⟩
  · exact isBlankText_of_split_eq_nil (by rw [hnil, List.map_nil])

/-- A list with an empty argument in between and an empty one at the end, which is dropped. -/
def spaced : List Char := "é , f(b, c) , , ".toList

theorem split_partitions_spaced :
    split spaced = [⟨0, ['é']⟩, ⟨5, "f(b, c)".toList⟩, ⟨15, []⟩] ∧
      (∃ gap, Text.Slice spaced 2 5 gap ∧ IsCommaGap gap) ∧
      (∃ gap, Text.Slice spaced 12 15 gap ∧ IsCommaGap gap) ∧
      ∃ gap, Text.Slice spaced 15 17 gap ∧ (Text.isBlankText gap = true ∨ IsCommaGap gap) := by
  have hsplit : split spaced = [⟨0, ['é']⟩, ⟨5, "f(b, c)".toList⟩, ⟨15, []⟩] := by decide
  obtain ⟨-, -, hbetween, hbehind, -⟩ := split_partitions spaced
  exact ⟨hsplit, hbetween [] _ _ _ hsplit, hbetween [_] _ _ _ hsplit,
    hbehind ⟨15, []⟩ (by rw [hsplit]; rfl)⟩

end ArgumentList

end Interpolation
