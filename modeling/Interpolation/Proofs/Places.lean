import Interpolation.Proofs.Admission
import Interpolation.Proofs.Failing

/-!
# Where things stand

An offset into a text names a place, and what stands there is said by `Interpolation.Text.StandsAt`: the text
is cut in three, with the thing in the middle and as many bytes in front of it as the offset says. The offsets
of the parts of a span, of its argument list and of the arguments are offsets of this kind, each into the text
around it (`Interpolation.Argument.standsAt_content`), and along such parts offsets add up
(`Interpolation.Text.StandsAt.trans`).

An argument has a place even if it is empty: it stands where the comma behind it stands
(`Interpolation.ArgumentList.exists_of_mem_place`).
-/

namespace Interpolation

/-! ### Parts of a text -/

/-- **A text stands in another one**, so many bytes behind its beginning. -/
def Text.StandsAt (part : List Char) (offset : Nat) (s : List Char) : Prop :=
  ∃ before behind, s = before ++ part ++ behind ∧ width before = offset

namespace Text.StandsAt

theorem first (part behind : List Char) : StandsAt part 0 (part ++ behind) := ⟨[], behind, rfl, rfl⟩

theorem last (before part : List Char) : StandsAt part (width before) (before ++ part) :=
  ⟨before, [], by simp, rfl⟩

theorem middle (before part behind : List Char) : StandsAt part (width before) (before ++ part ++ behind) :=
  ⟨before, behind, rfl, rfl⟩

/-- A part of a part is a part, and the offsets add up. -/
theorem trans {part s t : List Char} {offset start : Nat} (h : StandsAt part offset s)
    (hs : StandsAt s start t) : StandsAt part (start + offset) t := by
  obtain ⟨before, behind, rfl, rfl⟩ := h
  obtain ⟨front, back, rfl, rfl⟩ := hs
  exact ⟨front ++ before, behind ++ back, by simp, by simp⟩

theorem width_le {part s : List Char} {offset : Nat} (h : StandsAt part offset s) :
    offset + width part ≤ width s := by
  obtain ⟨before, behind, rfl, rfl⟩ := h
  simp

end Text.StandsAt

open Text (StandsAt)

/-- What is left of a text without the blanks around it stands behind the blanks in front. -/
theorem Text.standsAt_trim (s : List Char) : StandsAt (trim s) (width (leading s)) s := by
  obtain ⟨w, -, heq⟩ := exists_eq_leading_append_trim s
  exact ⟨leading s, w, heq, rfl⟩

/-! ### Spans and calls -/

/-- A piece stands behind the pieces in front of it. -/
theorem Piece.standsAt_source {s : List Char} {before after : List Piece} {piece : Piece}
    (h : cut s = before ++ piece :: after) : StandsAt piece.source (Text.width (sources before)) s := by
  obtain ⟨hsource, -, -⟩ := cut_spec s
  rw [h, sources_append, sources_cons, ← List.append_assoc] at hsource
  rw [← hsource]
  exact .middle _ _ _

/-- What a span holds stands behind its opening braces. -/
theorem Brace.standsAt_inner (inner : List Char) : StandsAt inner 2 (braced inner) := by
  refine ⟨['{', '{'], ['}', '}'], rfl, ?_⟩
  decide

/-- The opening braces of a span stand at its beginning. -/
theorem Brace.standsAt_opening (inner : List Char) : StandsAt ['{', '{'] 0 (braced inner) :=
  .first _ (inner ++ ['}', '}'])

namespace CallHead

variable {s : List Char} {head : CallHead}

theorem width_text (head : CallHead) : Text.width head.text = head.width := by
  have hdot : Char.utf8Size '.' = 1 := by decide
  have hparen : Char.utf8Size '(' = 1 := by decide
  simp only [text, width, Text.width_append, Text.width_cons, Text.width_nil, hdot, hparen]
  omega

/-- The head of a call stands at its beginning. -/
theorem standsAt_text (h : read? s = some head) : StandsAt head.text 0 s := by
  obtain ⟨rfl, -, -⟩ := read?_eq_some_iff.1 h
  exact .first _ _

/-- The argument list of a call stands behind the head. -/
theorem standsAt_arguments (h : read? s = some head) : StandsAt head.arguments head.width s := by
  obtain ⟨rfl, -, -⟩ := read?_eq_some_iff.1 h
  rw [← width_text]
  rcases head.rest_cases with hclosed | hopen
  · rw [hclosed, ← List.append_assoc]
    exact .middle _ _ _
  · rw [hopen]
    exact .last _ _

end CallHead

/-! ### Arguments -/

namespace ArgumentList

theorem dropEmptyLast_cons {argument : Argument} {rest : List Argument} (h : rest ≠ []) :
    dropEmptyLast (argument :: rest) = argument :: dropEmptyLast rest := by
  rw [dropEmptyLast]
  exact h

theorem place_ne_nil {start : Nat} {pieces : List (List Char)} (h : pieces ≠ []) :
    place start pieces ≠ [] := by
  obtain ⟨piece, rest, rfl⟩ := List.exists_cons_of_ne_nil h
  simp [place]

/-- **Where arguments stand**: an argument stands at its offset, and where it is empty, a comma does. -/
theorem exists_of_mem_place {start : Nat} {state : Nesting} {s : List Char} {argument : Argument}
    (h : argument ∈ dropEmptyLast (place start (pieces state s))) :
    ∃ before behind, s = before ++ argument.text ++ behind ∧ start + Text.width before = argument.offset ∧
      (argument.text = [] → behind.head? = some ',') := by
  -- On the length: the arguments behind a comma are those of a shorter list that starts there.
  induction hn : s.length using Nat.strong_induction_on generalizing state start s with
  | _ n ih =>
    subst hn
    rcases pieces_cases state s with ⟨-, hpieces⟩ | ⟨first, rest, rfl, -, -, hpieces⟩
    · rw [hpieces, place, place, dropEmptyLast] at h
      split at h
      · simp at h
      · rename_i hne
        obtain rfl := List.mem_singleton.1 h
        obtain ⟨before, behind, heq, hwidth⟩ := Text.standsAt_trim s
        exact ⟨before, behind, heq, by rw [hwidth], fun hempty => absurd (List.isEmpty_iff.2 hempty) hne⟩
    · rw [hpieces, place, dropEmptyLast_cons (place_ne_nil (pieces_ne_nil _ _))] at h
      rcases List.mem_cons.1 h with rfl | hmem
      · by_cases hempty : Text.trim first = []
        · have hleading : Text.leading first = first :=
            List.takeWhile_eq_self_iff.2 (List.all_eq_true.1 ((Text.trim_eq_nil_iff first).1 hempty))
          exact ⟨first, ',' :: rest, by simp [hempty], by simp [hleading], fun _ => rfl⟩
        · obtain ⟨before, behind, heq, hwidth⟩ := Text.standsAt_trim first
          refine ⟨before, behind ++ ',' :: rest, ?_, by rw [hwidth], fun h => absurd h hempty⟩
          conv_lhs => rw [heq]
          simp
      · obtain ⟨before, behind, rfl, hoffset, hempty⟩ := ih rest.length (by simp; omega) hmem rfl
        refine ⟨first ++ ',' :: before, behind, by simp, ?_, hempty⟩
        have hcomma : Char.utf8Size ',' = 1 := by decide
        rw [← hoffset, Text.width_append, Text.width_cons, hcomma]
        omega

/-- An argument stands at its offset. -/
theorem standsAt_of_mem_split {raw : List Char} {argument : Argument} (h : argument ∈ split raw) :
    StandsAt argument.text argument.offset raw := by
  obtain ⟨before, behind, heq, hoffset, -⟩ := exists_of_mem_place h
  exact ⟨before, behind, heq, by rw [← hoffset, Nat.zero_add]⟩

/-- At the offset of an argument there is a character that is not blank. -/
theorem exists_standsAt_of_mem_split {raw : List Char} {argument : Argument} (h : argument ∈ split raw) :
    ∃ c, Text.isBlank c = false ∧ StandsAt [c] argument.offset raw := by
  obtain ⟨before, behind, heq, hoffset, hempty⟩ := exists_of_mem_place h
  rw [Nat.zero_add] at hoffset
  cases htext : argument.text with
  | nil =>
    obtain ⟨rest, rfl⟩ := List.head?_eq_some_iff.1 (hempty htext)
    exact ⟨',', by decide, before, rest, by simp [heq, htext], hoffset⟩
  | cons c text =>
    have htrim : Text.trim argument.text = argument.text :=
      trim_eq_of_mem_split (List.mem_map_of_mem h)
    have hsolid := Text.startsSolid_trim argument.text c
    rw [htrim, htext] at hsolid
    exact ⟨c, hsolid rfl, before, text ++ behind, by simp [heq, htext], hoffset⟩

end ArgumentList

namespace Argument

variable {raw : List Char} {argument : Argument}

/-- The keyword of an argument stands at the argument's offset, with the equals sign behind it. -/
theorem standsAt_mark (h : argument ∈ ArgumentList.split raw) :
    StandsAt argument.label.mark argument.offset raw := by
  have hmark : StandsAt argument.label.mark 0 argument.text := by
    rw [argument.takes.eq_append]
    exact .first _ _
  exact hmark.trans (ArgumentList.standsAt_of_mem_split h)

/-- The value of an argument stands behind the keyword, if there is one. -/
theorem standsAt_content (h : argument ∈ ArgumentList.split raw) :
    StandsAt argument.content argument.contentOffset raw := by
  have hcontent : StandsAt argument.content (Text.width argument.label.mark) argument.text := by
    conv_rhs => rw [argument.takes.eq_append]
    exact .last _ _
  exact hcontent.trans (ArgumentList.standsAt_of_mem_split h)

end Argument

end Interpolation
