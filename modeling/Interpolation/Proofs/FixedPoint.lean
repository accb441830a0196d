import Interpolation.Proofs.Agreement
import Interpolation.Proofs.Naming
import Mathlib

/-!
# Scanning and rendering

How far canonical text can be relied on.

* Rendering a canonical tree and scanning the text gives the tree, and no other trees come back
  (`Interpolation.Dialect.scan_render_canonical`).
* A tree that a text was scanned to comes back if it is settled (`Interpolation.Dialect.scan_render_settled`).
* Canonical text is not always canonical. Blanks that are dropped from a span, or arguments that are put in
  order, can change what the text means, up to leaving one that has no meaning. Which texts survive a second
  pass is said exactly by `Interpolation.Dialect.canonicalize_again`: those that are the canonical text of a
  canonical tree.
-/

namespace Interpolation.Dialect

/-! ### A dialect to try things on -/

/-- A method with parameters of both kinds. -/
def joinMethod : Signature where
  home := "text"
  name := "join"
  positional := [{ type := "string" }, { type := "string" }]
  keyword := [{ name := "by", type := "string" }]

/-- The dialect with this method alone. -/
def joining : Dialect where
  catalog := .ofList [Namespace.define { name := "text" } joinMethod]
  maxDepth := 2

theorem joining_isWellNamed : joining.catalog.IsWellNamed :=
  Catalog.isWellNamed_ofList (by decide)

/-- A call in a call, one of whose slots is empty. -/
def joined : Tree :=
  [.text "Hi ",
    .call ⟨"text", joinMethod,
      [⟨.positional, "string", some [.variable "a"]⟩,
        ⟨.positional, "string", some [.call ⟨"text", joinMethod,
          [⟨.positional, "string", none⟩, ⟨.positional, "string", some [.text "b"]⟩,
            ⟨.keyword "by", "string", none⟩]⟩]⟩,
        ⟨.keyword "by", "string", some [.text "-"]⟩]⟩]

theorem scan_joined :
    joining.scan "Hi {{ text.join( by=-, {{a }},{{text.join(,b)}} }}" = .ok joined := by
  cbv

/-! ### Rendering and scanning -/

/-- **Scanning undoes rendering on canonical trees**, and on no others as far as keyword parameters have
distinct words for names. -/
theorem scan_render_canonical (dialect : Dialect) (tree : Tree) :
    (tree.Canonical dialect.catalog dialect.maxDepth → dialect.scan (Tree.render tree) = .ok tree) ∧
      (dialect.catalog.IsWellNamed → dialect.scan (Tree.render tree) = .ok tree →
        tree.Canonical dialect.catalog dialect.maxDepth) := by
  constructor
  · intro h
    exact h.scan_render
  · intro hcatalog h
    exact canonical_of_scan hcatalog h (settled_of_scan_render hcatalog h)

theorem scan_render_canonical_joined :
    joined.Canonical joining.catalog joining.maxDepth ∧
      joining.scan "Hi {{text.join({{a}}, {{text.join(, b)}}, by=-)}}" = .ok joined := by
  have hcanonical := canonical_of_scan joining_isWellNamed scan_joined (by decide)
  have hrender : Tree.render joined = "Hi {{text.join({{a}}, {{text.join(, b)}}, by=-)}}" := by cbv
  refine ⟨hcanonical, ?_⟩
  rw [← hrender]
  exact (scan_render_canonical joining joined).1 hcanonical

/-- **A settled tree survives rendering and scanning**, so that its canonical text is a fixed point. -/
theorem scan_render_settled {dialect : Dialect} (hcatalog : dialect.catalog.IsWellNamed) {text : String}
    {tree : Tree} (hscan : dialect.scan text = .ok tree) (hsettled : tree.Settled) :
    dialect.scan (Tree.render tree) = .ok tree ∧
      dialect.canonicalize text = .ok (Tree.render tree) ∧
        dialect.canonicalize (Tree.render tree) = .ok (Tree.render tree) := by
  have hback := (canonical_of_scan hcatalog hscan hsettled).scan_render
  refine ⟨hback, ?_, ?_⟩
  · rw [canonicalize, hscan]
    rfl
  · rw [canonicalize, hback]
    rfl

theorem scan_render_settled_joined :
    joined.Settled ∧ joining.scan (Tree.render joined) = .ok joined :=
  ⟨by decide, (scan_render_settled joining_isWellNamed scan_joined (by decide)).1⟩

/-- **When canonical text survives a second pass**: its tree comes back exactly if it is settled, and the text
comes back exactly if it is the text of some canonical tree. -/
theorem canonicalize_again {dialect : Dialect} (hcatalog : dialect.catalog.IsWellNamed) {text : String}
    {tree : Tree} (hscan : dialect.scan text = .ok tree) :
    dialect.canonicalize text = .ok (Tree.render tree) ∧
      (dialect.canonicalize (Tree.render tree) = .ok (Tree.render tree) ↔
        ∃ other : Tree, other.Canonical dialect.catalog dialect.maxDepth ∧
          Tree.render other = Tree.render tree) ∧
      (dialect.scan (Tree.render tree) = .ok tree ↔ tree.Settled) := by
  refine ⟨?_, ?_, ?_⟩
  · rw [canonicalize, hscan]
    rfl
  · rw [canonicalize, map_eq_ok_iff]
    constructor
    · rintro ⟨other, hother, hrender⟩
      rw [← hrender] at hother
      exact ⟨other, canonical_of_scan hcatalog hother (settled_of_scan_render hcatalog hother), hrender⟩
    · rintro ⟨other, hcanonical, hrender⟩
      exact ⟨other, by rw [← hrender]; exact hcanonical.scan_render, hrender⟩
  · constructor
    · exact settled_of_scan_render hcatalog
    · intro hsettled
      exact (canonical_of_scan hcatalog hscan hsettled).scan_render

/-- The blank in this span keeps its path, a closing brace, apart from the braces behind it. Without the blank
the span holds nothing, so that its canonical text is the text of no canonical tree. -/
theorem canonicalize_again_stray :
    joining.scan (spanText " \x7d ") = .ok [.variable "\x7d"] ∧
      ¬∃ other : Tree, other.Canonical joining.catalog joining.maxDepth ∧
        Tree.render other = spanText "\x7d" := by
  have hscan : joining.scan (spanText " \x7d ") = .ok [.variable "\x7d"] := by cbv
  have hrender : Tree.render [.variable "\x7d"] = spanText "\x7d" := by cbv
  obtain ⟨-, hagain, -⟩ := canonicalize_again joining_isWellNamed hscan
  rw [hrender] at hagain
  refine ⟨hscan, fun hother => ?_⟩
  have hsecond : joining.canonicalize (spanText "\x7d") = .error ⟨.emptyInterpolation, 0⟩ := by cbv
  rw [hsecond] at hagain
  simpa using hagain.2 hother

/-- Canonical text need not survive a second pass. -/
theorem canonicalize_not_idempotent :
    ¬∀ (dialect : Dialect) (text canonical : String), dialect.catalog.IsWellNamed →
      dialect.canonicalize text = .ok canonical → dialect.canonicalize canonical = .ok canonical := by
  intro h
  -- Neither pass looks a method up, so that both can be evaluated without a catalog.
  have hfirst (catalog : Catalog) :
      canonicalize ⟨catalog, 32⟩ (spanText " \x7d ") = .ok (spanText "\x7d") := by cbv
  have hsecond (catalog : Catalog) :
      canonicalize ⟨catalog, 32⟩ (spanText "\x7d") = .error ⟨.emptyInterpolation, 0⟩ := by cbv
  have hagain := h ⟨.builtin, 32⟩ (spanText " \x7d ") (spanText "\x7d") Catalog.isWellNamed_builtin
    (hfirst .builtin)
  rw [hsecond] at hagain
  simp at hagain

end Interpolation.Dialect
