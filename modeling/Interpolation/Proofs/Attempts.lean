import Interpolation.Proofs.Loading
import Mathlib

/-!
# Loads that fail

A load is an action on a catalog, which registers what a source declares. It takes up all of it or nothing:
the source is read to its end before the first namespace is registered, so that a fault in it, wherever it
is, leaves the catalog as it was (`Interpolation.Load.outcome_of_mem_isBlankName`). That is the one thing to
know of a single load (`Interpolation.Load.outcome_eq`), and since it does not depend on the catalog whether
a load fails, it lifts to runs of several loads, in which those that fail might as well be left out
(`Interpolation.Load.outcome_all_or_nothing`).
-/

namespace Interpolation

namespace Load

variable {files : Files} {load : Load}

/-! ### A single load -/

/-- Registering one namespace after the other is registering them all. -/
theorem run_forM_register (spaces : List Namespace) (catalog : Catalog) :
    ((spaces.forM (m := ExceptT CatalogError (StateM Catalog)) fun space =>
      modify (·.register space)).run.run catalog).run = (.ok (), catalog.registerAll spaces) := by
  induction spaces generalizing catalog with
  | nil => rfl
  | cons space rest ih => exact ih (catalog.register space)

/-- **A load registers all that its source declares, or nothing.** -/
theorem outcome_eq (files : Files) (load : Load) (catalog : Catalog) :
    load.outcome files catalog =
      match load.namespaces files with
      | .ok spaces => (.ok (), catalog.registerAll spaces)
      | .error error => (.error error, catalog) := by
  rw [outcome, run]
  cases load.namespaces files with
  | error error => rfl
  | ok spaces => exact run_forM_register spaces catalog

/-- A load that succeeds has registered what its source declares, in order. -/
theorem outcome_eq_ok_iff {catalog last : Catalog} :
    load.outcome files catalog = (.ok (), last) ↔
      ∃ spaces, load.namespaces files = .ok spaces ∧ catalog.registerAll spaces = last := by
  rw [outcome_eq]
  cases load.namespaces files <;> simp

/-- **A load that fails leaves the catalog as it was.** -/
theorem outcome_eq_error_iff {catalog last : Catalog} {error : CatalogError} :
    load.outcome files catalog = (.error error, last) ↔
      load.namespaces files = .error error ∧ catalog = last := by
  rw [outcome_eq]
  cases load.namespaces files <;> simp

/-- **The bundle that a load reads**, as a text and the path that errors in it refer to. -/
inductive ReadsBundle (files : Files) : Load → String → Path → Prop
  /-- The text is given. -/
  | json (text : String) : ReadsBundle files (.json text) text inlinePath
  /-- The text is in a file with the extension of bundles. -/
  | file {path : Path} {text : String} : path.extension? = some Bundle.extension →
    files.read path = .ok text → ReadsBundle files (.file path) text path

theorem ReadsBundle.namespaces_eq {text : String} {path : Path} (h : load.ReadsBundle files text path) :
    load.namespaces files = Bundle.ofJson text path := by
  cases h with
  | json text => rfl
  | file hextension hread =>
    rw [namespaces, Files.namespaces, hread]
    exact if_pos hextension

end Load

/-- **A blank name anywhere spoils a bundle**, whatever stands in front of it. -/
theorem Bundle.namespaces?_of_mem_isBlankName {bundle : Bundle} {name : String}
    {methods : Keyed (String × Signature) Prod.fst} (hmem : (name, methods) ∈ bundle.entries)
    (hblank : isBlankName name = true) (path : Path) :
    bundle.namespaces? path = .error (.emptyName path) := by
  obtain ⟨entries, sorted⟩ := bundle
  rw [namespaces?]
  dsimp only at hmem ⊢
  clear sorted
  induction entries with
  | nil => cases hmem
  | cons first rest ih =>
    rw [List.mapM_cons]
    cases hfirst : isBlankName first.1 with
    | true => rfl
    | false =>
      rcases List.mem_cons.1 hmem with rfl | hmem
      · rw [hblank] at hfirst
        cases hfirst
      · rw [ih hmem]
        rfl

namespace Load

variable {files : Files} {load : Load}

/-- **A fault at the end of a bundle undoes what stands in front of it**: nothing is registered. -/
theorem outcome_of_mem_isBlankName {text : String} {path : Path} {bundle : Bundle} {name : String}
    {methods : Keyed (String × Signature) Prod.fst} (hload : load.ReadsBundle files text path)
    (hdocument : (Json.document? text).bind Bundle.decode? = some bundle)
    (hmem : (name, methods) ∈ bundle.entries) (hblank : isBlankName name = true) (catalog : Catalog) :
    load.outcome files catalog = (.error (.emptyName path), catalog) := by
  rw [outcome_eq_error_iff, hload.namespaces_eq, Bundle.ofJson, hdocument]
  exact ⟨Bundle.namespaces?_of_mem_isBlankName hmem hblank path, rfl⟩

/-! ### Several loads -/

/-- **A run of loads**, each from the files that there are at its time: what becomes of each of them, and the
catalog behind them all. -/
def outcomes : List (Files × Load) → Catalog → List (Except CatalogError Unit) × Catalog
  | [], catalog => ([], catalog)
  | (files, load) :: steps, catalog =>
    let (outcome, next) := load.outcome files catalog
    let (rest, last) := outcomes steps next
    (outcome :: rest, last)

/-- The loads of a run that succeed. -/
def succeeding (steps : List (Files × Load)) (results : List (Except CatalogError Unit)) :
    List (Files × Load) :=
  ((steps.zip results).filter (·.2.isOk)).map Prod.fst

/-- **A run registers what its successful loads declare, and nothing else**, in order; left to themselves,
these loads succeed again and lead to the same catalog. -/
theorem exists_outcomes_eq (steps : List (Files × Load)) (catalog : Catalog) :
    ∃ results loaded, outcomes steps catalog = (results, catalog.registerAll loaded.flatten) ∧
      List.Forall₂ (fun step spaces => step.2.namespaces step.1 = .ok spaces)
        (succeeding steps results) loaded ∧
      outcomes (succeeding steps results) catalog =
        (loaded.map fun _ => .ok (), catalog.registerAll loaded.flatten) := by
  induction steps generalizing catalog with
  | nil => exact ⟨[], [], rfl, .nil, rfl⟩
  | cons step steps ih =>
    obtain ⟨files, load⟩ := step
    cases hstep : load.namespaces files with
    | error error =>
      obtain ⟨results, loaded, hrun, hloaded, hagain⟩ := ih catalog
      refine ⟨.error error :: results, loaded, ?_, hloaded, hagain⟩
      rw [outcomes, outcome_eq_error_iff.2 ⟨hstep, rfl⟩]
      dsimp only
      rw [hrun]
    | ok spaces =>
      obtain ⟨results, loaded, hrun, hloaded, hagain⟩ := ih (catalog.registerAll spaces)
      have hlast : catalog.registerAll (spaces :: loaded).flatten =
          (catalog.registerAll spaces).registerAll loaded.flatten := List.foldl_append
      refine ⟨.ok () :: results, spaces :: loaded, ?_, .cons hstep hloaded, ?_⟩
      · rw [outcomes, outcome_eq_ok_iff.2 ⟨spaces, hstep, rfl⟩, hlast]
        dsimp only
        rw [hrun]
      · have hcons : succeeding ((files, load) :: steps) (.ok () :: results) =
            (files, load) :: succeeding steps results := rfl
        rw [hcons, outcomes, outcome_eq_ok_iff.2 ⟨spaces, hstep, rfl⟩, hlast]
        dsimp only
        rw [hagain]
        rfl

/-- **A load takes up all of its source or nothing**, and a run of loads is the run of those that succeed:

* a load that fails leaves the catalog as it was, and so everything that can be read in it;
* a load that succeeds registers the namespaces that its source declares, in order;
* in a bundle a single blank name is a failure, wherever it stands and whatever the others are;
* the loads of a run that succeed do so without the others too, and they lead to the same catalog. -/
theorem outcome_all_or_nothing :
    (∀ (files : Files) (load : Load) (catalog last : Catalog) (error : CatalogError),
      load.outcome files catalog = (.error error, last) → last = catalog) ∧
    (∀ (files : Files) (load : Load) (catalog last : Catalog), load.outcome files catalog = (.ok (), last) →
      ∃ spaces, load.namespaces files = .ok spaces ∧ last = catalog.registerAll spaces) ∧
    (∀ (files : Files) (load : Load) (catalog : Catalog) (text : String) (path : Path) (bundle : Bundle),
      load.ReadsBundle files text path → (Json.document? text).bind Bundle.decode? = some bundle →
      ∀ entry ∈ bundle.entries, isBlankName entry.1 = true →
        load.outcome files catalog = (.error (.emptyName path), catalog)) ∧
    ∀ (steps : List (Files × Load)) (catalog last : Catalog) (results : List (Except CatalogError Unit)),
      outcomes steps catalog = (results, last) →
        ∃ loaded, List.Forall₂ (fun step spaces => step.2.namespaces step.1 = .ok spaces)
            (succeeding steps results) loaded ∧
          last = catalog.registerAll loaded.flatten ∧
          outcomes (succeeding steps results) catalog = (loaded.map fun _ => .ok (), last) := by
  refine ⟨fun files load catalog last error h => (outcome_eq_error_iff.1 h).2.symm,
    fun files load catalog last h => ?_,
    fun files load catalog text path bundle hload hdocument entry hmem hblank =>
      outcome_of_mem_isBlankName hload hdocument hmem hblank catalog, fun steps catalog last results h => ?_⟩
  · obtain ⟨spaces, hspaces, rfl⟩ := outcome_eq_ok_iff.1 h
    exact ⟨spaces, hspaces, rfl⟩
  · obtain ⟨results', loaded, hrun, hloaded, hagain⟩ := exists_outcomes_eq steps catalog
    obtain ⟨rfl, rfl⟩ := Prod.mk.inj (h.symm.trans hrun)
    exact ⟨loaded, hloaded, rfl, hagain⟩

/-- A bundle of two namespaces, the second of which has an ideographic space for a name. -/
def spoiled : String :=
  "\x7b\"text\": \x7b\"trim\": \x7b\x7d\x7d, \"\u3000\": \x7b\x7d\x7d"

/-- A bundle of the first of them alone. -/
def unspoiled : String := "\x7b\"text\": \x7b\"trim\": \x7b\x7d\x7d\x7d"

theorem namespaces_unspoiled :
    (json unspoiled).namespaces ⟨[], [], .nil⟩ = .ok [Namespace.define { name := "text" } { name := "trim" }] := by
  cbv

/-- The first namespace, in which nothing is wrong, is not registered. Behind this failure, it is registered when
it comes alone. -/
theorem outcome_all_or_nothing_spoiled :
    let files : Files := ⟨[], [], .nil⟩
    (json spoiled).outcome files .empty = (.error (.emptyName inlinePath), .empty) ∧
      ∃ last, outcomes [(files, json spoiled), (files, json unspoiled)] .empty =
          ([.error (.emptyName inlinePath), .ok ()], last) ∧
        last.lookup "text" "trim" = some { home := "text", name := "trim" } := by
  intro files
  obtain ⟨-, -, hblanks, hruns⟩ := outcome_all_or_nothing
  obtain ⟨bundle, hdecode, entry, hmem, hblank⟩ : ∃ bundle,
      (Json.document? spoiled).bind Bundle.decode? = some bundle ∧
        ∃ entry ∈ bundle.entries, isBlankName entry.1 = true := by
    refine ⟨⟨[("text", ⟨[("trim", {})], by decide⟩), ("\u3000", .empty)], by decide⟩, by cbv, ?_⟩
    exact ⟨("\u3000", .empty), by simp, by decide⟩
  have hfails : (json spoiled).outcome files .empty = (.error (.emptyName inlinePath), .empty) :=
    hblanks _ _ _ _ _ bundle (.json spoiled) hdecode entry hmem hblank
  obtain ⟨last, hrun⟩ : ∃ last, outcomes [(files, json spoiled), (files, json unspoiled)] .empty =
      ([.error (.emptyName inlinePath), .ok ()], last) := by
    rw [outcomes, hfails]
    dsimp only
    rw [outcomes, outcome_eq_ok_iff.2 ⟨_, namespaces_unspoiled, rfl⟩]
    exact ⟨_, rfl⟩
  refine ⟨hfails, last, hrun, ?_⟩
  obtain ⟨loaded, hloaded, rfl, -⟩ := hruns _ _ _ _ hrun
  obtain ⟨spaces, more, hspaces, hmore, rfl⟩ := List.forall₂_cons_left_iff.1 hloaded
  obtain rfl := List.forall₂_nil_left_iff.1 hmore
  obtain rfl := Except.ok.inj (namespaces_unspoiled.symm.trans hspaces)
  rfl

end Load

end Interpolation
