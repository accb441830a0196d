import Interpolation.Proofs.Loading

/-!
# Deleting a file

A file is deleted by listing it no more (`Interpolation.Files.delete`). The directory that it was in is listed
instead, because it stays when it gets empty.

Then nothing is at the place of the file, and everywhere else is what was there before
(`Interpolation.Files.at?_delete`). A path goes by directories only, so every path to another place leads there
as before (`Interpolation.Files.resolve_delete_eq_ok_iff`). A file that cannot be loaded is missed by nobody: what
can be loaded by a path is the same without it (`Interpolation.Files.Spoiled.namespaces_delete`), and so is what
can be loaded from a directory (`Interpolation.Files.Spoiled.loadable_delete`).
-/

namespace Interpolation.Files

variable {files : Files} {place : List String}

/-- **The files without the one at a place.** -/
def delete (files : Files) (place : List String) : Files where
  here := files.here
  entries := (place.dropLast, .directory) ::
    files.entries.filter fun listed => listed.1 ≠ place ∧ listed.1 ≠ place.dropLast
  distinct := by
    rw [List.map_cons, List.nodup_cons]
    refine ⟨?_, files.distinct.sublist (List.filter_sublist.map _)⟩
    simp

/-- What is above a place is the place itself or above its directory. -/
theorem prefix_dropLast_of_ne {other : List String} (h : other <+: place) (hne : other ≠ place) :
    other <+: place.dropLast := by
  rcases place.eq_nil_or_concat' with rfl | ⟨parent, name, rfl⟩
  · exact absurd (List.prefix_nil.1 h) hne
  · rw [List.dropLast_concat]
    exact (List.prefix_concat_iff.1 h).resolve_left hne

/-- What is at a place is known from whether something is there and from the files that can be there. -/
theorem eq_of_forall_isFile {first second : Option Entry} (hnone : first = none ↔ second = none)
    (hfile : ∀ entry : Entry, entry.isFile = true → (first = some entry ↔ second = some entry)) :
    first = second := by
  rcases first with _ | entry
  · exact (hnone.1 rfl).symm
  · by_cases h : entry.isFile = true
    · exact ((hfile entry h).1 rfl).symm
    · rcases second with _ | other
      · exact hnone.2 rfl
      · by_cases h' : other.isFile = true
        · exact (hfile other h').2 rfl
        · cases entry <;> cases other <;> simp_all [Entry.isFile]

section

variable (hproper : files.IsProper) (hplace : files.HasFile place)

include hproper hplace

/-- The directory of a file is no file. -/
theorem not_hasFile_dropLast : ¬files.HasFile place.dropLast := by
  intro hparent
  have hpos := List.length_pos_iff.2 (hplace.ne_nil hproper)
  obtain ⟨entry, hentry, -⟩ := hplace
  have hlength := congrArg List.length (hparent.eq_of_listed_below hproper hentry (List.dropLast_prefix place))
  rw [List.length_dropLast] at hlength
  dsimp only at hlength
  omega

theorem mem_entries_delete_iff {other : List String} {entry : Entry} (hfile : entry.isFile = true) :
    (other, entry) ∈ (files.delete place).entries ↔ other ≠ place ∧ (other, entry) ∈ files.entries := by
  have hdirectory : (other, entry) ≠ (place.dropLast, .directory) := by
    rintro heq
    obtain ⟨-, rfl⟩ := Prod.mk.inj heq
    cases hfile
  rw [delete, List.mem_cons, or_iff_right hdirectory, List.mem_filter]
  constructor
  · rintro ⟨hmem, hne⟩
    exact ⟨(of_decide_eq_true hne).1, hmem⟩
  · rintro ⟨hne, hmem⟩
    refine ⟨hmem, decide_eq_true ⟨hne, ?_⟩⟩
    rintro rfl
    exact not_hasFile_dropLast hproper hplace ⟨entry, hmem, hfile⟩

theorem at?_delete_self : (files.delete place).at? place = none := by
  have hne := hplace.ne_nil hproper
  refine at?_eq_none_iff.2 ⟨hne, fun listed hlisted habove => ?_⟩
  rcases List.mem_cons.1 hlisted with rfl | hlisted
  · have hpos := List.length_pos_iff.2 hne
    have hlength := habove.length_le
    rw [List.length_dropLast] at hlength
    omega
  · obtain ⟨hmem, hother⟩ := List.mem_filter.1 hlisted
    exact (of_decide_eq_true hother).1 (hplace.eq_of_listed_below hproper hmem habove)

omit hproper in
/-- What was above the place of the file is at or above its directory, which is listed now. -/
theorem at?_delete_eq_none_iff {other : List String} (hother : other ≠ place) :
    (files.delete place).at? other = none ↔ files.at? other = none := by
  obtain ⟨entry, hentry, -⟩ := hplace
  rw [at?_eq_none_iff, at?_eq_none_iff]
  refine and_congr_right fun _ => ⟨fun hnone listed hlisted habove => ?_, fun hnone listed hlisted habove => ?_⟩
  · by_cases hparent : other <+: place.dropLast
    · exact hnone _ List.mem_cons_self hparent
    · refine hnone listed (List.mem_cons_of_mem _ (List.mem_filter.2 ⟨hlisted, decide_eq_true ⟨?_, ?_⟩⟩)) habove
      · intro heq
        exact hparent (prefix_dropLast_of_ne (heq ▸ habove) hother)
      · intro heq
        exact hparent (heq ▸ habove)
  · rcases List.mem_cons.1 hlisted with rfl | hlisted
    · exact hnone _ hentry (habove.trans (List.dropLast_prefix place))
    · exact hnone listed (List.mem_filter.1 hlisted).1 habove

/-- **A file that is deleted is missing at its place and nowhere else.** -/
theorem at?_delete (other : List String) :
    (files.delete place).at? other = if other = place then none else files.at? other := by
  split
  · rename_i heq
    rw [heq, at?_delete_self hproper hplace]
  · rename_i hother
    refine eq_of_forall_isFile (at?_delete_eq_none_iff hplace hother) fun entry hfile => ?_
    rw [at?_eq_some_iff hfile, at?_eq_some_iff hfile, mem_entries_delete_iff hproper hplace hfile]
    exact and_iff_right hother

theorem isProper_delete : (files.delete place).IsProper := by
  have hkept {listed : List String × Entry} (hlisted : listed ∈ (files.delete place).entries)
      (hfile : listed.2.isFile = true) : listed.1 ≠ place ∧ listed ∈ files.entries :=
    (mem_entries_delete_iff hproper hplace hfile).1 hlisted
  have hentry := hplace
  obtain ⟨entry, hmem, -⟩ := hentry
  constructor
  · intro listed hlisted hfile
    exact hproper.root listed (hkept hlisted hfile).2 hfile
  · intro listed hlisted hfile other hother habove
    obtain ⟨hne, hlisted⟩ := hkept hlisted hfile
    rcases List.mem_cons.1 hother with rfl | hother
    · -- What is above the directory of the file is above the file.
      have heq := hproper.below listed hlisted hfile _ hmem (habove.trans (List.dropLast_prefix place))
      exact absurd heq.symm hne
    · exact hproper.below listed hlisted hfile other (List.mem_filter.1 hother).1 habove
  · intro listed hlisted name hname
    rcases List.mem_cons.1 hlisted with rfl | hlisted
    · exact hproper.names _ hmem name ((List.dropLast_prefix place).subset hname)
    · exact hproper.names listed (List.mem_filter.1 hlisted).1 name hname

/-- The steps that can be taken are the same: none goes on from a file. -/
theorem step_delete_eq_ok_iff {base target : List String} {component : Component} :
    (files.delete place).step base component = .ok target ↔ files.step base component = .ok target := by
  have hdirectory : (files.delete place).at? base = some .directory ↔ files.at? base = some .directory := by
    rw [at?_delete hproper hplace]
    split
    · rename_i heq
      obtain ⟨entry, hmem, hfile⟩ := hplace
      rw [heq, (at?_eq_some_iff hfile).2 hmem]
      constructor
      · intro h
        cases h
      · intro h
        obtain rfl := Option.some.inj h
        cases hfile
    · rfl
  rw [step_eq_ok_iff, step_eq_ok_iff, hdirectory]

theorem foldlM_step_delete_eq_ok_iff {base target : List String} {components : List Component} :
    components.foldlM (files.delete place).step base = .ok target ↔
      components.foldlM files.step base = .ok target := by
  induction components generalizing base with
  | nil => rfl
  | cons component rest ih =>
    rw [List.foldlM_cons, List.foldlM_cons, bind_eq_ok_iff, bind_eq_ok_iff]
    exact exists_congr fun next => and_congr (step_delete_eq_ok_iff hproper hplace) ih

/-- **A path to another place leads there as before**, and one to the place of the file leads nowhere. -/
theorem resolve_delete_eq_ok_iff {path : Path} {target : List String} {entry : Entry} :
    (files.delete place).resolve path = .ok (target, entry) ↔
      target ≠ place ∧ files.resolve path = .ok (target, entry) := by
  by_cases hgiven : IsGiven path
  · rw [resolve_eq_ok_iff hgiven, resolve_eq_ok_iff hgiven, foldlM_step_delete_eq_ok_iff hproper hplace,
      at?_delete hproper hplace]
    by_cases heq : target = place
    · simp [heq]
    · simp [heq, delete]
  · refine iff_of_false (fun h => hgiven (isGiven_of_resolve h)) fun h => hgiven (isGiven_of_resolve h.2)

theorem continues_delete_iff {directory path : Path} {other : List String} :
    (files.delete place).Continues directory other path ↔
      other ≠ place ∧ files.Continues directory other path := by
  constructor
  · rintro ⟨hdirectory, hlisted, hfile⟩
    obtain ⟨hne, hmem⟩ := (mem_entries_delete_iff hproper hplace hfile).1 hlisted
    exact ⟨hne, .of_listed ((resolve_delete_eq_ok_iff hproper hplace).1 hdirectory).2 hmem hfile⟩
  · rintro ⟨hne, ⟨hdirectory, hlisted, hfile⟩⟩
    refine .of_listed ((resolve_delete_eq_ok_iff hproper hplace).2 ⟨?_, hdirectory⟩)
      ((mem_entries_delete_iff hproper hplace hfile).2 ⟨hne, hlisted⟩) hfile
    rintro rfl
    exact hne (hplace.eq_of_listed_below hproper hlisted (List.prefix_append _ _))

end

/-! ### Files that cannot be loaded -/

namespace Spoiled

variable (hspoiled : files.Spoiled place) (hproper : files.IsProper)

include hspoiled hproper

/-- **What a path loads is the same without a file that cannot be loaded.** -/
theorem namespaces_delete {path : Path} {spaces : List Namespace} :
    (files.delete place).namespaces path = .ok spaces ↔ files.namespaces path = .ok spaces := by
  have hresolve {target : List String} {entry : Entry} :=
    @resolve_delete_eq_ok_iff files place hproper hspoiled.hasFile path target entry
  constructor
  · intro h
    obtain ⟨text, hread, hdeclared⟩ := namespaces_eq_ok_iff.1 h
    obtain ⟨target, bytes, htarget, hbytes⟩ := read_eq_ok_iff.1 hread
    exact namespaces_eq_ok_iff.2
      ⟨text, read_eq_ok_iff.2 ⟨target, bytes, (hresolve.1 htarget).2, hbytes⟩, hdeclared⟩
  · intro h
    obtain ⟨text, hread, hdeclared⟩ := namespaces_eq_ok_iff.1 h
    obtain ⟨target, bytes, htarget, hbytes⟩ := read_eq_ok_iff.1 hread
    have hne : target ≠ place := by
      rintro rfl
      exact hspoiled.not_loads path _ htarget ⟨spaces, h⟩
    exact namespaces_eq_ok_iff.2
      ⟨text, read_eq_ok_iff.2 ⟨target, bytes, hresolve.2 ⟨hne, htarget⟩, hbytes⟩, hdeclared⟩

theorem declare_delete_iff {paths : List Path} {loaded : List (List Namespace)} :
    (files.delete place).Declare paths loaded ↔ files.Declare paths loaded := by
  simp only [Declare, hspoiled.namespaces_delete hproper]

theorem loads_delete_iff {path : Path} : (files.delete place).Loads path ↔ files.Loads path :=
  exists_congr fun _ => hspoiled.namespaces_delete hproper

/-- **What is loaded from a directory is the same without a file that cannot be loaded.** -/
theorem loadable_delete (directory : Path) :
    (files.delete place).loadable directory = files.loadable directory := by
  have hproper' := isProper_delete hproper hspoiled.hasFile
  obtain ⟨found, loaded, hsorted, hmem, hloaded, heq⟩ := exists_loadable_eq hproper directory
  obtain ⟨found', loaded', hsorted', hmem', hloaded', heq'⟩ := exists_loadable_eq hproper' directory
  obtain rfl : found' = found := Path.eq_of_pairwise_lt hsorted' hsorted fun path => by
    rw [hmem', hmem, mem_manifests_iff hproper', mem_manifests_iff hproper, hspoiled.loads_delete_iff hproper]
    refine and_congr_left fun hloads => and_congr_left fun _ => exists_congr fun other => ?_
    rw [continues_delete_iff hproper hspoiled.hasFile, and_iff_right_iff_imp]
    rintro hcontinues rfl
    obtain ⟨spaces, hspaces⟩ := hloads
    obtain ⟨text, hread, -⟩ := namespaces_eq_ok_iff.1 hspaces
    obtain ⟨target, bytes, htarget, -⟩ := read_eq_ok_iff.1 hread
    obtain rfl := hcontinues.eq_of_resolve hproper htarget
    exact hspoiled.not_loads path _ htarget ⟨spaces, hspaces⟩
  rw [heq', heq, ((hspoiled.declare_delete_iff hproper).1 hloaded').unique hloaded]

end Spoiled

end Interpolation.Files
