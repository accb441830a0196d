import Interpolation.Manifest.Load
import Interpolation.Proofs.Offsets
import Interpolation.Proofs.PathOrder

/-!
# The files below a directory

What is listed as files is a file system if nothing is listed below a file and every place is made of names
(`Interpolation.Files.IsProper`). Then a walk comes to each file below a directory once, by the path of the
directory continued by the names from there on (`Interpolation.Files.mem_walk_iff`), and the files are told
apart by the components of these paths (`Interpolation.Files.pairwise_walk`). So the manifests of a directory are
in strict order, and no more needs to be said about the list of them (`Interpolation.Files.mem_manifests_iff`,
`Interpolation.Files.pairwise_manifests`).

Such a path leads to the file that it was made for, if it can be followed at all: it may be too long
(`Interpolation.Files.Continues.eq_of_resolve`).
-/

namespace Interpolation.Files

variable {files : Files} {place : List String} {entry : Entry}

/-- **The files are those of a file system**: the root is no file, nothing is below a file, and every place is
made of names. -/
structure IsProper (files : Files) : Prop where
  root : ∀ listed ∈ files.entries, listed.2.isFile = true → listed.1 ≠ []
  below : ∀ listed ∈ files.entries, listed.2.isFile = true →
    ∀ other ∈ files.entries, listed.1 <+: other.1 → other.1 = listed.1
  names : ∀ listed ∈ files.entries, ∀ name ∈ listed.1, Path.IsName name

/-- A file is listed at a place. -/
def HasFile (files : Files) (place : List String) : Prop :=
  ∃ entry, (place, entry) ∈ files.entries ∧ entry.isFile = true

theorem HasFile.ne_nil (h : files.HasFile place) (hproper : files.IsProper) : place ≠ [] := by
  obtain ⟨entry, hlisted, hfile⟩ := h
  exact hproper.root _ hlisted hfile

theorem HasFile.eq_of_listed_below (h : files.HasFile place) (hproper : files.IsProper)
    {listed : List String × Entry} (hlisted : listed ∈ files.entries) (habove : place <+: listed.1) :
    listed.1 = place := by
  obtain ⟨entry, hentry, hfile⟩ := h
  exact hproper.below _ hentry hfile _ hlisted habove

/-! ### What is at a place -/

theorem lookup_entries_iff : files.entries.lookup place = some entry ↔ (place, entry) ∈ files.entries := by
  rw [List.lookup_eq_some_iff]
  constructor
  · rintro ⟨before, after, heq, -⟩
    simp [heq]
  · intro hmem
    obtain ⟨before, after, heq⟩ := List.append_of_mem hmem
    refine ⟨before, after, heq, fun listed hlisted => ?_⟩
    -- The places in front are other ones.
    have hdistinct := files.distinct
    rw [heq, List.map_append, List.nodup_append] at hdistinct
    simpa using (hdistinct.2.2 listed.1 (List.mem_map_of_mem hlisted) place (by simp)).symm

theorem at?_eq_some_iff (h : entry.isFile = true) :
    files.at? place = some entry ↔ (place, entry) ∈ files.entries := by
  rw [← lookup_entries_iff, at?]
  cases hlookup : files.entries.lookup place with
  | some other => rfl
  | none =>
    refine ⟨fun hat => ?_, fun hat => by cases hat⟩
    dsimp only at hat
    split at hat
    · obtain rfl := Option.some.inj hat
      cases h
    · cases hat

theorem at?_eq_none_iff :
    files.at? place = none ↔ place ≠ [] ∧ ∀ listed ∈ files.entries, ¬place <+: listed.1 := by
  rw [at?]
  cases hlookup : files.entries.lookup place with
  | some other =>
    have hmem := lookup_entries_iff.1 hlookup
    refine ⟨fun hat => (Option.some_ne_none other hat).elim, fun hat => ?_⟩
    exact absurd (List.prefix_refl place) (hat.2 _ hmem)
  | none => simp [List.isPrefixOf_iff_prefix]

theorem exists_listed_of_at? (h : files.at? place = some entry) (hne : place ≠ []) :
    ∃ listed ∈ files.entries, place <+: listed.1 := by
  by_contra hnone
  have hat := at?_eq_none_iff.2 ⟨hne, fun listed hlisted habove => hnone ⟨listed, hlisted, habove⟩⟩
  cases h.symm.trans hat

theorem hasFile_of_at? (h : files.at? place = some entry) (hfile : entry.isFile = true) : files.HasFile place :=
  ⟨entry, (at?_eq_some_iff hfile).1 h, hfile⟩

/-! ### Where a path leads -/

/-- **What a step can do**: go to the root from anywhere, and from a directory stay, go up or go down. -/
theorem step_eq_ok_iff {base target : List String} {component : Component} :
    files.step base component = .ok target ↔
      component = .root ∧ target = [] ∨
        files.at? base = some .directory ∧
          (component = .here ∧ target = base ∨ component = .up ∧ target = base.dropLast ∨
            ∃ name, component = .name name ∧ name.utf8ByteSize ≤ longestName ∧ target = base ++ [name]) := by
  cases component with
  | root => simp [step, eq_comm]
  | here => rcases hat : files.at? base with _ | (_ | _ | _) <;> simp [step, hat, eq_comm]
  | up => rcases hat : files.at? base with _ | (_ | _ | _) <;> simp [step, hat, eq_comm]
  | name name =>
    rcases hat : files.at? base with _ | (_ | _ | _)
    · simp [step, hat]
    · simp [step, hat]
    · simp [step, hat]
    · by_cases hlong : longestName < name.utf8ByteSize
      · simp [step, hat, hlong, Nat.not_le_of_lt hlong]
      · simp [step, hat, hlong, Nat.le_of_not_lt hlong, eq_comm]

/-- A path that can be followed, whatever it leads to. -/
structure IsGiven (path : Path) : Prop where
  nul_notMem : '\x00' ∉ path.text.toList
  ne_empty : path.text ≠ ""
  size_le : path.text.utf8ByteSize ≤ longestPath

theorem isGiven_of_resolve {path : Path} {target : List String × Entry} (h : files.resolve path = .ok target) :
    IsGiven path := by
  rw [resolve] at h
  by_cases hnul : path.text.toList.contains '\x00' = true
  · rw [if_pos hnul] at h
    cases h
  by_cases hempty : path.text.isEmpty = true
  · rw [if_neg hnul, if_pos hempty] at h
    cases h
  by_cases hlong : longestPath < path.text.utf8ByteSize
  · rw [if_neg hnul, if_neg hempty, if_pos hlong] at h
    cases h
  exact ⟨by simpa using hnul, by simpa using hempty, by simpa using hlong⟩

/-- **A path leads to a place** if every step along it can be taken and something is there at the end, which has to
be a directory if the path is spelled like one. -/
theorem resolve_eq_ok_iff {path : Path} (h : IsGiven path) :
    files.resolve path = .ok (place, entry) ↔
      path.components.foldlM files.step files.here = .ok place ∧ files.at? place = some entry ∧
        (entry.isFile = true → path.namesDirectory = false) := by
  rw [resolve, if_neg (by simpa using h.nul_notMem), if_neg (by simpa using h.ne_empty),
    if_neg (by simpa using h.size_le), bind_eq_ok_iff]
  constructor
  · rintro ⟨target, hwalk, hfound⟩
    rcases hat : files.at? target with _ | (_ | _ | _) <;> grind [Entry.isFile]
  · rintro ⟨hwalk, hat, hspelled⟩
    refine ⟨place, hwalk, ?_⟩
    rcases entry with _ | _ | _ <;> grind [Entry.isFile]

/-- **A path that leads from a directory to a file**: the path of the directory, continued by the names from there
on. -/
inductive Continues (files : Files) (directory : Path) : List String → Path → Prop
  | of_listed {base below : List String} {kind entry : Entry}
      (hdirectory : files.resolve directory = .ok (base, kind))
      (hlisted : (base ++ below, entry) ∈ files.entries) (hfile : entry.isFile = true) :
      Continues files directory (base ++ below) (below.foldl Path.join directory)

namespace Continues

variable {directory path : Path}

/-- What is behind the components of the directory are the names behind its place. -/
theorem exists_components (hproper : files.IsProper) (h : files.Continues directory place path) :
    ∃ base below kind, files.resolve directory = .ok (base, kind) ∧ place = base ++ below ∧
      path.components = directory.components ++ below.map .name := by
  obtain @⟨base, below, kind, entry, hdirectory, hlisted, hfile⟩ := h
  refine ⟨base, below, kind, hdirectory, rfl, Path.components_foldl_join ?_ fun name hname => ?_⟩
  · exact (isGiven_of_resolve hdirectory).ne_empty
  · exact hproper.names _ hlisted name (List.mem_append_right _ hname)

/-- Paths with the same components lead to the same file. -/
theorem eq_of_components_eq (hproper : files.IsProper) {place' : List String} {path' : Path}
    (h : files.Continues directory place path) (h' : files.Continues directory place' path')
    (heq : path.components = path'.components) : place = place' := by
  obtain ⟨base, below, kind, hdirectory, rfl, hcomponents⟩ := h.exists_components hproper
  obtain ⟨base', below', kind', hdirectory', rfl, hcomponents'⟩ := h'.exists_components hproper
  obtain ⟨rfl, -⟩ := Prod.mk.inj (Except.ok.inj (hdirectory.symm.trans hdirectory'))
  rw [hcomponents, hcomponents', List.append_cancel_left_eq] at heq
  rw [List.map_injective_iff.2 (fun _ _ => Component.name.inj) heq]

end Continues

/-- Steps along names lead below. -/
theorem eq_append_of_foldlM_step {base target below : List String}
    (h : (below.map Component.name).foldlM files.step base = .ok target) : target = base ++ below := by
  induction below generalizing base with
  | nil => simpa using (Except.ok.inj h).symm
  | cons name rest ih =>
    obtain ⟨next, hnext, hrest⟩ := bind_eq_ok_iff.1 h
    obtain ⟨-, -, rfl⟩ :
        files.at? base = some .directory ∧ name.utf8ByteSize ≤ longestName ∧ next = base ++ [name] := by
      simpa [step_eq_ok_iff] using hnext
    rw [ih hrest, List.append_assoc]
    rfl

/-- **A path that leads from a directory to a file leads nowhere else.** -/
theorem Continues.eq_of_resolve (hproper : files.IsProper) {directory path : Path} {target : List String}
    (h : files.Continues directory place path) (hresolve : files.resolve path = .ok (target, entry)) :
    target = place := by
  obtain ⟨base, below, kind, hdirectory, rfl, hcomponents⟩ := h.exists_components hproper
  obtain ⟨hwalk, -⟩ := (resolve_eq_ok_iff (isGiven_of_resolve hresolve)).1 hresolve
  obtain ⟨hbase, -⟩ := (resolve_eq_ok_iff (isGiven_of_resolve hdirectory)).1 hdirectory
  rw [hcomponents, List.foldlM_append, hbase] at hwalk
  exact eq_append_of_foldlM_step hwalk

/-! ### Walking -/

/-- The path by which a walk from a place comes to what is listed, if that is a file at or below the place. -/
def walked? (directory : Path) (base : List String) (listed : List String × Entry) : Option Path :=
  if listed.2.isFile && base.isPrefixOf listed.1 then
    some ((listed.1.drop base.length).foldl Path.join directory)
  else
    none

theorem walked?_eq_some_iff {directory path : Path} {base : List String} {listed : List String × Entry} :
    walked? directory base listed = some path ↔
      listed.2.isFile = true ∧ ∃ below, listed.1 = base ++ below ∧ path = below.foldl Path.join directory := by
  rw [walked?]
  constructor
  · intro h
    split at h
    · rename_i hboth
      obtain ⟨hfile, habove⟩ := Bool.and_eq_true_iff.1 hboth
      obtain ⟨below, heq⟩ := List.isPrefixOf_iff_prefix.1 habove
      exact ⟨hfile, below, heq.symm, by simpa [← heq] using (Option.some.inj h).symm⟩
    · cases h
  · rintro ⟨hfile, below, heq, rfl⟩
    simp [hfile, heq]

/-- A walk that starts from a file ends there, because nothing else is listed at or below its place. -/
theorem filterMap_walked?_of_file (hproper : files.IsProper) {directory : Path} (hfile : entry.isFile = true)
    (hlisted : (place, entry) ∈ files.entries) :
    files.entries.filterMap (walked? directory place) = [directory] := by
  have hplace : files.HasFile place := ⟨entry, hlisted, hfile⟩
  have hnone (listed : List String × Entry) (hmem : listed ∈ files.entries) (hne : listed.1 ≠ place) :
      walked? directory place listed = none := by
    rw [Option.eq_none_iff_forall_ne_some]
    intro path hpath
    obtain ⟨-, below, heq, -⟩ := walked?_eq_some_iff.1 hpath
    exact hne (hplace.eq_of_listed_below hproper hmem ⟨below, heq.symm⟩)
  obtain ⟨before, after, heq⟩ := List.append_of_mem hlisted
  have hself : walked? directory place (place, entry) = some directory :=
    walked?_eq_some_iff.2 ⟨hfile, [], by simp, rfl⟩
  have hdistinct := files.distinct
  rw [heq, List.map_append, List.nodup_append, List.map_cons, List.nodup_cons] at hdistinct
  obtain ⟨-, ⟨hafter, -⟩, hbefore⟩ := hdistinct
  rw [heq, List.filterMap_append, List.filterMap_cons_some hself, List.filterMap_eq_nil_iff.2,
    List.filterMap_eq_nil_iff.2, List.nil_append]
  · intro listed hmem
    exact hnone listed (by simp [heq, hmem]) fun hsame => hafter (List.mem_map.2 ⟨listed, hmem, hsame⟩)
  · intro listed hmem
    exact hnone listed (by simp [heq, hmem]) (hbefore _ (List.mem_map_of_mem hmem) _ List.mem_cons_self)

/-- A walk from wherever a path leads goes through what is listed. -/
theorem walk_eq (hproper : files.IsProper) {directory : Path} (h : files.resolve directory = .ok (place, entry)) :
    files.walk directory = files.entries.filterMap (walked? directory place) := by
  rw [walk, h]
  by_cases hfile : entry.isFile = true
  · have hat := ((resolve_eq_ok_iff (isGiven_of_resolve h)).1 h).2.1
    rw [filterMap_walked?_of_file hproper hfile ((at?_eq_some_iff hfile).1 hat)]
    cases entry with
    | directory => cases hfile
    | _ => rfl
  · cases entry with
    | directory => rfl
    | _ => exact absurd rfl hfile

theorem walk_of_error {directory : Path} {error : FileError} (h : files.resolve directory = .error error) :
    files.walk directory = [] := by
  rw [walk, h]

theorem mem_filterMap_walked?_iff {directory path : Path} (h : files.resolve directory = .ok (place, entry)) :
    path ∈ files.entries.filterMap (walked? directory place) ↔ ∃ target, files.Continues directory target path := by
  rw [List.mem_filterMap]
  constructor
  · rintro ⟨⟨names, entry⟩, hlisted, hwalked⟩
    obtain ⟨hfile, below, rfl, rfl⟩ := walked?_eq_some_iff.1 hwalked
    exact ⟨_, .of_listed h hlisted hfile⟩
  · rintro ⟨target, @⟨base, below, kind, entry, hdirectory, hlisted, hfile⟩⟩
    obtain ⟨rfl, -⟩ := Prod.mk.inj (Except.ok.inj (h.symm.trans hdirectory))
    exact ⟨_, hlisted, walked?_eq_some_iff.2 ⟨hfile, below, rfl, rfl⟩⟩

/-- **A walk comes to the files at or below the place of a directory.** -/
theorem mem_walk_iff (hproper : files.IsProper) {directory path : Path} :
    path ∈ files.walk directory ↔ ∃ place, files.Continues directory place path := by
  cases hdirectory : files.resolve directory with
  | error error =>
    rw [walk_of_error hdirectory]
    constructor
    · intro h
      cases h
    · rintro ⟨place, @⟨base, below, kind, entry, hbase, hlisted, hfile⟩⟩
      cases hdirectory.symm.trans hbase
  | ok target => rw [walk_eq hproper hdirectory, mem_filterMap_walked?_iff hdirectory]

/-- From a directory, a walk always does so. -/
theorem mem_walk_iff_of_isDirectory {directory path : Path} (h : files.isDirectory directory = true) :
    path ∈ files.walk directory ↔ ∃ place, files.Continues directory place path := by
  obtain ⟨place, hdirectory⟩ : ∃ place, files.resolve directory = .ok (place, .directory) := by
    rw [isDirectory] at h
    split at h
    · exact ⟨_, ‹_›⟩
    · cases h
  rw [← mem_filterMap_walked?_iff hdirectory, walk, hdirectory]
  rfl

/-- A walk comes to each file once. -/
theorem pairwise_walk (hproper : files.IsProper) (directory : Path) :
    (files.walk directory).Pairwise (·.components ≠ ·.components) := by
  cases hdirectory : files.resolve directory with
  | error error =>
    rw [walk_of_error hdirectory]
    exact .nil
  | ok target =>
    rw [walk_eq hproper hdirectory, List.pairwise_filterMap]
    have hdistinct := List.pairwise_map.1 files.distinct
    refine hdistinct.imp_of_mem fun {listed other} hlisted hother hne path hpath path' hpath' heq => hne ?_
    obtain ⟨hfile, below, hplace, rfl⟩ := walked?_eq_some_iff.1 hpath
    obtain ⟨hfile', below', hplace', rfl⟩ := walked?_eq_some_iff.1 hpath'
    rw [hplace, hplace']
    exact Continues.eq_of_components_eq hproper (.of_listed hdirectory (hplace ▸ hlisted) hfile)
      (.of_listed hdirectory (hplace' ▸ hother) hfile') heq

/-! ### Manifests -/

theorem mem_manifests_iff (hproper : files.IsProper) {directory path : Path} :
    path ∈ files.manifests directory ↔
      (∃ place, files.Continues directory place path) ∧ isManifest path = true := by
  rw [manifests, (List.mergeSort_perm _ _).mem_iff, List.mem_filter, mem_walk_iff hproper]

theorem pairwise_manifests (hproper : files.IsProper) (directory : Path) :
    (files.manifests directory).Pairwise fun a b => a.compare b = .lt :=
  Path.pairwise_mergeSort ((pairwise_walk hproper directory).filter _)

end Interpolation.Files
