import Interpolation.Command
import Interpolation.Proofs.Loading

/-!
# The files to check

The candidates (`Interpolation.Command.IsCandidate`) are put in order, and of those that are equal, the first one
is kept. What is left is in strict order (`Interpolation.Command.pairwise_collect`) and, up to spelling, has the
candidates for its elements (`Interpolation.Command.exists_mem_collect_iff`). So it is given by them
(`Interpolation.Command.forall₂_collect`), and neither the order of the paths nor one that is given again makes a
difference to it.

How a path is spelled does make a difference, to what is read by it: with a slash at its end it can only be that
of a directory, and with many slashes between its components it can be too long. There is none beyond these two
(`Interpolation.Files.resolve_eq_of_compare_eq`).
-/

namespace Interpolation

/-! ### Equal paths -/

namespace Files

variable {first second : Path}

/-- **Equal paths lead to the same**, unless only one of them is spelled like that of a directory or is too
long. -/
theorem resolve_eq_of_compare_eq (files : Files) (heq : first.compare second = .eq)
    (hspelled : first.namesDirectory = second.namesDirectory) (hfirst : first.text.utf8ByteSize ≤ longestPath)
    (hsecond : second.text.utf8ByteSize ≤ longestPath) : files.resolve first = files.resolve second := by
  rw [Path.compare_eq_iff] at heq
  have hnul : first.text.toList.contains '\x00' = second.text.toList.contains '\x00' := by
    rw [Bool.eq_iff_iff, List.contains_iff_mem, List.contains_iff_mem,
      ← Path.exists_mem_components_iff (by decide) (by decide),
      ← Path.exists_mem_components_iff (by decide) (by decide), heq]
  have hempty : first.text.isEmpty = second.text.isEmpty := by
    rw [Bool.eq_iff_iff, String.isEmpty_iff, String.isEmpty_iff, ← Path.components_eq_nil_iff,
      ← Path.components_eq_nil_iff, heq]
  rw [resolve, resolve, hnul, hempty, if_neg (Nat.not_lt.2 hfirst), if_neg (Nat.not_lt.2 hsecond), heq, hspelled]

theorem read_eq_of_compare_eq (files : Files) (heq : first.compare second = .eq)
    (hspelled : first.namesDirectory = second.namesDirectory) (hfirst : first.text.utf8ByteSize ≤ longestPath)
    (hsecond : second.text.utf8ByteSize ≤ longestPath) : files.read first = files.read second := by
  rw [read, read, resolve_eq_of_compare_eq files heq hspelled hfirst hsecond]

/-- Nothing is read by a path that is spelled like that of a directory. -/
theorem namesDirectory_eq_false_of_read {files : Files} {path : Path} {text : String}
    (h : files.read path = .ok text) : path.namesDirectory = false := by
  obtain ⟨place, bytes, hresolve, -⟩ := read_eq_ok_iff.1 h
  exact ((resolve_eq_ok_iff (isGiven_of_resolve hresolve)).1 hresolve).2.2 rfl

/-- A path to a file is no directory's, however it is spelled. -/
theorem isDirectory_eq_false {files : Files} {path : Path} {place : List String} {entry : Entry}
    (hwalk : path.components.foldlM files.step files.here = .ok place) (hat : files.at? place = some entry)
    (hfile : entry.isFile = true) : files.isDirectory path = false := by
  rw [isDirectory]
  split
  · rename_i target hresolve
    obtain ⟨htarget, hdirectory, -⟩ := (resolve_eq_ok_iff (isGiven_of_resolve hresolve)).1 hresolve
    obtain rfl := Except.ok.inj (hwalk.symm.trans htarget)
    obtain rfl := Option.some.inj (hat.symm.trans hdirectory)
    cases hfile
  · rfl

end Files

namespace Command

/-! ### Candidates -/

section

variable {files : Files} {extensions : List String} {paths : List Path} {path : Path}

/-- The extension of a path is one of these, in front of which dots do not count. -/
def HasWanted (extensions : List String) (path : Path) : Prop :=
  ∃ own, path.extension? = some own ∧
    ∃ wanted ∈ extensions, wanted.toList.dropWhile (· == '.') = own.toList

theorem hasExtension_iff : hasExtension extensions path = true ↔ HasWanted extensions path := by
  cases hown : path.extension? <;> simp [hasExtension, HasWanted, hown]

/-- **A directory covers the files below it** that have one of the extensions, each by the path of the directory
continued to it. -/
def Covers (files : Files) (extensions : List String) (directory path : Path) : Prop :=
  files.isDirectory directory = true ∧ (∃ place, files.Continues directory place path) ∧
    HasWanted extensions path

/-- **The candidates of some paths** are those of them that are no directory's and what the others cover. -/
def IsCandidate (files : Files) (extensions : List String) (paths : List Path) (path : Path) : Prop :=
  path ∈ paths ∧ files.isDirectory path = false ∨ ∃ directory ∈ paths, Covers files extensions directory path

theorem candidates_of_isDirectory_eq_false (h : files.isDirectory path = false) :
    candidates files extensions path = [path] := by
  simp [candidates, h]

theorem mem_candidates_iff {given : Path} :
    path ∈ candidates files extensions given ↔
      path = given ∧ files.isDirectory given = false ∨ Covers files extensions given path := by
  cases hdirectory : files.isDirectory given with
  | true =>
    simp [candidates, hdirectory, Covers, hasExtension_iff, Files.mem_walk_iff_of_isDirectory hdirectory]
  | false => simp [candidates_of_isDirectory_eq_false hdirectory, hdirectory, Covers]

theorem mem_flatMap_candidates_iff :
    path ∈ paths.flatMap (candidates files extensions) ↔ IsCandidate files extensions paths path := by
  simp only [List.mem_flatMap, mem_candidates_iff, and_or_left, exists_or, IsCandidate]
  refine or_congr_left ⟨?_, fun h => ⟨path, h.1, rfl, h.2⟩⟩
  rintro ⟨given, hgiven, rfl, hdirectory⟩
  exact ⟨hgiven, hdirectory⟩

/-! ### Dropping what is repeated -/

/-- The first path is kept, and of the others it can only be the next one that is not. -/
theorem dropRepeated_cons (same : Path → Path → Bool) (path : Path) (rest : List Path) :
    dropRepeated same (path :: rest) = path ::
      match dropRepeated same rest with
      | [] => []
      | next :: more => if same path next then more else next :: more := by
  rw [dropRepeated]
  cases dropRepeated same rest with
  | nil => rfl
  | cons next more =>
    dsimp only
    split <;> rfl

theorem mem_of_mem_dropRepeated {same : Path → Path → Bool} (h : path ∈ dropRepeated same paths) : path ∈ paths := by
  induction paths with
  | nil => cases h
  | cons first rest ih =>
    rw [dropRepeated_cons] at h
    rcases List.mem_cons.1 h with rfl | hmore
    · exact List.mem_cons_self
    · refine List.mem_cons_of_mem _ (ih ?_)
      cases hrest : dropRepeated same rest with
      | nil => simp [hrest] at hmore
      | cons next more =>
        rw [hrest] at hmore
        dsimp only at hmore
        split at hmore
        · exact List.mem_cons_of_mem _ hmore
        · exact hmore

/-- Of paths in order, those that are left are in strict order. -/
theorem pairwise_dropRepeated (h : paths.Pairwise fun a b => (a.compare b).isLE = true) :
    (dropRepeated (fun a b => (a.compare b).isEq) paths).Pairwise fun a b => a.compare b = .lt := by
  induction paths with
  | nil => exact .nil
  | cons first rest ih =>
    obtain ⟨hfirst, hrest⟩ := List.pairwise_cons.1 h
    have hstrict := ih hrest
    rw [dropRepeated_cons]
    cases hnext : dropRepeated (fun a b => (a.compare b).isEq) rest with
    | nil => exact List.pairwise_singleton _ _
    | cons next more =>
      rw [hnext, List.pairwise_cons] at hstrict
      obtain ⟨hmore, hpairwise⟩ := hstrict
      have hkept : next ∈ dropRepeated (fun a b => (a.compare b).isEq) rest := hnext ▸ List.mem_cons_self
      have hle : (first.compare next).isLE = true := hfirst next (mem_of_mem_dropRepeated hkept)
      have hbefore : ∀ path ∈ more, first.compare path = .lt := fun path hpath =>
        Std.TransCmp.lt_of_isLE_of_lt hle (hmore path hpath)
      dsimp only
      split
      · exact List.pairwise_cons.2 ⟨hbefore, hpairwise⟩
      · rename_i hne
        have hlt : first.compare next = .lt :=
          ((Ordering.isLE_iff_eq_lt_or_eq_eq).1 hle).resolve_right fun heq => hne (by simp [heq])
        exact List.pairwise_cons.2
          ⟨List.forall_mem_cons.2 ⟨hlt, hbefore⟩, List.pairwise_cons.2 ⟨hmore, hpairwise⟩⟩

/-- For every path, an equal one is left. -/
theorem exists_mem_dropRepeated (h : path ∈ paths) :
    ∃ found ∈ dropRepeated (fun a b => (a.compare b).isEq) paths, found.compare path = .eq := by
  induction paths with
  | nil => cases h
  | cons first rest ih =>
    rw [dropRepeated_cons]
    rcases List.mem_cons.1 h with rfl | hrest
    · exact ⟨path, List.mem_cons_self, Path.compare_eq_iff.2 rfl⟩
    · obtain ⟨found, hfound, heq⟩ := ih hrest
      cases hnext : dropRepeated (fun a b => (a.compare b).isEq) rest with
      | nil => simp [hnext] at hfound
      | cons next more =>
        rw [hnext] at hfound
        dsimp only
        split
        · rename_i hsame
          rcases List.mem_cons.1 hfound with rfl | hmore
          · exact ⟨first, List.mem_cons_self, Std.TransCmp.eq_trans (by simpa using hsame) heq⟩
          · exact ⟨found, List.mem_cons_of_mem _ hmore, heq⟩
        · exact ⟨found, List.mem_cons_of_mem _ hfound, heq⟩

/-! ### What is collected -/

theorem isCandidate_of_mem_collect (h : path ∈ collect files paths extensions) :
    IsCandidate files extensions paths path :=
  mem_flatMap_candidates_iff.1 ((List.mergeSort_perm _ _).mem_iff.1 (mem_of_mem_dropRepeated h))

/-- **The files to check are in strict order.** -/
theorem pairwise_collect (files : Files) (paths : List Path) (extensions : List String) :
    (collect files paths extensions).Pairwise fun a b => a.compare b = .lt :=
  pairwise_dropRepeated (List.pairwise_mergeSort (fun _ _ _ => Std.TransCmp.isLE_trans) Path.isLE_total _)

/-- **The files to check are the candidates**, up to their spelling. -/
theorem exists_mem_collect_iff :
    (∃ found ∈ collect files paths extensions, found.compare path = .eq) ↔
      ∃ candidate, IsCandidate files extensions paths candidate ∧ candidate.compare path = .eq := by
  constructor
  · rintro ⟨found, hfound, heq⟩
    exact ⟨found, isCandidate_of_mem_collect hfound, heq⟩
  · rintro ⟨candidate, hcandidate, heq⟩
    obtain ⟨found, hfound, hequal⟩ := exists_mem_dropRepeated
      ((List.mergeSort_perm _ fun a b => (a.compare b).isLE).mem_iff.2 (mem_flatMap_candidates_iff.2 hcandidate))
    exact ⟨found, hfound, Std.TransCmp.eq_trans hequal heq⟩

/-- Candidates that are in order stay in it. -/
theorem collect_of_pairwise
    (h : (paths.flatMap (candidates files extensions)).Pairwise fun a b => (a.compare b).isLE = true) :
    collect files paths extensions =
      dropRepeated (fun a b => (a.compare b).isEq) (paths.flatMap (candidates files extensions)) := by
  rw [collect, List.mergeSort_of_pairwise h]

/-- **Of equal paths, the first one counts.** -/
theorem collect_pair {first second : Path} (hfirst : files.isDirectory first = false)
    (hsecond : files.isDirectory second = false) (heq : first.compare second = .eq) :
    collect files [first, second] extensions = [first] := by
  have hcandidates : [first, second].flatMap (candidates files extensions) = [first, second] := by
    simp [candidates_of_isDirectory_eq_false, hfirst, hsecond]
  have hsorted : [first, second].Pairwise fun a b => (a.compare b).isLE = true := by simp [heq]
  rw [collect_of_pairwise (by rwa [hcandidates]), hcandidates]
  simp [dropRepeated, heq]

/-- **Some paths ask for no more than others**: each of them is one of the others, or it is a file's and equal to
a path that a directory among the others covers. -/
def AskedBy (files : Files) (extensions : List String) (paths others : List Path) : Prop :=
  ∀ path ∈ paths, path ∈ others ∨ files.isDirectory path = false ∧
    ∃ directory ∈ others, ∃ covered, Covers files extensions directory covered ∧ covered.compare path = .eq

theorem AskedBy.exists_isCandidate {others : List Path} (h : AskedBy files extensions paths others)
    (hpath : IsCandidate files extensions paths path) :
    ∃ candidate, IsCandidate files extensions others candidate ∧ candidate.compare path = .eq := by
  rcases hpath with ⟨hgiven, hfile⟩ | ⟨directory, hgiven, hcovers⟩
  · rcases h path hgiven with hother | ⟨-, directory, hother, covered, hcovers, heq⟩
    · exact ⟨path, .inl ⟨hother, hfile⟩, Path.compare_eq_iff.2 rfl⟩
    · exact ⟨covered, .inr ⟨directory, hother, hcovers⟩, heq⟩
  · rcases h directory hgiven with hother | ⟨hfile, -⟩
    · exact ⟨path, .inr ⟨directory, hother, hcovers⟩, Path.compare_eq_iff.2 rfl⟩
    · cases hfile.symm.trans hcovers.1

/-- **Paths that ask for the same have the same files checked**, up to their spelling. -/
theorem forall₂_collect {others : List Path} (h : AskedBy files extensions paths others)
    (h' : AskedBy files extensions others paths) :
    List.Forall₂ (fun a b => a.compare b = .eq) (collect files paths extensions)
      (collect files others extensions) := by
  have hcandidates {paths others : List Path} (h : AskedBy files extensions paths others) {path : Path}
      (hpath : ∃ candidate, IsCandidate files extensions paths candidate ∧ candidate.compare path = .eq) :
      ∃ candidate, IsCandidate files extensions others candidate ∧ candidate.compare path = .eq := by
    obtain ⟨candidate, hcandidate, heq⟩ := hpath
    obtain ⟨other, hother, hequal⟩ := h.exists_isCandidate hcandidate
    exact ⟨other, hother, Std.TransCmp.eq_trans hequal heq⟩
  refine Path.forall₂_of_pairwise_lt (pairwise_collect _ _ _) (pairwise_collect _ _ _) fun path => ?_
  rw [exists_mem_collect_iff, exists_mem_collect_iff]
  exact ⟨hcandidates h, hcandidates h'⟩

end

end Command

end Interpolation
