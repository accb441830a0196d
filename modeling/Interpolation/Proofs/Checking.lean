import Interpolation.Proofs.Collecting
import Mathlib

/-!
# Checking files

A check looks into the files to check one after the other (`Interpolation.Command.visits`) and reports on what it
has found (`Interpolation.Command.check_eq_report`). It ends well if there is a file to check and every one can be
read and scanned (`Interpolation.Command.code_check_eq_zero_iff`).

What it finds in a file depends on the path only by what is read, and by the name that a file has in the report if
it cannot be read (`Interpolation.Command.Alike`). So as long as equal paths are read alike, neither their order
nor one that is given again makes a difference to a check
(`Interpolation.Command.check_invariant`). Without this it does make one: of equal paths, the first one
counts (`Interpolation.Command.check_not_invariant`).
-/

namespace Interpolation.Command

/-! ### What a check finds and what it reports -/

/-- The files to check, each with what is found in it. -/
def visits (files : Files) (coloured : Bool) (dialect : Dialect) (paths : List Path) (extensions : List String) :
    List (Path × Except String Nat) :=
  (collect files paths extensions).map fun path => (path, inspect files coloured dialect path)

/-- How often something wrong is found. -/
def faults (results : List (Path × Except String Nat)) : Nat := results.countP (!·.2.isOk)

/-- The lines on a file in which something wrong is found. -/
def faultLines? (coloured : Bool) (found : Path × Except String Nat) : Option (List String) :=
  match found.2 with
  | .error message => some (faultyLines coloured found.1 message)
  | .ok _ => none

/-- The report on what is found. -/
def report (context : Context) (settings : Settings) (results : List (Path × Except String Nat)) : Outcome :=
  let sound := results.filterMap fun (path, result) => result.toOption.map (soundLine settings.coloured path)
  if results = [] then
    .failed context.files settings.coloured "no template files found"
  else
    { code := if faults results = 0 then 0 else 1
      output :=
        if settings.quiet then ""
        else unlines (sound ++ summaryLines settings.coloured results.length (faults results))
      errors := unlines (results.filterMap (faultLines? settings.coloured)).flatten
      files := context.files }

variable {context : Context} {settings : Settings} {dialect : Dialect} {paths others : List Path}
  {extensions : List String}

theorem faults_eq_length (coloured : Bool) (results : List (Path × Except String Nat)) :
    faults results = (results.filterMap (faultLines? coloured)).length := by
  have hfault (result : Path × Except String Nat) : (!result.2.isOk) = (faultLines? coloured result).isSome := by
    rcases result with ⟨path, _ | _⟩ <;> rfl
  rw [faults, List.length_filterMap_eq_countP, funext hfault]

/-- **A check reports on what it finds.** -/
theorem check_eq_report (context : Context) (settings : Settings) (dialect : Dialect) (paths : List Path)
    (extensions : List String) :
    check context settings dialect paths extensions =
      report context settings (visits context.files settings.coloured dialect paths extensions) := by
  have hcode (lines : List (List String)) :
      (if lines.length = 0 then 0 else 1) = if lines.isEmpty then 0 else 1 := by
    simp only [List.isEmpty_iff_length_eq_zero]
  rw [check, report, visits, faults_eq_length settings.coloured, hcode]
  cases collect context.files paths extensions with
  | nil => rfl
  | cons path rest => rfl

/-- A check ends well if something is found and nothing wrong. -/
theorem code_report_eq_zero_iff {results : List (Path × Except String Nat)} :
    (report context settings results).code = 0 ↔ results ≠ [] ∧ faults results = 0 := by
  by_cases hnil : results = [] <;> simp [report, hnil, Outcome.failed]

theorem isOk_inspect_iff {files : Files} {coloured : Bool} {path : Path} :
    (inspect files coloured dialect path).isOk = true ↔
      ∃ source tree, files.read path = .ok source ∧ dialect.scan source = .ok tree := by
  rw [inspect]
  cases hread : files.read path with
  | error reason => simp [Except.isOk, Except.toBool]
  | ok source => cases hscan : dialect.scan source <;> simp [hscan, Except.isOk, Except.toBool]

/-- **A check ends well** if there is a file to check and every one can be read and scanned. -/
theorem code_check_eq_zero_iff :
    (check context settings dialect paths extensions).code = 0 ↔
      collect context.files paths extensions ≠ [] ∧
        ∀ path ∈ collect context.files paths extensions, ∃ source tree,
          context.files.read path = .ok source ∧ dialect.scan source = .ok tree := by
  simp only [check_eq_report, code_report_eq_zero_iff, visits, faults, List.countP_eq_zero, List.forall_mem_map,
    ne_eq, List.map_eq_nil_iff, Bool.not_eq_true', Bool.not_eq_false, isOk_inspect_iff]

/-! ### Equal paths -/

/-- **The same is found by equal paths**, up to the path that is in the message if the file cannot be read. -/
inductive Alike : Path × Except String Nat → Path × Except String Nat → Prop
  | same {first second : Path} (result : Except String Nat) (heq : first.compare second = .eq) :
      Alike (first, result) (second, result)
  | unreadable {first second : Path} (reason : FileError) (heq : first.compare second = .eq) :
      Alike (first, .error ("cannot read " ++ first.text ++ ": " ++ reason.message))
        (second, .error ("cannot read " ++ second.text ++ ": " ++ reason.message))

theorem alike_inspect {files : Files} {first second : Path} (heq : first.compare second = .eq)
    (hread : files.read first = files.read second) (coloured : Bool) (dialect : Dialect) :
    Alike (first, inspect files coloured dialect first) (second, inspect files coloured dialect second) := by
  rw [inspect, inspect, hread]
  cases files.read second with
  | error reason => exact .unreadable reason heq
  | ok source => exact .same _ heq

theorem faults_eq_of_alike {results results' : List (Path × Except String Nat)}
    (h : List.Forall₂ Alike results results') : faults results = faults results' := by
  induction h with
  | nil => rfl
  | cons hfirst hrest ih =>
    rw [faults, faults] at ih ⊢
    rw [List.countP_cons, List.countP_cons, ih]
    cases hfirst <;> rfl

theorem code_report_eq_of_alike {results results' : List (Path × Except String Nat)}
    (h : List.Forall₂ Alike results results') :
    (report context settings results).code = (report context settings results').code := by
  have hnil : results = [] ↔ results' = [] := by
    rw [← List.length_eq_zero_iff, ← List.length_eq_zero_iff, h.length_eq]
  simp only [report, hnil, faults_eq_of_alike h]
  split <;> rfl

/-- **Equal candidates are read alike.** -/
def ReadAlike (files : Files) (extensions : List String) (paths others : List Path) : Prop :=
  ∀ first second, IsCandidate files extensions paths first → IsCandidate files extensions others second →
    first.compare second = .eq → files.read first = files.read second

/-- This is so if no candidate is spelled like the path of a directory or too long. -/
theorem readAlike_of_plain {files : Files}
    (h : ∀ path, IsCandidate files extensions paths path ∨ IsCandidate files extensions others path →
      path.namesDirectory = false ∧ path.text.utf8ByteSize ≤ Files.longestPath) :
    ReadAlike files extensions paths others := by
  intro first second hfirst hsecond heq
  obtain ⟨hfile, hshort⟩ := h first (.inl hfirst)
  obtain ⟨hfile', hshort'⟩ := h second (.inr hsecond)
  exact files.read_eq_of_compare_eq heq (hfile.trans hfile'.symm) hshort hshort'

theorem forall₂_visits {files : Files} (hread : ReadAlike files extensions paths others)
    (h : List.Forall₂ (fun a b => a.compare b = .eq) (collect files paths extensions)
      (collect files others extensions)) (coloured : Bool) (dialect : Dialect) :
    List.Forall₂ Alike (visits files coloured dialect paths extensions)
      (visits files coloured dialect others extensions) := by
  rw [visits, visits, List.forall₂_map_left_iff, List.forall₂_map_right_iff, List.forall₂_iff_zip]
  obtain ⟨hlength, hequal⟩ := List.forall₂_iff_zip.1 h
  refine ⟨hlength, fun {first second} hmem => alike_inspect (hequal hmem) ?_ coloured dialect⟩
  obtain ⟨hfirst, hsecond⟩ := List.of_mem_zip hmem
  exact hread first second (isCandidate_of_mem_collect hfirst) (isCandidate_of_mem_collect hsecond) (hequal hmem)

/-- **A check visits each path once, whatever the order of its arguments.** The files to check are in strict order
and up to their spelling the candidates; the check reports on them, and it ends well if there is one and every one
can be read and scanned. If paths ask for the same as others, the same files are checked up to their spelling, and
if equal candidates are read alike, the same is found and the check ends in the same way. They are, if none is
spelled like the path of a directory or too long. -/
theorem check_invariant (context : Context) (settings : Settings) (dialect : Dialect) (extensions : List String) :
    (∀ paths,
      (collect context.files paths extensions).Pairwise (fun a b => a.compare b = .lt) ∧
      (∀ path, (∃ found ∈ collect context.files paths extensions, found.compare path = .eq) ↔
        ∃ candidate, IsCandidate context.files extensions paths candidate ∧ candidate.compare path = .eq) ∧
      check context settings dialect paths extensions =
        report context settings (visits context.files settings.coloured dialect paths extensions) ∧
      ((check context settings dialect paths extensions).code = 0 ↔
        collect context.files paths extensions ≠ [] ∧
          ∀ path ∈ collect context.files paths extensions, ∃ source tree,
            context.files.read path = .ok source ∧ dialect.scan source = .ok tree)) ∧
    ∀ paths others, AskedBy context.files extensions paths others →
      AskedBy context.files extensions others paths →
      List.Forall₂ (fun a b => a.compare b = .eq) (collect context.files paths extensions)
        (collect context.files others extensions) ∧
      (ReadAlike context.files extensions paths others →
        List.Forall₂ Alike (visits context.files settings.coloured dialect paths extensions)
          (visits context.files settings.coloured dialect others extensions) ∧
        (visits context.files settings.coloured dialect paths extensions).length =
          (visits context.files settings.coloured dialect others extensions).length ∧
        faults (visits context.files settings.coloured dialect paths extensions) =
          faults (visits context.files settings.coloured dialect others extensions) ∧
        (check context settings dialect paths extensions).code =
          (check context settings dialect others extensions).code) ∧
      ((∀ path, IsCandidate context.files extensions paths path ∨ IsCandidate context.files extensions others path →
          path.namesDirectory = false ∧ path.text.utf8ByteSize ≤ Files.longestPath) →
        ReadAlike context.files extensions paths others) := by
  refine ⟨fun paths => ⟨pairwise_collect _ _ _, fun path => exists_mem_collect_iff, check_eq_report _ _ _ _ _,
    code_check_eq_zero_iff⟩, fun paths others h h' => ?_⟩
  have hcollect := forall₂_collect h h'
  refine ⟨hcollect, fun hread => ?_, readAlike_of_plain⟩
  have hvisits := forall₂_visits hread hcollect settings.coloured dialect
  refine ⟨hvisits, hvisits.length_eq, faults_eq_of_alike hvisits, ?_⟩
  rw [check_eq_report, check_eq_report]
  exact code_report_eq_of_alike hvisits

/-! ### A file in a directory -/

/-- A file in a directory. -/
def nest : Files where
  here := ["home"]
  entries := [(["home", "d", "f.txt"], .file "a".toUTF8)]
  distinct := by decide

/-- The file is the only candidate of the directory. -/
theorem candidates_nest : candidates nest ["txt"] ⟨"d"⟩ = [⟨"d/f.txt"⟩] := by cbv

/-- The path of the file is no directory's. -/
theorem isDirectory_nest {path : Path}
    (hwalk : path.components.foldlM nest.step nest.here = .ok ["home", "d", "f.txt"]) :
    nest.isDirectory path = false :=
  Files.isDirectory_eq_false hwalk (by rfl) (by rfl)

theorem read_nest : nest.read ⟨"d/f.txt"⟩ = .ok "a" :=
  Files.read_eq_ok_iff.2 ⟨["home", "d", "f.txt"], _,
    (Files.resolve_eq_ok_iff ⟨by decide, by decide, by decide⟩).2 ⟨by cbv, by rfl, fun _ => by cbv⟩,
    Files.decode_toUTF8 _⟩

theorem scan_nest : Dialect.scan ⟨.ofList [], 32⟩ "a" = .ok [.text "a"] := by cbv

theorem collect_nest : collect nest [⟨"d"⟩] ["txt"] = [⟨"d/f.txt"⟩] := by
  have hcandidates : [(⟨"d"⟩ : Path)].flatMap (candidates nest ["txt"]) = [⟨"d/f.txt"⟩] := by
    simp [candidates_nest]
  rw [collect_of_pairwise (by simp [hcandidates]), hcandidates]
  rfl

/-- The file may be given in front of the directory. -/
theorem check_invariant_nest :
    let context : Context := ⟨[], ⟨[]⟩, .empty, nest⟩
    let settings : Settings := ⟨32, false, false, {}, ⟨"."⟩⟩
    let dialect : Dialect := ⟨.ofList [], 32⟩
    (check context settings dialect [⟨"d/f.txt"⟩, ⟨"d"⟩] ["txt"]).code = 0 ∧
      (check context settings dialect [⟨"d"⟩] ["txt"]).code = 0 := by
  intro context settings dialect
  obtain ⟨hchecked, hsame⟩ := check_invariant context settings dialect ["txt"]
  have hplain : nest.isDirectory ⟨"d/f.txt"⟩ = false := isDirectory_nest (by cbv)
  have hcovers : Covers nest ["txt"] ⟨"d"⟩ ⟨"d/f.txt"⟩ := by
    refine (mem_candidates_iff.1 (candidates_nest ▸ List.mem_singleton_self _)).resolve_left fun h => ?_
    exact absurd h.1 (by decide)
  have hcandidate {paths : List Path} (hpaths : paths = [⟨"d"⟩] ∨ paths = [⟨"d/f.txt"⟩, ⟨"d"⟩]) {path : Path}
      (h : IsCandidate nest ["txt"] paths path) : path = ⟨"d/f.txt"⟩ := by
    rw [← mem_flatMap_candidates_iff] at h
    rcases hpaths with rfl | rfl <;>
      simpa [candidates_nest, candidates_of_isDirectory_eq_false hplain] using h
  obtain ⟨-, halike, hread⟩ := hsame [⟨"d/f.txt"⟩, ⟨"d"⟩] [⟨"d"⟩]
    (List.forall_mem_cons.2 ⟨.inr ⟨hplain, _, List.mem_singleton_self _, _, hcovers, by cbv⟩, fun _ => .inl⟩)
    (List.forall_mem_singleton.2 (.inl (by simp)))
  obtain ⟨-, -, -, hcode⟩ := halike <| hread fun path hpath => by
    rw [hpath.elim (hcandidate (.inr rfl)) (hcandidate (.inl rfl))]
    exact ⟨by cbv, by decide⟩
  have hzero : (check context settings dialect [⟨"d"⟩] ["txt"]).code = 0 := by
    refine (hchecked _).2.2.2.2 ?_
    rw [collect_nest]
    exact ⟨List.cons_ne_nil _ _, List.forall_mem_singleton.2 ⟨"a", _, read_nest, scan_nest⟩⟩
  exact ⟨hcode.trans hzero, hzero⟩

/-- Of the file spelled in two ways, of which one is for directories only, the first one counts. And a path that is
not equal to that by which the directory covers the file is checked once more. -/
theorem check_not_invariant :
    let context : Context := ⟨[], ⟨[]⟩, .empty, nest⟩
    let settings : Settings := ⟨32, false, false, {}, ⟨"."⟩⟩
    let dialect : Dialect := ⟨.ofList [], 32⟩
    (check context settings dialect [⟨"d/f.txt"⟩, ⟨"d/f.txt/"⟩] ["txt"]).code = 0 ∧
      (check context settings dialect [⟨"d/f.txt/"⟩, ⟨"d/f.txt"⟩] ["txt"]).code ≠ 0 ∧
      collect nest [⟨"d"⟩] ["txt"] = [⟨"d/f.txt"⟩] ∧
      collect nest [⟨"./d/f.txt"⟩, ⟨"d"⟩] ["txt"] = [⟨"./d/f.txt"⟩, ⟨"d/f.txt"⟩] := by
  intro context settings dialect
  have hplain : nest.isDirectory ⟨"d/f.txt"⟩ = false := isDirectory_nest (by cbv)
  have hslash : nest.isDirectory ⟨"d/f.txt/"⟩ = false := isDirectory_nest (by cbv)
  have hdot : nest.isDirectory ⟨"./d/f.txt"⟩ = false := isDirectory_nest (by cbv)
  refine ⟨code_check_eq_zero_iff.2 ?_, fun hcode => ?_, collect_nest, ?_⟩
  · rw [collect_pair hplain hslash (by cbv)]
    exact ⟨List.cons_ne_nil _ _, List.forall_mem_singleton.2 ⟨"a", _, read_nest, scan_nest⟩⟩
  · have hread := (code_check_eq_zero_iff.1 hcode).2
    rw [collect_pair hslash hplain (by cbv)] at hread
    obtain ⟨source, tree, hsource, -⟩ := List.forall_mem_singleton.1 hread
    cases (Files.namesDirectory_eq_false_of_read hsource).symm.trans (by cbv : _ = true)
  · have hcandidates : [(⟨"./d/f.txt"⟩ : Path), ⟨"d"⟩].flatMap (candidates nest ["txt"]) =
        [⟨"./d/f.txt"⟩, ⟨"d/f.txt"⟩] := by
      simp [candidates_nest, candidates_of_isDirectory_eq_false hdot]
    have hlt : Path.compare ⟨"./d/f.txt"⟩ ⟨"d/f.txt"⟩ = .lt := by cbv
    rw [collect_of_pairwise (by simp [hcandidates, hlt]), hcandidates]
    simp [dropRepeated, hlt]

end Interpolation.Command
