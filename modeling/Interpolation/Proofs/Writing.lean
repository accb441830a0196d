import Interpolation.Proofs.Loading

/-!
# Writing a file

Another entry at a place that is listed leaves the list of places as it is. So at this place the new entry is
found, and at every other one what was there before (`Interpolation.Files.at?_replace`). If both entries are
files, no step along a path can tell them apart, since a path goes by directories only: every path leads where it
led, and those that lead to the place find the new entry there (`Interpolation.Files.resolve_replace`).

This is all that writing a text to a file does (`Interpolation.Files.Holding`): the file holds the text, and no
other file can tell.
-/

namespace Interpolation.Files

variable {files : Files} {place other : List String} {old new : Entry}

/-! ### Another entry at a place -/

/-- The list of entries, looked up at a place, after the entry at some place has been replaced. -/
theorem lookup_replace (files : Files) (place other : List String) (new : Entry) :
    (files.replace place new).entries.lookup other =
      (files.entries.lookup other).map fun old => if other = place then new else old := by
  have hlookup (entries : List (List String × Entry)) :
      (entries.map fun listed => (listed.1, if listed.1 = place then new else listed.2)).lookup other =
        (entries.lookup other).map fun old => if other = place then new else old := by
    induction entries with
    | nil => rfl
    | cons listed rest ih =>
      rw [List.map_cons, List.lookup_cons, List.lookup_cons]
      cases hsame : other == listed.1 with
      | true =>
        obtain rfl := eq_of_beq hsame
        rfl
      | false => exact ih
  exact hlookup files.entries

/-- **The new entry is found at its place**, and at every other one what was there before. -/
theorem at?_replace (h : (place, old) ∈ files.entries) (new : Entry) (other : List String) :
    (files.replace place new).at? other = if other = place then some new else files.at? other := by
  rw [at?, at?, lookup_replace]
  by_cases hother : other = place
  · subst hother
    rw [lookup_entries_iff.2 h]
    simp
  · have hlisted : (files.replace place new).entries.any (other.isPrefixOf ·.1) =
        files.entries.any (other.isPrefixOf ·.1) := by
      rw [replace, List.any_map]
      rfl
    rw [hlisted]
    cases files.entries.lookup other <;> simp [hother]

section

variable (h : (place, old) ∈ files.entries) (hold : old.isFile = true) (hnew : new.isFile = true)

include h hold hnew

/-- From a file there is no step, whatever it holds. -/
theorem step_replace : (files.replace place new).step = files.step := by
  have hat : files.at? place = some old := (at?_eq_some_iff hold).2 h
  funext base component
  cases component with
  | root => rfl
  | _ =>
    by_cases hbase : base = place
    · subst hbase
      cases old <;> cases new <;> simp_all [step, at?_replace h, Entry.isFile]
    · simp [step, at?_replace h, hbase]

/-- **Every path leads where it led before**, and finds the new entry if this is its place. -/
theorem resolve_replace (path : Path) :
    (files.replace place new).resolve path =
      (fun target : List String × Entry => (target.1, if target.1 = place then new else target.2)) <$>
        files.resolve path := by
  have hat : files.at? place = some old := (at?_eq_some_iff hold).2 h
  have hhere : (files.replace place new).here = files.here := rfl
  rw [resolve, resolve, step_replace h hold hnew, hhere]
  by_cases hnul : path.text.toList.contains '\x00' = true
  · rw [if_pos hnul, if_pos hnul]
    rfl
  by_cases hempty : path.text.isEmpty = true
  · rw [if_neg hnul, if_neg hnul, if_pos hempty, if_pos hempty]
    rfl
  by_cases hlong : longestPath < path.text.utf8ByteSize
  · rw [if_neg hnul, if_neg hnul, if_neg hempty, if_neg hempty, if_pos hlong, if_pos hlong]
    rfl
  rw [if_neg hnul, if_neg hnul, if_neg hempty, if_neg hempty, if_neg hlong, if_neg hlong]
  cases path.components.foldlM files.step files.here with
  | error reason => rfl
  | ok target =>
    simp only [bind, Except.bind, at?_replace h]
    by_cases htarget : target = place
    · subst htarget
      rw [if_pos rfl, hat]
      cases path.namesDirectory <;> cases old <;> cases new <;>
        simp_all [Entry.isFile, Functor.map, Except.map]
    · rw [if_neg htarget]
      cases path.namesDirectory <;> rcases files.at? target with _ | (_ | _ | _) <;>
        simp [Functor.map, Except.map, htarget]

end

/-! ### A text in a file -/

/-- Only the bytes of a text are read as this text. -/
theorem eq_toUTF8_of_decode {bytes : ByteArray} {text : String} (h : decode bytes = .ok text) :
    bytes = text.toUTF8 := by
  unfold decode String.fromUTF8? at h
  split at h
  · rename_i heq
    split at heq
    · rw [← Except.ok.inj h, ← Option.some.inj heq]
      rfl
    · cases heq
  · cases h

theorem decode_eq_ok_iff {bytes : ByteArray} {text : String} : decode bytes = .ok text ↔ bytes = text.toUTF8 :=
  ⟨eq_toUTF8_of_decode, fun h => h ▸ decode_toUTF8 text⟩

/-- **The files with a text in the file at a place**: it is found there, and nothing else has changed, neither
what is at other places nor where paths lead. -/
structure Holding (files : Files) (place : List String) (text : String) (after : Files) : Prop where
  /-- The text is at the place, and at every other one what was there before. -/
  at? : ∀ other, after.at? other = if other = place then some (.file text.toUTF8) else files.at? other
  /-- A path to the place leads to the text. -/
  resolve_self : ∀ path entry, files.resolve path = .ok (place, entry) →
    after.resolve path = .ok (place, .file text.toUTF8)
  /-- A path that does not lead to the place leads to what it led to before. -/
  resolve_other : ∀ path, (∀ entry, files.resolve path ≠ .ok (place, entry)) →
    after.resolve path = files.resolve path

/-- By a path to the place, the text is read. -/
theorem Holding.read_self {text : String} {after : Files} {path : Path} {entry : Entry}
    (h : files.Holding place text after) (hpath : files.resolve path = .ok (place, entry)) :
    after.read path = .ok text :=
  read_eq_ok_iff.2 ⟨place, _, h.resolve_self path entry hpath, decode_toUTF8 text⟩

/-- A file that is replaced by a text holds it. -/
theorem holding_replace (h : (place, old) ∈ files.entries) (hold : old.isFile = true) (text : String) :
    files.Holding place text (files.replace place (.file text.toUTF8)) where
  at? := at?_replace h _
  resolve_self path entry hpath := by
    rw [resolve_replace h hold rfl, hpath]
    simp [Functor.map, Except.map]
  resolve_other path hpath := by
    rw [resolve_replace h hold rfl]
    cases hresolve : files.resolve path with
    | error reason => rfl
    | ok target =>
      obtain ⟨other, entry⟩ := target
      have hother : other ≠ place := by
        rintro rfl
        exact hpath entry hresolve
      simp [Functor.map, Except.map, hother]

/-- Files hold what they hold. -/
theorem holding_self {text : String} (h : (place, .file text.toUTF8) ∈ files.entries) :
    files.Holding place text files where
  at? other := by
    split
    · rename_i hother
      rw [hother]
      exact (at?_eq_some_iff rfl).2 h
    · rfl
  resolve_self path entry hpath := by
    have hat := ((resolve_eq_ok_iff (isGiven_of_resolve hpath)).1 hpath).2.1
    have hfound : some entry = some (.file text.toUTF8) := hat.symm.trans ((at?_eq_some_iff rfl).2 h)
    obtain rfl := Option.some.inj hfound
    exact hpath
  resolve_other path _ := rfl

/-- What a path leads to is listed, if it is a file. -/
theorem mem_entries_of_resolve {path : Path} {entry : Entry} (h : files.resolve path = .ok (place, entry))
    (hfile : entry.isFile = true) : (place, entry) ∈ files.entries :=
  (at?_eq_some_iff hfile).1 ((resolve_eq_ok_iff (isGiven_of_resolve h)).1 h).2.1

/-- **Writing a text puts it into the file** that the path leads to. -/
theorem holding_write {path : Path} {bytes : ByteArray} (h : files.resolve path = .ok (place, .file bytes))
    (text : String) : files.Holding place text (files.write path text) := by
  rw [write, h]
  exact holding_replace (mem_entries_of_resolve h rfl) rfl text

end Interpolation.Files
