import Interpolation.Command
import Interpolation.Proofs.History
import Mathlib.Data.List.Flatten

/-!
# What a listing shows

The listing of a namespace goes over its methods twice. The sections are gone through in order, and whatever
they name is shown if there is such a method; then come the methods that no section names. Either of the two
leaves methods out, and what one leaves out is what the other shows: a method that the sections name is shown
as often as they name it (`Interpolation.Namespace.filter_sectioned`), and every other one once
(`Interpolation.Namespace.filter_unsectioned`).

A namespace that was registered in several parts has the sections of all of them and may have got its methods
from others (`Interpolation.Catalog.get?_ofList_eq`). This does not matter here, since both walks look only at
what has become of it.

What is printed are lines, and they do not say which method they are of: a description, or another method, may
read like the line of a method. So the lines are given as a whole, from the methods that are shown
(`Interpolation.Command.shownLines`). The line of a method is among them as often as the method is shown, or
more often, and exactly as often if no other line reads like it
(`Interpolation.Command.StandsOut.count_shownLines`). So nothing is omitted from the printed listing of a catalog,
whatever was registered (`Interpolation.Command.listMethods_shows_all`).
-/

namespace Interpolation

open History

/-! ### Sections and the rest -/

namespace Namespace

variable {space : Namespace} {method : Signature}

/-- The names that the sections of a namespace list, one after the other. -/
def listedNames (space : Namespace) : List String := space.sections.flatMap (·.methods)

/-- **How often the sections of a namespace name a method.** -/
def mentions (space : Namespace) (name : String) : Nat := space.listedNames.count name

theorem isSectioned_eq_false_iff (space : Namespace) (name : String) :
    space.isSectioned name = false ↔ space.mentions name = 0 := by
  rw [mentions, List.count_eq_zero, listedNames, List.mem_flatMap, isSectioned, Bool.eq_false_iff, ne_eq,
    List.any_eq_true]
  simp only [List.contains_iff_mem]

/-- The methods that no section lists are those that are not mentioned. -/
theorem mem_unsectioned_iff :
    method ∈ space.unsectioned ↔ method ∈ space.methods.entries ∧ space.mentions method.name = 0 := by
  rw [unsectioned, List.mem_filter, Bool.not_eq_true', isSectioned_eq_false_iff]

theorem eq_of_name_eq {other : Signature} (hother : other ∈ space.methods.entries)
    (h : method ∈ space.methods.entries) (hname : other.name = method.name) : other = method :=
  Option.some.inj <| (Keyed.get?_eq_some_iff.2 ⟨hother, hname⟩).symm.trans (Keyed.get?_eq_some_iff.2 ⟨h, rfl⟩)

/-- The entries of a table with the key of one of them are this one alone. -/
theorem filter_entries (h : method ∈ space.methods.entries) :
    space.methods.entries.filter (·.name == method.name) = [method] := by
  obtain ⟨before, after, hentries⟩ := List.append_of_mem h
  have hdistinct := space.methods.pairwise_ne
  rw [hentries, List.pairwise_append, List.pairwise_cons] at hdistinct
  obtain ⟨-, ⟨hafter, -⟩, hbefore⟩ := hdistinct
  have hnone {others : List Signature} (hothers : ∀ other ∈ others, other.name ≠ method.name) :
      others.filter (·.name == method.name) = [] :=
    List.filter_eq_nil_iff.2 fun other hother => by simpa using hothers other hother
  rw [hentries, List.filter_append, List.filter_cons_of_pos (by simp),
    hnone fun other hother => hbefore other hother method List.mem_cons_self,
    hnone fun other hother => (hafter other hother).symm, List.nil_append]

/-- **A method is among the rest once**, unless a section names it. -/
theorem filter_unsectioned (h : method ∈ space.methods.entries) :
    space.unsectioned.filter (·.name == method.name) =
      if space.mentions method.name = 0 then [method] else [] := by
  rw [unsectioned, List.filter_comm, filter_entries h, List.filter_singleton]
  simp only [← isSectioned_eq_false_iff]
  cases space.isSectioned method.name <;> rfl

theorem pairwise_unsectioned (space : Namespace) :
    space.unsectioned.Pairwise fun first second => Text.bytes first.name < Text.bytes second.name :=
  (space.methods.sorted.imp fun hlt => Text.lt_iff_bytes_lt.1 hlt).filter _

/-! ### Methods that are shown -/

/-- The methods that a section shows. -/
def shownIn (space : Namespace) (listed : Section) : List Signature := listed.methods.filterMap space.method?

/-- **The methods of a namespace as they are shown**: those of its sections in order, then the rest. -/
def shown (space : Namespace) : List Signature := space.sections.flatMap space.shownIn ++ space.unsectioned

theorem flatMap_shownIn (space : Namespace) :
    space.sections.flatMap space.shownIn = space.listedNames.filterMap space.method? := by
  rw [listedNames, List.filterMap_flatMap]
  rfl

/-- A section shows what it names, except for names without a method. -/
theorem map_name_filterMap (space : Namespace) (names : List String) :
    (names.filterMap space.method?).map (·.name) = names.filter fun name => (space.method? name).isSome := by
  induction names with
  | nil => rfl
  | cons name rest ih =>
    cases hfound : space.method? name with
    | none => simp [hfound, ih]
    | some method =>
      have hname : method.name = name := (Keyed.get?_eq_some hfound).2
      simp [hfound, hname, ih]

/-- **A method is shown by the sections as often as they name it.** -/
theorem filter_sectioned (h : method ∈ space.methods.entries) (names : List String) :
    (names.filterMap space.method?).filter (·.name == method.name) =
      List.replicate (names.count method.name) method := by
  have hself : space.method? method.name = some method := Keyed.get?_eq_some_iff.2 ⟨h, rfl⟩
  induction names with
  | nil => rfl
  | cons name rest ih =>
    by_cases hname : name = method.name
    · subst hname
      rw [List.filterMap_cons_some hself, List.filter_cons_of_pos (by simp), ih, List.count_cons_self,
        List.replicate_succ]
    · rw [List.count_cons_of_ne hname, ← ih]
      cases hfound : space.method? name with
      | none => rw [List.filterMap_cons_none hfound]
      | some other =>
        have hother : other.name = name := (Keyed.get?_eq_some hfound).2
        rw [List.filterMap_cons_some hfound, List.filter_cons_of_neg (by simpa [hother] using hname)]

/-- **A method is shown as often as the sections name it, and at least once.** -/
theorem filter_shown (h : method ∈ space.methods.entries) :
    space.shown.filter (·.name == method.name) = List.replicate (max 1 (space.mentions method.name)) method := by
  rw [shown, flatMap_shownIn, List.filter_append, filter_sectioned h, filter_unsectioned h, mentions]
  cases space.listedNames.count method.name with
  | zero => rfl
  | succ count => simp

/-- Only methods of the namespace are shown. -/
theorem mem_of_mem_shown (h : method ∈ space.shown) : method ∈ space.methods.entries := by
  rw [shown, flatMap_shownIn, List.mem_append, List.mem_filterMap] at h
  rcases h with ⟨name, -, hfound⟩ | hrest
  · exact (Keyed.get?_eq_some hfound).1
  · exact (mem_unsectioned_iff.1 hrest).1

end Namespace

/-! ### Namespaces of several registrations -/

namespace Namespace

/-- **Several namespaces in one**: the first with the others merged in, if there is one at all. -/
def mergeAll? : List Namespace → Option Namespace
  | [] => none
  | first :: rest => some (rest.foldl merge first)

theorem mergeAll?_eq_none_iff {parts : List Namespace} : mergeAll? parts = none ↔ parts = [] := by
  cases parts <;> simp [mergeAll?]

theorem mergeAll?_concat (parts : List Namespace) (part : Namespace) :
    mergeAll? (parts ++ [part]) = some (((mergeAll? parts).map (·.merge part)).getD part) := by
  cases parts with
  | nil => rfl
  | cons first rest => simp [mergeAll?]

theorem sections_of_mergeAll? {parts : List Namespace} (h : mergeAll? parts = some space) :
    space.sections = parts.flatMap (·.sections) := by
  induction parts using List.reverseRecOn generalizing space with
  | nil => simp [mergeAll?] at h
  | append_singleton parts part ih =>
    rw [mergeAll?_concat, Option.some.injEq] at h
    subst h
    cases hparts : mergeAll? parts with
    | none => simp [mergeAll?_eq_none_iff.1 hparts]
    | some known => simp [sections_merge, ih hparts]

theorem isSome_method?_of_mergeAll? {parts : List Namespace} (h : mergeAll? parts = some space) (key : String) :
    (space.method? key).isSome ↔ ∃ part ∈ parts, (part.method? key).isSome := by
  induction parts using List.reverseRecOn generalizing space with
  | nil => simp [mergeAll?] at h
  | append_singleton parts part ih =>
    rw [mergeAll?_concat, Option.some.injEq] at h
    subst h
    cases hparts : mergeAll? parts with
    | none => simp [mergeAll?_eq_none_iff.1 hparts]
    | some known => simp [method?_merge, ih hparts, or_comm, or_and_right, exists_or]

end Namespace

/-- **A namespace is what was registered under its name, in one.** -/
theorem Catalog.get?_ofList_eq (spaces : List Namespace) (name : String) :
    (ofList spaces).table.get? name = Namespace.mergeAll? (under spaces name) := by
  induction spaces using List.reverseRecOn with
  | nil => rfl
  | append_singleton spaces space ih =>
    rw [ofList_concat]
    by_cases hname : space.name = name
    · subst hname
      rw [under_concat_self, Namespace.mergeAll?_concat, ← ih]
      cases hknown : (ofList spaces).table.get? space.name with
      | none => exact get?_register_of_none hknown
      | some known => exact get?_register_of_some hknown
    · rw [get?_register_of_ne _ hname, under_concat_of_ne spaces hname, ih]

namespace Command

variable {space : Namespace} {method : Signature} {coloured : Bool}

/-! ### Printed lines -/

/-- **The line of a method**: its signature behind four blanks, marked if it looks variadic. -/
def shownLine (coloured : Bool) (method : Signature) : String :=
  let mark := if method.looksVariadic then " " ++ (Style.tint .yellow).paint coloured "(variadic?)" else ""
  "    " ++ ((Style.tint .green).paint coloured method.display ++ mark)

/-- The lines of a method: its own one and what it does. -/
def shownBlock (coloured : Bool) (method : Signature) : List String :=
  shownLine coloured method ::
    if method.description.isEmpty then [] else ["      " ++ Style.faint.paint coloured method.description]

/-- The line of a heading. -/
def headingLine (coloured : Bool) (heading : String) : String := "  " ++ Style.strong.paint coloured heading

/-- The lines of a part: an empty one, its heading and the lines of its methods. -/
def partLines (coloured : Bool) (heading : String) (methods : List Signature) : List String :=
  "" :: headingLine coloured heading :: methods.flatMap (shownBlock coloured)

/-- The lines in front of the parts: the heading of the namespace and what it says about itself. -/
def introLines (coloured : Bool) (space : Namespace) : List String :=
  let head := { Style.tint .cyan with bold := true }.paint coloured (heading space) ++ " "
    ++ Style.faint.paint coloured ("[" ++ space.name ++ "]")
  head :: if space.description.isEmpty then [] else [Style.faint.paint coloured space.description]

/-- The lines of the methods that no section names, under the heading `Other` if there are any. -/
def restLines (coloured : Bool) (space : Namespace) : List String :=
  if space.unsectioned = [] then [] else partLines coloured "Other" space.unsectioned

/-- **The lines of a namespace**: a part for each section and one for the rest, and an empty line. -/
def shownLines (coloured : Bool) (space : Namespace) : List String :=
  introLines coloured space ++
    space.sections.flatMap (fun listed => partLines coloured listed.title (space.shownIn listed)) ++
    restLines coloured space ++ [""]

theorem exists_shownLines_eq (coloured : Bool) (h : space.unsectioned ≠ []) :
    ∃ front, shownLines coloured space =
      front ++ "" :: headingLine coloured "Other" :: space.unsectioned.flatMap (shownBlock coloured) ++ [""] := by
  rw [shownLines, restLines, if_neg h]
  exact ⟨_, rfl⟩

theorem groupedLines_eq (coloured : Bool) (method : Signature) :
    groupedLines coloured method = shownBlock coloured method := by
  rw [groupedLines, methodLines, shownBlock]
  cases method.description.isEmpty <;> rfl

theorem Group.lines_eq (coloured : Bool) (group : Group) :
    group.lines coloured = partLines coloured group.heading group.methods := by
  rw [Group.lines, partLines, headingLine, funext (groupedLines_eq coloured)]

theorem flatMap_others (coloured : Bool) (space : Namespace) :
    (Group.others space).flatMap (Group.lines coloured) = restLines coloured space := by
  rw [Group.others, restLines]
  cases space.unsectioned with
  | nil => rfl
  | cons first rest => simp [Group.lines_eq]

/-- **The lines of a namespace are those of the methods that are shown.** -/
theorem spaceLines_eq (coloured : Bool) (space : Namespace) :
    spaceLines coloured space = shownLines coloured space := by
  have hsections : (space.sections.map (Group.ofSection space)).flatMap (Group.lines coloured) =
      space.sections.flatMap fun listed => partLines coloured listed.title (space.shownIn listed) := by
    rw [List.flatMap_map]
    exact List.flatMap_congr fun listed _ => Group.lines_eq coloured _
  rw [shownLines, ← hsections, ← flatMap_others, List.append_assoc (introLines coloured space),
    ← List.flatMap_append]
  rfl

/-- Without colours, the line of a method begins with its full name. -/
theorem shownLine_eq_append (method : Signature) :
    ∃ rest, shownLine false method = "    " ++ method.home ++ "." ++ method.name ++ "(" ++ rest := by
  simp only [shownLine, Style.paint, Signature.display, Bool.false_eq_true, if_false, String.append_assoc]
  exact ⟨_, rfl⟩

/-! ### Counting lines -/

/-- **No other line reads like the line of a method**: none in front of the parts, no heading, no line about what
a method does and no line of another method. -/
structure StandsOut (coloured : Bool) (space : Namespace) (method : Signature) : Prop where
  /-- No line in front of the parts reads like it. -/
  intro : shownLine coloured method ∉ introLines coloured space
  /-- No heading reads like it. -/
  heading : ∀ title ∈ "Other" :: space.sections.map (·.title),
    headingLine coloured title ≠ shownLine coloured method
  /-- What a method does does not read like it. -/
  description : ∀ other ∈ space.methods.entries, shownLine coloured method ∉ (shownBlock coloured other).tail
  /-- No other method reads like it. -/
  others : ∀ other ∈ space.methods.entries,
    shownLine coloured other = shownLine coloured method → other.name = method.name

theorem shownLine_ne_empty (coloured : Bool) (method : Signature) : "" ≠ shownLine coloured method := by
  simp [shownLine]

/-- The lines of a method in a list of methods, for each time it occurs at least one. -/
theorem le_count_shownBlock {methods : List Signature} {count : Nat}
    (h : methods.filter (·.name == method.name) = List.replicate count method) (coloured : Bool) :
    count ≤ (methods.flatMap (shownBlock coloured)).count (shownLine coloured method) := by
  have hself : 1 ≤ (shownBlock coloured method).count (shownLine coloured method) := by
    simp [shownBlock]
  have hsublist : (List.replicate count method).Sublist methods := h ▸ List.filter_sublist
  calc count = count * 1 := (Nat.mul_one count).symm
    _ ≤ count * (shownBlock coloured method).count (shownLine coloured method) := Nat.mul_le_mul_left count hself
    _ = ((List.replicate count method).flatMap (shownBlock coloured)).count (shownLine coloured method) := by
      simp [List.count_flatMap]
    _ ≤ _ := (hsublist.flatMap _).count_le _

namespace StandsOut

variable (h : StandsOut coloured space method)

include h

theorem count_shownBlock {other : Signature} (hother : other ∈ space.methods.entries)
    (hmethod : method ∈ space.methods.entries) :
    (shownBlock coloured other).count (shownLine coloured method) = if other.name = method.name then 1 else 0 := by
  have htail := List.count_eq_zero.2 (h.description other hother)
  rw [shownBlock, List.tail_cons] at htail
  rw [shownBlock, List.count_cons, htail, Nat.zero_add]
  split_ifs with hline hname hname
  · rfl
  · exact absurd (h.others other hother (by simpa using hline)) hname
  · simp [Namespace.eq_of_name_eq hother hmethod hname] at hline
  · rfl

theorem count_blocks {methods : List Signature} (hmethods : ∀ other ∈ methods, other ∈ space.methods.entries)
    (hmethod : method ∈ space.methods.entries) :
    (methods.flatMap (shownBlock coloured)).count (shownLine coloured method) =
      (methods.filter (·.name == method.name)).length := by
  induction methods with
  | nil => rfl
  | cons other rest ih =>
    obtain ⟨hother, hrest⟩ := List.forall_mem_cons.1 hmethods
    rw [List.flatMap_cons, List.count_append, h.count_shownBlock hother hmethod, ih hrest, List.filter_cons]
    by_cases hname : other.name = method.name <;> simp [hname, Nat.add_comm]

/-- Around the lines of the methods of a part there are only others. -/
theorem count_partLines {title : String} (htitle : title ∈ "Other" :: space.sections.map (·.title))
    (methods : List Signature) :
    (partLines coloured title methods).count (shownLine coloured method) =
      (methods.flatMap (shownBlock coloured)).count (shownLine coloured method) := by
  rw [partLines, List.count_cons_of_ne (shownLine_ne_empty coloured method),
    List.count_cons_of_ne (h.heading title htitle)]

/-- **The line of a method that stands out is printed as often as the method is shown.** -/
theorem count_shownLines (hmethod : method ∈ space.methods.entries) :
    (shownLines coloured space).count (shownLine coloured method) = max 1 (space.mentions method.name) := by
  have hsections :
      (space.sections.flatMap fun listed => partLines coloured listed.title (space.shownIn listed)).count
          (shownLine coloured method) =
        ((space.sections.flatMap space.shownIn).flatMap (shownBlock coloured)).count
          (shownLine coloured method) := by
    rw [List.flatMap_assoc, List.count_flatMap, List.count_flatMap]
    refine congrArg List.sum (List.map_congr_left fun listed hlisted => h.count_partLines ?_ _)
    exact List.mem_cons_of_mem _ (List.mem_map_of_mem hlisted)
  have hrest : (restLines coloured space).count (shownLine coloured method) =
      (space.unsectioned.flatMap (shownBlock coloured)).count (shownLine coloured method) := by
    rw [restLines]
    split
    · rename_i hnil
      simp [hnil]
    · exact h.count_partLines List.mem_cons_self _
  calc (shownLines coloured space).count (shownLine coloured method)
      = (space.shown.flatMap (shownBlock coloured)).count (shownLine coloured method) := by
        rw [shownLines, List.count_append, List.count_append, List.count_append, List.count_eq_zero.2 h.intro,
          List.count_singleton, hsections, hrest, Namespace.shown, List.flatMap_append, List.count_append]
        simp [shownLine_ne_empty coloured method]
    _ = max 1 (space.mentions method.name) := by
        rw [h.count_blocks (fun _ => Namespace.mem_of_mem_shown) hmethod, Namespace.filter_shown hmethod,
          List.length_replicate]

end StandsOut

/-- The lines of the methods that are shown are among the lines of the namespace. -/
theorem sublist_shownLines (coloured : Bool) (space : Namespace) :
    (space.shown.flatMap (shownBlock coloured)).Sublist (shownLines coloured space) := by
  have hpart (title : String) (methods : List Signature) :
      (methods.flatMap (shownBlock coloured)).Sublist (partLines coloured title methods) :=
    ((List.Sublist.refl _).cons _).cons _
  have hrest : (space.unsectioned.flatMap (shownBlock coloured)).Sublist (restLines coloured space) := by
    rw [restLines]
    split
    · rename_i hnil
      simp [hnil]
    · exact hpart _ _
  rw [Namespace.shown, List.flatMap_append, List.flatMap_assoc, shownLines]
  have hsections := List.Sublist.flatMap_right space.sections fun listed _ =>
    hpart listed.title (space.shownIn listed)
  exact ((hsections.trans (List.sublist_append_right _ _)).append hrest).trans (List.sublist_append_left _ _)

/-! ### Whole listings -/

/-- The namespaces that a listing is of: all of them, or the one that a name leads to. -/
def listed? (catalog : Catalog) : Option String → Option (List Namespace)
  | none => some catalog.namespaces
  | some name => (catalog.namespace? name).map ([·])

theorem listMethods_eq {catalog : Catalog} {name : Option String} {spaces : List Namespace}
    (h : listed? catalog name = some spaces) (context : Context) (settings : Settings) :
    listMethods context settings catalog name none =
      ⟨0, unlines (spaces.flatMap (shownLines settings.coloured)), "", context.files⟩ := by
  rw [← funext (spaceLines_eq settings.coloured)]
  cases name with
  | none =>
    obtain rfl := Option.some.inj h
    rfl
  | some name =>
    obtain ⟨space, hspace, rfl⟩ := Option.map_eq_some_iff.1 h
    simp only [listMethods, hspace, Outcome.ofOutput]

/-- What is listed is in the catalog under its own name. -/
theorem get?_of_mem_listed {catalog : Catalog} {name : Option String} {spaces : List Namespace}
    (h : listed? catalog name = some spaces) (hspace : space ∈ spaces) :
    catalog.table.get? space.name = some space := by
  cases name with
  | none =>
    obtain rfl := Option.some.inj h
    exact Keyed.get?_eq_some_iff.2 ⟨hspace, rfl⟩
  | some name =>
    obtain ⟨found, hfound, rfl⟩ := Option.map_eq_some_iff.1 h
    obtain rfl := List.mem_singleton.1 hspace
    rw [(Keyed.get?_eq_some hfound).2]
    exact hfound

/-- Whatever was registered is in the catalog under its name. -/
theorem exists_mem_namespaces {registered : List Namespace} {given : Namespace} (h : given ∈ registered) :
    ∃ space ∈ (Catalog.ofList registered).namespaces, space.name = given.name := by
  have hunder : under registered given.name ≠ [] := List.ne_nil_of_mem (mem_under_iff.2 ⟨h, rfl⟩)
  obtain ⟨space, hspace⟩ := Option.ne_none_iff_exists'.1 (mt Namespace.mergeAll?_eq_none_iff.1 hunder)
  rw [← Catalog.get?_ofList_eq] at hspace
  exact ⟨space, Keyed.get?_eq_some hspace⟩

/-- **The printed listing of a catalog omits nothing**, whatever was registered. It ends well, and its output is
the lines of the namespaces that are listed (`Interpolation.Command.shownLines`), which are all that were
registered unless one is asked for. For every namespace that is listed,

* its sections are those of all registrations under its name, and it has a method of every name that a method of
  these has, and of no other;
* a section shows the methods that it names, in this order, and nothing for names without a method;
* whatever is shown is a method of the namespace, and each of them is shown as often as the sections name it
  altogether, and once if they do not. Its line, which without colours begins with its full name, is printed at
  least as often, and just as often if it stands out;
* the rest, which is printed behind everything else, under the heading `Other`, are the methods that no section
  names, in the order of the bytes of their names. -/
theorem listMethods_shows_all (registered : List Namespace) (context : Context) (settings : Settings)
    {name : Option String} {spaces : List Namespace} (h : listed? (.ofList registered) name = some spaces) :
    ((listMethods context settings (.ofList registered) name none).code = 0 ∧
      (listMethods context settings (.ofList registered) name none).output =
        String.join ((spaces.flatMap (shownLines settings.coloured)).map (· ++ "\n")) ∧
      (listMethods context settings (.ofList registered) name none).errors = "" ∧
      (listMethods context settings (.ofList registered) name none).files = context.files) ∧
    (name = none → ∀ given ∈ registered, ∃ space ∈ spaces, space.name = given.name) ∧
    ∀ space ∈ spaces,
      space.sections = (under registered space.name).flatMap (·.sections) ∧
      (∀ key, (space.method? key).isSome ↔ ∃ part ∈ under registered space.name, (part.method? key).isSome) ∧
      (∀ listed ∈ space.sections, (space.shownIn listed).map (·.name) =
        listed.methods.filter fun name => (space.method? name).isSome) ∧
      (∀ method ∈ space.shown, method ∈ space.methods.entries) ∧
      (∀ method ∈ space.methods.entries,
        space.shown.filter (·.name == method.name) =
            List.replicate (max 1 (space.mentions method.name)) method ∧
          max 1 (space.mentions method.name) ≤
            (shownLines settings.coloured space).count (shownLine settings.coloured method) ∧
          (StandsOut settings.coloured space method →
            (shownLines settings.coloured space).count (shownLine settings.coloured method) =
              max 1 (space.mentions method.name)) ∧
          (settings.coloured = false → ∃ rest, shownLine settings.coloured method =
            "    " ++ method.home ++ "." ++ method.name ++ "(" ++ rest) ∧
          (method ∈ space.unsectioned ↔ space.mentions method.name = 0)) ∧
      (space.unsectioned ≠ [] → ∃ front, shownLines settings.coloured space =
        front ++ "" :: headingLine settings.coloured "Other" ::
          space.unsectioned.flatMap (shownBlock settings.coloured) ++ [""]) ∧
      space.unsectioned.Pairwise fun first second => Text.bytes first.name < Text.bytes second.name := by
  refine ⟨?_, fun hname given hgiven => ?_, fun space hspace => ?_⟩
  · rw [listMethods_eq h context settings]
    exact ⟨rfl, rfl, rfl, rfl⟩
  · subst hname
    obtain rfl := Option.some.inj h
    exact exists_mem_namespaces hgiven
  · have hmerged : Namespace.mergeAll? (under registered space.name) = some space := by
      rw [← Catalog.get?_ofList_eq]
      exact get?_of_mem_listed h hspace
    refine ⟨Namespace.sections_of_mergeAll? hmerged, Namespace.isSome_method?_of_mergeAll? hmerged,
      fun listed _ => space.map_name_filterMap listed.methods, fun _ => Namespace.mem_of_mem_shown,
      fun method hmethod => ?_, exists_shownLines_eq _, space.pairwise_unsectioned⟩
    have hshown := Namespace.filter_shown hmethod
    refine ⟨hshown, ?_, fun hout => hout.count_shownLines hmethod, fun hplain => ?_, ?_⟩
    · exact (le_count_shownBlock hshown _).trans ((sublist_shownLines _ _).count_le _)
    · rw [hplain]
      exact shownLine_eq_append method
    · rw [Namespace.mem_unsectioned_iff]
      exact and_iff_right hmethod

/-- Two registrations under one name, of which the second has a section for methods of the first. -/
def regrouped : List Namespace :=
  [Namespace.defineAll
      { name := "text", title := "Text",
        sections := [{ key := "a", title := "Ends", methods := ["trim", "gone", "trim"] }] }
      [{ name := "trim" }, { name := "cut" }],
    { name := "text", aliases := ["t"], sections := [{ key := "b", title := "Sizes", methods := ["trim"] }] }]

/-- Under the alias of the second registration, one method is printed three times and the other one among the
rest. -/
theorem listMethods_shows_all_regrouped :
    let context : Context := ⟨[], ⟨[]⟩, .empty, .ofEntries [] []⟩
    let settings : Settings := ⟨32, false, false, {}, ⟨"."⟩⟩
    ∃ space, listed? (.ofList regrouped) (some "t") = some [space] ∧
      space.shown.filter (·.name == "trim") = List.replicate 3 { home := "text", name := "trim" } ∧
      { home := "text", name := "cut" } ∈ space.unsectioned ∧
      (listMethods context settings (.ofList regrouped) (some "t") none).output =
        "Text [text]\n\n  Ends\n    text.trim()\n    text.trim()\n\n  Sizes\n    text.trim()\n\n  Other\n" ++
          "    text.cut()\n\n" ∧
      (shownLines false space).count "    text.trim()" = 3 ∧
      (shownLines false space).count "    text.cut()" = 1 ∧
      (shownLines false space).count "  Other" = 1 := by
  intro context settings
  obtain ⟨space, hspace, htrim, hcut, hthrice, hnever, htitles, hentries, hintro, hlines⟩ :
      ∃ space, (Catalog.ofList regrouped).namespace? "t" = some space ∧
        space.method? "trim" = some { home := "text", name := "trim" } ∧
        space.method? "cut" = some { home := "text", name := "cut" } ∧
        space.mentions "trim" = 3 ∧ space.mentions "cut" = 0 ∧
        space.sections.map (·.title) = ["Ends", "Sizes"] ∧
        space.methods.entries = [{ home := "text", name := "cut" }, { home := "text", name := "trim" }] ∧
        introLines false space = ["Text [text]"] ∧
        shownLines false space = ["Text [text]", "", "  Ends", "    text.trim()", "    text.trim()", "", "  Sizes",
          "    text.trim()", "", "  Other", "    text.cut()", ""] :=
    ⟨_, rfl, by rfl, by rfl, by rfl, by rfl, by rfl, by rfl, by rfl, by rfl⟩
  have hlisted : listed? (.ofList regrouped) (some "t") = some [space] := congrArg (Option.map ([·])) hspace
  obtain ⟨⟨-, houtput, -⟩, -, hspaces⟩ := listMethods_shows_all regrouped context settings hlisted
  obtain ⟨-, -, -, -, hshown, -⟩ := hspaces space List.mem_cons_self
  obtain ⟨htrims, -, hprinted, -⟩ := hshown _ (Keyed.get?_eq_some htrim).1
  obtain ⟨-, -, hprinted', -, hrest⟩ := hshown _ (Keyed.get?_eq_some hcut).1
  have hout (name : String) (hname : name ∈ ["cut", "trim"]) :
      StandsOut false space { home := "text", name := name } := by
    constructor <;> simp only [hintro, htitles, hentries] <;> revert name <;> decide
  refine ⟨space, hlisted, ?_, hrest.2 hnever, ?_, ?_, ?_, ?_⟩
  · rwa [hthrice] at htrims
  · rw [houtput, List.flatMap_singleton, hlines]
    rfl
  · exact (hprinted (hout "trim" (by decide))).trans (by rw [hthrice]; rfl)
  · exact (hprinted' (hout "cut" (by decide))).trans (by rw [hnever]; rfl)
  · rw [hlines]
    decide

end Command

end Interpolation
