import Interpolation.Proofs.Grammar

/-!
# Reading under another limit

The limit on nesting is counted down from value to value and is looked at where nothing is left of it. So it
can change the outcome of reading in two ways: the error that is met there names the limit, and with fewer
levels left it is met where there was no error before, or another one further on.

Both are comparisons of two readers, and the way from the readers to the scanners over them is the same. A
`Interpolation.Comparison` is a relation between outcomes that goes along with doing one thing after the other
and puts no condition on errors other than this one. It passes from values to calls
(`Interpolation.Comparison.bindWith_related`) and from calls to whole texts
(`Interpolation.Comparison.scanWith_related`), whatever it says. Two instances are used here:

* under another limit for the error to name, and as many levels, there is the same outcome, with the other
  limit named (`Interpolation.readWithin_withLimit`);
* with fewer levels, there is the same outcome or the error that these are too few
  (`Interpolation.readWithin_unlessTooDeep`).

The values of a text are therefore the texts of a dialect with a lower limit
(`Interpolation.Dialect.values_eq_inner`).
-/

namespace Interpolation

/-- The fault is that arguments are nested too deeply. -/
def Fault.IsTooDeep (fault : Fault) : Prop := ∃ limit, fault = .tooDeeplyNested limit

/-! ### Comparing outcomes -/

/-- **A comparison of outcomes** that goes along with doing one thing after the other. -/
structure Comparison where
  /-- The outcomes that are compared, one of either reader. -/
  Related : {α : Type} → Except ParseError α → Except ParseError α → Prop
  /-- A result is related to itself. -/
  ok : ∀ {α : Type} (a : α), Related (.ok a) (.ok a)
  /-- An error is related to itself unless it is about nesting. -/
  error : ∀ {α : Type} (e : ParseError), ¬e.fault.IsTooDeep → Related (α := α) (.error e) (.error e)
  /-- What comes after related outcomes may be related too. -/
  bind : ∀ {α β : Type} {x y : Except ParseError α} {f g : α → Except ParseError β},
    Related x y → (∀ a, Related (f a) (g a)) → Related (x >>= f) (y >>= g)

namespace Comparison

variable (comparison : Comparison)

theorem map_related {α β : Type} {x y : Except ParseError α} (h : comparison.Related x y) (f : α → β) :
    comparison.Related (f <$> x) (f <$> y) := by
  have hmap (z : Except ParseError α) : f <$> z = z >>= fun a => .ok (f a) := by
    cases z <;> rfl
  rw [hmap, hmap]
  exact comparison.bind h fun a => comparison.ok (f a)

theorem foldlM_related {α β : Type} {step step' : α → β → Except ParseError α} {items : List β}
    (h : ∀ a, ∀ b ∈ items, comparison.Related (step a b) (step' a b)) (a : α) :
    comparison.Related (items.foldlM step a) (items.foldlM step' a) := by
  induction items generalizing a with
  | nil => exact comparison.ok a
  | cons b items ih =>
    rw [List.foldlM_cons, List.foldlM_cons]
    exact comparison.bind (h a b List.mem_cons_self) fun next =>
      ih (fun a b hb => h a b (List.mem_cons_of_mem _ hb)) next

section Readers

variable {read read' : Reader} (hread : ∀ offset s, comparison.Related (read offset s) (read' offset s))

include hread

theorem value_related (offset : Nat) (text : List Char) :
    comparison.Related (Binding.value read offset text) (Binding.value read' offset text) := by
  rw [Binding.value, Binding.value]
  split
  · exact comparison.ok none
  · exact comparison.map_related (hread offset text) some

theorem keyword_related (state : Binding) (offset : Nat) (word text : List Char) :
    comparison.Related (Binding.keyword read state offset word text)
      (Binding.keyword read' state offset word text) := by
  rw [Binding.keyword, Binding.keyword]
  split
  · exact comparison.error _ (by simp [Fault.IsTooDeep])
  · split
    · exact comparison.error _ (by simp [Fault.IsTooDeep])
    · exact comparison.bind (comparison.value_related hread _ text) fun found => comparison.ok _

theorem next_related (name : String) (state : Binding) (offset : Nat) (text : List Char) :
    comparison.Related (Binding.next read name state offset text)
      (Binding.next read' name state offset text) := by
  rw [Binding.next, Binding.next]
  split
  · exact comparison.bind (comparison.value_related hread offset text) fun found => comparison.ok _
  · exact comparison.error _ (by simp [Fault.IsTooDeep])

theorem argument_related (name : String) (start : Nat) (state : Binding) (argument : Argument) :
    comparison.Related (Binding.argument read name start state argument)
      (Binding.argument read' name start state argument) := by
  rw [Binding.argument, Binding.argument]
  split
  · exact comparison.keyword_related hread ..
  · exact comparison.next_related hread ..

theorem foldlM_argument_related (name : String) (start : Nat) (state : Binding) (arguments : List Argument) :
    comparison.Related (arguments.foldlM (Binding.argument read name start) state)
      (arguments.foldlM (Binding.argument read' name start) state) :=
  comparison.foldlM_related (fun state argument _ =>
    comparison.argument_related hread name start state argument) state

theorem bindWith_related (catalog : Catalog) (callStart listStart : Nat) (qualifier name : String)
    (raw : List Char) :
    comparison.Related (bindWith catalog read callStart listStart qualifier name raw)
      (bindWith catalog read' callStart listStart qualifier name raw) := by
  rw [bindWith, bindWith]
  split
  · exact comparison.error _ (by simp [Fault.IsTooDeep])
  · exact comparison.map_related (comparison.foldlM_argument_related hread ..) _

end Readers

section Calls

variable {catalog catalog' : Catalog} {read read' : Reader}
  (hbind : ∀ callStart listStart qualifier name raw,
    comparison.Related (bindWith catalog read callStart listStart qualifier name raw)
      (bindWith catalog' read' callStart listStart qualifier name raw))

include hbind

theorem readSpan_related (offset : Nat) (inner : List Char) :
    comparison.Related (readSpan catalog read offset inner) (readSpan catalog' read' offset inner) := by
  rw [readSpan, readSpan]
  split
  · exact comparison.error _ (by simp [Fault.IsTooDeep])
  · split
    · exact comparison.ok _
    · exact comparison.map_related (hbind ..) _

theorem readPieces_related (offset : Nat) (pieces : List Piece) :
    comparison.Related (readPieces catalog read offset pieces)
      (readPieces catalog' read' offset pieces) := by
  induction pieces generalizing offset with
  | nil => exact comparison.ok []
  | cons piece rest ih =>
    cases piece with
    | text content =>
      rw [readPieces, readPieces]
      exact comparison.bind (ih _) fun tree => comparison.ok _
    | span inner =>
      rw [readPieces, readPieces]
      exact comparison.bind (comparison.readSpan_related hbind offset inner) fun node =>
        comparison.bind (ih _) fun tree => comparison.ok _
    | unclosed behind => exact comparison.error _ (by simp [Fault.IsTooDeep])

/-- **What holds of the calls of two scanners holds of the scanners.** -/
theorem scanWith_related (offset : Nat) (s : List Char) :
    comparison.Related (scanWith catalog read offset s) (scanWith catalog' read' offset s) := by
  rw [scanWith, scanWith]
  split
  · exact comparison.ok _
  · exact comparison.readPieces_related hbind offset _

end Calls

end Comparison

/-! ### The limit that an error names -/

/-- The same fault, with another limit named. -/
def Fault.withLimit (limit : Nat) : Fault → Fault
  | .tooDeeplyNested _ => .tooDeeplyNested limit
  | fault => fault

/-- The same error, with another limit named. -/
def ParseError.withLimit (limit : Nat) (error : ParseError) : ParseError :=
  { error with fault := error.fault.withLimit limit }

/-- Only errors about nesting name a limit. -/
theorem ParseError.withLimit_eq_self {error : ParseError} (h : ¬error.fault.IsTooDeep) (limit : Nat) :
    error.withLimit limit = error := by
  obtain ⟨fault, offset⟩ := error
  cases fault with
  | tooDeeplyNested found => exact absurd ⟨found, rfl⟩ h
  | _ => rfl

/-- The outcomes are the same but for the limit that an error names. -/
def Comparison.withLimit (limit : Nat) : Comparison where
  Related x y := y = x.mapError (ParseError.withLimit limit)
  ok _ := rfl
  error e he := by rw [mapError_error, ParseError.withLimit_eq_self he]
  bind hxy hfg := by
    rw [mapError_bind, hxy]
    congr 1
    funext a
    exact hfg a

/-- **The limit only ends up in the error**, since what is counted is the levels that are left. -/
theorem readWithin_withLimit (catalog : Catalog) (limit other levels offset : Nat) (s : List Char) :
    readWithin catalog other levels offset s =
      (readWithin catalog limit levels offset s).mapError (ParseError.withLimit other) := by
  induction levels generalizing offset s with
  | zero => rfl
  | succ levels ih =>
    have hcalls := (Comparison.withLimit other).bindWith_related ih catalog
    exact (Comparison.withLimit other).scanWith_related hcalls offset s

/-! ### Fewer levels -/

/-- The first outcome is the second, or the error that arguments are nested too deeply. -/
def Comparison.unlessTooDeep (limit : Nat) : Comparison where
  Related x y := x = y ∨ ∃ offset, x = .error ⟨.tooDeeplyNested limit, offset⟩
  ok _ := Or.inl rfl
  error _ _ := Or.inl rfl
  bind := by
    rintro α β x y f g (rfl | ⟨offset, rfl⟩) hfg
    · cases x with
      | error e => exact Or.inl rfl
      | ok a => exact hfg a
    · exact Or.inr ⟨offset, rfl⟩

/-- **Fewer levels change nothing unless they are too few.** -/
theorem readWithin_unlessTooDeep (catalog : Catalog) (limit : Nat) {levels more : Nat} (h : levels ≤ more)
    (offset : Nat) (s : List Char) :
    readWithin catalog limit levels offset s = readWithin catalog limit more offset s ∨
      ∃ place, readWithin catalog limit levels offset s = .error ⟨.tooDeeplyNested limit, place⟩ := by
  induction levels generalizing more offset s with
  | zero => exact Or.inr ⟨offset, rfl⟩
  | succ levels ih =>
    obtain ⟨more, rfl⟩ := Nat.exists_eq_add_of_le h
    rw [Nat.add_right_comm]
    have hvalues := ih (Nat.le_add_right levels more)
    have hcalls := (Comparison.unlessTooDeep limit).bindWith_related hvalues catalog
    exact (Comparison.unlessTooDeep limit).scanWith_related hcalls offset s

/-! ### Values as texts -/

/-- **The reader of values, by dialects**: a value is a text of the dialect in which one level less may be
entered, and there is no such dialect for one in which none may be. An error names the limit of the text that
the value is part of. -/
def Dialect.inner (dialect : Dialect) : Reader := fun offset s =>
  match dialect.maxDepth with
  | 0 => .error ⟨.tooDeeplyNested 0, offset⟩
  | depth + 1 =>
    ({ catalog := dialect.catalog, maxDepth := depth : Dialect }.scan (String.ofList s)).mapError fun error =>
      (error.withLimit (depth + 1)).shift offset

theorem Dialect.values_eq_inner (dialect : Dialect) : dialect.values = dialect.inner := by
  funext offset s
  obtain ⟨catalog, maxDepth⟩ := dialect
  cases maxDepth with
  | zero => rfl
  | succ depth =>
    calc readWithin catalog (depth + 1) (depth + 1) offset s
        = (readWithin catalog (depth + 1) (depth + 1) 0 s).mapError (ParseError.shift offset) :=
          readWithin_translates catalog (depth + 1) (depth + 1) offset 0 s
      _ = ((readWithin catalog depth (depth + 1) 0 s).mapError (ParseError.withLimit (depth + 1))).mapError
            (ParseError.shift offset) := by rw [readWithin_withLimit catalog depth]
      _ = inner ⟨catalog, depth + 1⟩ offset s := by
          simp only [inner, scan, String.toList_ofList]
          cases readWithin catalog depth (depth + 1) 0 s <;> rfl

end Interpolation
