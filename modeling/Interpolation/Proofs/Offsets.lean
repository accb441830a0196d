import Interpolation.Dialect

/-!
# Reading further on

An offset is carried through every function that reads, and none of them looks at it: it only ends up in the
error, if there is one. So reading a text that starts further on gives the same tree, or the same error that
many bytes further on. A reader with this property is said to translate (`Interpolation.Reader.Translates`),
and one theorem for each function that takes a reader hands it on, up to `Interpolation.readWithin`
(`Interpolation.readWithin_translates`).

What the rest of the theory uses of this is that the offset does not matter to success
(`Interpolation.Reader.Translates.eq_ok_iff`).
-/

namespace Interpolation

/-- The same error, so many bytes further on. -/
def ParseError.shift (bytes : Nat) (error : ParseError) : ParseError :=
  { error with offset := bytes + error.offset }

/-! ### Errors of a computation -/

section MapError

variable {ε ε' α β : Type} (f : ε → ε')

@[simp] theorem mapError_ok (a : α) : (Except.ok a : Except ε α).mapError f = .ok a := rfl

@[simp] theorem mapError_error (e : ε) : (Except.error e : Except ε α).mapError f = .error (f e) := rfl

theorem mapError_bind (x : Except ε α) (g : α → Except ε β) :
    (x >>= g).mapError f = x.mapError f >>= fun a => (g a).mapError f := by
  cases x <;> rfl

theorem mapError_map (x : Except ε α) (g : α → β) : (g <$> x).mapError f = g <$> x.mapError f := by
  cases x <;> rfl

theorem bind_eq_ok_iff {x : Except ε α} {g : α → Except ε β} {b : β} :
    x >>= g = .ok b ↔ ∃ a, x = .ok a ∧ g a = .ok b := by
  cases x with
  | error e => simp [bind, Except.bind]
  | ok a => simp [bind, Except.bind]

theorem map_eq_ok_iff {x : Except ε α} {g : α → β} {b : β} :
    g <$> x = .ok b ↔ ∃ a, x = .ok a ∧ g a = b := by
  cases x <;> simp [Functor.map, Except.map]

theorem bind_eq_error_iff {x : Except ε α} {g : α → Except ε β} {e : ε} :
    x >>= g = .error e ↔ x = .error e ∨ ∃ a, x = .ok a ∧ g a = .error e := by
  cases x with
  | error e' => simp [bind, Except.bind]
  | ok a => simp [bind, Except.bind]

theorem map_eq_error_iff {x : Except ε α} {g : α → β} {e : ε} : g <$> x = .error e ↔ x = .error e := by
  cases x <;> simp [Functor.map, Except.map]

theorem mapError_eq_ok_iff {x : Except ε α} {a : α} : x.mapError f = .ok a ↔ x = .ok a := by
  cases x <;> simp

theorem mapError_eq_error_iff {x : Except ε α} {e : ε'} :
    x.mapError f = .error e ↔ ∃ inner, x = .error inner ∧ f inner = e := by
  cases x <;> simp

theorem mapError_foldlM {step : α → β → Except ε α} {step' : α → β → Except ε' α} {items : List β}
    (h : ∀ a, ∀ b ∈ items, step' a b = (step a b).mapError f) (a : α) :
    items.foldlM step' a = (items.foldlM step a).mapError f := by
  induction items generalizing a with
  | nil => rfl
  | cons b items ih =>
    rw [List.foldlM_cons, List.foldlM_cons, mapError_bind, h a b List.mem_cons_self]
    congr 1
    funext c
    exact ih (fun a b hb => h a b (List.mem_cons_of_mem _ hb)) c

end MapError

/-! ### Readers that translate -/

/-- **A reader translates** if a text that starts so many bytes further on has the same tree, or the same
error so many bytes further on. -/
def Reader.Translates (read : Reader) : Prop :=
  ∀ bytes offset s, read (bytes + offset) s = (read offset s).mapError (ParseError.shift bytes)

/-- What a reader that translates finds does not depend on where the text starts. -/
theorem Reader.Translates.eq_ok_iff {read : Reader} (h : read.Translates) (offset : Nat) {s : List Char}
    {tree : Tree} : read offset s = .ok tree ↔ read 0 s = .ok tree := by
  have := h offset 0 s
  rw [Nat.add_zero] at this
  rw [this, mapError_eq_ok_iff]

/-- An error of a reader that translates is the one that the text has at the beginning, further on. -/
theorem Reader.Translates.eq_error_iff {read : Reader} (h : read.Translates) (offset : Nat) {s : List Char}
    {error : ParseError} :
    read offset s = .error error ↔ ∃ inner, read 0 s = .error inner ∧ inner.shift offset = error := by
  have := h offset 0 s
  rw [Nat.add_zero] at this
  rw [this, mapError_eq_error_iff]

section Translation

variable {read : Reader} (hread : read.Translates)

include hread

theorem value_translates (bytes offset : Nat) (text : List Char) :
    Binding.value read (bytes + offset) text =
      (Binding.value read offset text).mapError (ParseError.shift bytes) := by
  rw [Binding.value, Binding.value, hread]
  split
  · rfl
  · rw [mapError_map]

theorem keyword_translates (bytes offset : Nat) (state : Binding) (word text : List Char) :
    Binding.keyword read state (bytes + offset) word text =
      (Binding.keyword read state offset word text).mapError (ParseError.shift bytes) := by
  rw [Binding.keyword, Binding.keyword]
  split
  · rfl
  · split
    · rfl
    · rw [Nat.add_assoc, Nat.add_assoc, value_translates hread, mapError_bind, ← Nat.add_assoc]
      rfl

theorem next_translates (name : String) (bytes offset : Nat) (state : Binding) (text : List Char) :
    Binding.next read name state (bytes + offset) text =
      (Binding.next read name state offset text).mapError (ParseError.shift bytes) := by
  rw [Binding.next, Binding.next]
  split
  · rw [value_translates hread, mapError_bind]
    rfl
  · rfl

theorem argument_translates (name : String) (bytes start : Nat) (state : Binding) (argument : Argument) :
    Binding.argument read name (bytes + start) state argument =
      (Binding.argument read name start state argument).mapError (ParseError.shift bytes) := by
  rw [Binding.argument, Binding.argument, Nat.add_assoc]
  split
  · exact keyword_translates hread ..
  · exact next_translates hread ..

/-- **A call that starts further on** is the same call, or has the same error further on. -/
theorem bindWith_translates (catalog : Catalog) (bytes callStart listStart : Nat) (qualifier name : String)
    (raw : List Char) :
    bindWith catalog read (bytes + callStart) (bytes + listStart) qualifier name raw =
      (bindWith catalog read callStart listStart qualifier name raw).mapError (ParseError.shift bytes) := by
  rw [bindWith, bindWith]
  split
  · rfl
  · rw [mapError_map, mapError_foldlM _ fun state argument _ => argument_translates hread ..]

theorem readSpan_translates (catalog : Catalog) (bytes offset : Nat) (inner : List Char) :
    readSpan catalog read (bytes + offset) inner =
      (readSpan catalog read offset inner).mapError (ParseError.shift bytes) := by
  rw [readSpan, readSpan]
  split
  · rfl
  · split
    · rfl
    · rw [mapError_map, ← bindWith_translates hread]
      simp only [Nat.add_assoc]

theorem readPieces_translates (catalog : Catalog) (bytes offset : Nat) (pieces : List Piece) :
    readPieces catalog read (bytes + offset) pieces =
      (readPieces catalog read offset pieces).mapError (ParseError.shift bytes) := by
  induction pieces generalizing offset with
  | nil => rfl
  | cons piece rest ih =>
    cases piece with
    | text content =>
      rw [readPieces, readPieces, mapError_bind, Nat.add_assoc, ih]
      rfl
    | span inner =>
      rw [readPieces, readPieces, mapError_bind, readSpan_translates hread]
      congr 1
      funext node
      rw [mapError_bind, ← ih]
      simp only [Nat.add_assoc]
      rfl
    | unclosed behind => rfl

theorem scanWith_translates (catalog : Catalog) : Reader.Translates (scanWith catalog read) := by
  intro bytes offset s
  rw [scanWith, scanWith]
  split
  · rfl
  · exact readPieces_translates hread catalog bytes offset _

end Translation

/-- **Scanning translates**, at every level. -/
theorem readWithin_translates (catalog : Catalog) (limit levels : Nat) :
    Reader.Translates (readWithin catalog limit levels) := by
  induction levels with
  | zero => exact fun _ _ _ => rfl
  | succ levels ih => exact scanWith_translates ih catalog

end Interpolation
