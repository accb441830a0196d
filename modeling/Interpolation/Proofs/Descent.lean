import Interpolation.Proofs.FixedPoint
import Interpolation.Proofs.Limits
import Interpolation.Proofs.TextSlices

/-!
# Going down with an offset and a depth

A scanner that goes down into the values of a text takes two numbers along: the offset at which the value
starts in the outermost text, and how deep in it the value is. The depth is counted upwards and compared with
the limit, which stays the same (`Interpolation.Guarded.scanAt`).

Neither of the two numbers decides what is read. That a limit is counted from some depth on only means that so
many levels less are left (`Interpolation.Guarded.scanAt_eq_readWithin`), and with these left the offset and
the limit end up in the error and nowhere else. So a value is scanned like a text of its own under what is left
of the limit, and its error is raised: it lies further on, and if it is about nesting it names the whole limit
(`Interpolation.ParseError.RaisedTo`). The same holds of a call, whose two offsets are moved together
(`Interpolation.Guarded.scanAt_raises`).
-/

namespace Interpolation

/-! ### Raising an error -/

/-- **An error of a value, as it is reported of the text around it**: so many bytes further on, with the same
fault, unless this is that the limit left to the value is exceeded, when the limit of the text is named. -/
structure ParseError.RaisedTo (error : ParseError) (bytes inner outer : Nat) (raised : ParseError) : Prop where
  /-- The place is further on. -/
  offset : raised.offset = bytes + error.offset
  /-- The fault is the same, but for the limit that it names. -/
  fault : (error.fault = .tooDeeplyNested inner ∧ raised.fault = .tooDeeplyNested outer) ∨
    (¬error.fault.IsTooDeep ∧ raised.fault = error.fault)

/-- An error that names the limit of its text is raised to one error only. -/
theorem ParseError.raisedTo_iff {error raised : ParseError} {inner : Nat} (h : error.withLimit inner = error)
    (bytes outer : Nat) : error.RaisedTo bytes inner outer raised ↔ raised = (error.withLimit outer).shift bytes := by
  obtain ⟨fault, offset⟩ := error
  obtain ⟨raisedFault, raisedOffset⟩ := raised
  have hfault : fault.withLimit inner = fault := congrArg ParseError.fault h
  constructor
  · rintro ⟨hoffset, ⟨hdeep, hraised⟩ | ⟨hdeep, hraised⟩⟩
    · dsimp only at hoffset hdeep hraised
      rw [hoffset, hraised, hdeep]
      rfl
    · rw [ParseError.withLimit_eq_self hdeep]
      dsimp only at hoffset hraised
      rw [hoffset, hraised]
      rfl
  · intro heq
    obtain ⟨rfl, rfl⟩ := ParseError.mk.inj heq
    refine ⟨rfl, ?_⟩
    by_cases hdeep : fault.IsTooDeep
    · obtain ⟨limit, rfl⟩ := hdeep
      exact Or.inl ⟨hfault.symm, rfl⟩
    · have hsame : ParseError.withLimit outer ⟨fault, offset⟩ = ⟨fault, offset⟩ :=
        ParseError.withLimit_eq_self hdeep outer
      have hfault : fault.withLimit outer = fault := congrArg ParseError.fault hsame
      exact Or.inr ⟨hdeep, hfault⟩

namespace Guarded

/-! ### Scanning at a depth -/

/-- **Scans a text at a depth**, which is compared with the limit first. -/
def scanAt (catalog : Catalog) (limit depth : Nat) : Reader := fun offset text =>
  if _within : depth ≤ limit then
    scanWith catalog (scanAt catalog limit (depth + 1)) offset text
  else
    .error (.fault ⟨.tooDeeplyNested limit, offset⟩)
termination_by limit + 1 - depth

/-- **Binds a call at a depth**: its values are one level further down. -/
def bindAt (catalog : Catalog) (limit depth callStart listStart : Nat) (qualifier name : String)
    (raw : List Char) : Except Halt Call :=
  bindWith catalog (scanAt catalog limit (depth + 1)) callStart listStart qualifier name raw

/-- **Counting upwards to a limit is counting down the levels that are left.** -/
theorem scanAt_eq_readWithin (catalog : Catalog) {limit depth levels : Nat} (h : depth + levels = limit + 1) :
    scanAt catalog limit depth = readWithin catalog limit levels := by
  induction levels generalizing depth with
  | zero =>
    funext offset text
    rw [scanAt, dif_neg (by omega)]
    rfl
  | succ levels ih =>
    funext offset text
    rw [scanAt, dif_pos (by omega), ih (by omega)]
    rfl

/-- A dialect scans at depth zero. -/
theorem scan_eq_scanAt (catalog : Catalog) (limit : Nat) (text : String) :
    scan ⟨catalog, limit⟩ text = scanAt catalog limit 0 0 text.toList := by
  rw [scanAt_eq_readWithin catalog (Nat.zero_add (limit + 1))]
  rfl

/-- It binds a call there, with both of its parts at the beginning. -/
theorem bind_eq_bindAt (catalog : Catalog) (limit : Nat) (qualifier name raw : String) :
    bind ⟨catalog, limit⟩ qualifier name raw = bindAt catalog limit 0 0 0 qualifier name raw.toList := by
  rw [bindAt, scanAt_eq_readWithin catalog (Nat.add_comm (0 + 1) limit)]
  rfl

/-! ### Raising an outcome -/

/-- **The outcome of a value, as it is in the text around it**: the same result, or the error raised. Neither
of them halts. -/
structure Raises {α : Type} (bytes inner outer : Nat) (own raised : Except Halt α) : Prop where
  /-- The results are the same. -/
  ok : ∀ result, raised = .ok result ↔ own = .ok result
  /-- The errors are errors of texts, and the second one is the first one raised. -/
  error : ∀ halt, raised = .error halt ↔ ∃ error seen, own = .error (.fault error) ∧ halt = .fault seen ∧
    error.RaisedTo bytes inner outer seen

/-- An outcome that names no limit but its own is raised by moving its error and naming the other limit. -/
theorem raises_mapError {α : Type} {own : Except ParseError α} {inner : Nat}
    (h : own = own.mapError (ParseError.withLimit inner)) (bytes outer : Nat) :
    Raises bytes inner outer (own.mapError .fault)
      (((own.mapError (ParseError.withLimit outer)).mapError (ParseError.shift bytes)).mapError .fault) := by
  cases own with
  | ok result => exact ⟨fun other => Iff.rfl, by simp⟩
  | error error =>
    have hlimit : error.withLimit inner = error := (Except.error.inj h).symm
    refine ⟨by simp, fun halt => ?_⟩
    simp only [mapError_error, Except.error.injEq, Halt.fault.injEq]
    constructor
    · rintro rfl
      exact ⟨error, _, rfl, rfl, (ParseError.raisedTo_iff hlimit bytes outer).2 rfl⟩
    · rintro ⟨_, seen, rfl, rfl, hraised⟩
      rw [(ParseError.raisedTo_iff hlimit bytes outer).1 hraised]

section Levels

variable (catalog : Catalog) (inner outer bytes : Nat)

/-- A call bound within the levels that are left, under the one limit or the other. -/
theorem bindWith_withLimit (levels callStart listStart : Nat) (qualifier name : String) (raw : List Char) :
    Interpolation.bindWith catalog (Interpolation.readWithin catalog outer levels) callStart listStart qualifier
        name raw =
      (Interpolation.bindWith catalog (Interpolation.readWithin catalog inner levels) callStart listStart
        qualifier name raw).mapError (ParseError.withLimit outer) :=
  (Comparison.withLimit outer).bindWith_related (readWithin_withLimit catalog inner outer levels) catalog
    callStart listStart qualifier name raw

theorem readWithin_raises (levels : Nat) (text : List Char) :
    Raises bytes inner outer (readWithin catalog inner levels 0 text)
      (readWithin catalog outer levels bytes text) := by
  rw [readWithin_agrees, readWithin_agrees, ← Nat.add_zero bytes, readWithin_translates,
    readWithin_withLimit catalog inner outer]
  exact raises_mapError (readWithin_withLimit catalog inner inner levels 0 text) _ outer

theorem bindWith_raises (levels callStart listStart : Nat) (qualifier name : String) (raw : List Char) :
    Raises bytes inner outer
      (bindWith catalog (readWithin catalog inner levels) callStart listStart qualifier name raw)
      (bindWith catalog (readWithin catalog outer levels) (bytes + callStart) (bytes + listStart) qualifier name
        raw) := by
  rw [bindWith_eq (readWithin_agrees catalog inner levels), bindWith_eq (readWithin_agrees catalog outer levels),
    bindWith_translates (readWithin_translates catalog outer levels),
    bindWith_withLimit catalog inner outer]
  exact raises_mapError (bindWith_withLimit catalog inner inner levels callStart listStart qualifier name raw)
    bytes outer

end Levels

/-- **Offset and depth only move the outcome.** At a depth within the limit, and from any offset on,

* a text is scanned as it is by itself, from the beginning and under what is left of the limit: to the same
  tree, or to an error with the same fault, so many bytes further on, in which the whole limit is named;
* so is a call bound, wherever its head and its list start, when both are moved by the same number of bytes;
  by itself, both start at the beginning. -/
theorem scanAt_raises (catalog : Catalog) {limit depth : Nat} (h : depth ≤ limit) (bytes : Nat) :
    (∀ text : String, Raises bytes (limit - depth) limit (scan ⟨catalog, limit - depth⟩ text)
      (scanAt catalog limit depth bytes text.toList)) ∧
    (∀ (callStart listStart : Nat) (qualifier name : String) (raw : List Char),
      Raises bytes (limit - depth) limit
        (bindAt catalog (limit - depth) 0 callStart listStart qualifier name raw)
        (bindAt catalog limit depth (bytes + callStart) (bytes + listStart) qualifier name raw)) ∧
    ∀ qualifier name raw : String, Raises bytes (limit - depth) limit
      (bind ⟨catalog, limit - depth⟩ qualifier name raw)
      (bindAt catalog limit depth bytes bytes qualifier name raw.toList) := by
  have hbind (callStart listStart : Nat) (qualifier name : String) (raw : List Char) :
      Raises bytes (limit - depth) limit
        (bindAt catalog (limit - depth) 0 callStart listStart qualifier name raw)
        (bindAt catalog limit depth (bytes + callStart) (bytes + listStart) qualifier name raw) := by
    have hvalues : scanAt catalog limit (depth + 1) = readWithin catalog limit (limit - depth) :=
      scanAt_eq_readWithin catalog (by omega)
    have hown : scanAt catalog (limit - depth) (0 + 1) = readWithin catalog (limit - depth) (limit - depth) :=
      scanAt_eq_readWithin catalog (by omega)
    rw [bindAt, bindAt, hvalues, hown]
    exact bindWith_raises ..
  refine ⟨fun text => ?_, hbind, fun qualifier name raw => ?_⟩
  · have htext : scanAt catalog limit depth = readWithin catalog limit (limit - depth + 1) :=
      scanAt_eq_readWithin catalog (by omega)
    have hown : scanAt catalog (limit - depth) 0 = readWithin catalog (limit - depth) (limit - depth + 1) :=
      scanAt_eq_readWithin catalog (by omega)
    rw [scan_eq_scanAt, htext, hown]
    exact readWithin_raises ..
  · rw [bind_eq_bindAt]
    exact hbind 0 0 qualifier name raw.toList

/-- One level down, a text that needs the two levels left of three has its tree, and one with an unknown keyword
its error a hundred bytes further on; two levels down, where none is left of two, the limit of two is named. -/
theorem scanAt_raises_joining :
    scanAt Dialect.joining.catalog 3 1 100 "Hi {{ text.join( by=-, {{a }},{{text.join(,b)}} }}".toList =
        .ok Dialect.joined ∧
      scanAt Dialect.joining.catalog 3 1 100 "{{text.join(with=a)}}".toList =
        .error (.fault ⟨.unknownKeyword "with", 112⟩) ∧
      bindAt Dialect.joining.catalog 2 2 100 112 "text" "join" "a".toList =
        .error (.fault ⟨.tooDeeplyNested 2, 112⟩) := by
  have hjoined : scan ⟨Dialect.joining.catalog, 3 - 1⟩ "Hi {{ text.join( by=-, {{a }},{{text.join(,b)}} }}" =
      .ok Dialect.joined := by
    rw [scan, readWithin_agrees, mapError_eq_ok_iff]
    exact Dialect.scan_joined
  have hunknown : scan ⟨Dialect.joining.catalog, 3 - 1⟩ "{{text.join(with=a)}}" =
      .error (.fault ⟨.unknownKeyword "with", 12⟩) := by
    rw [scan, readWithin_agrees]
    cbv
  have hdeep : bindAt Dialect.joining.catalog (2 - 2) 0 0 12 "text" "join" "a".toList =
      .error (.fault ⟨.tooDeeplyNested (2 - 2), 12⟩) := by
    rw [bindAt, @scanAt_eq_readWithin _ _ _ 0 rfl, bindWith_eq (readWithin_agrees _ _ _)]
    cbv
  obtain ⟨hscan, -⟩ := scanAt_raises Dialect.joining.catalog (by decide : 1 ≤ 3) 100
  obtain ⟨-, hbind, -⟩ := scanAt_raises Dialect.joining.catalog (by decide : 2 ≤ 2) 100
  refine ⟨((hscan _).ok _).2 hjoined, ((hscan _).error _).2 ?_, ((hbind 0 12 _ _ _).error _).2 ?_⟩
  · exact ⟨_, _, hunknown, rfl, rfl, .inr ⟨by simp [Fault.IsTooDeep], rfl⟩⟩
  · exact ⟨_, _, hdeep, rfl, rfl, .inl ⟨rfl, rfl⟩⟩

end Guarded

end Interpolation
