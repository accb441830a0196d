import Interpolation.Dialect
import Interpolation.Proofs.Flags
import Interpolation.Proofs.LineSlices
import Interpolation.Proofs.Pieces
import Interpolation.Proofs.Places
import Interpolation.Proofs.SpanEnds
import Interpolation.Proofs.Spelling

/-!
# Texts by offsets

A text is scanned by offsets: the walk goes from byte to byte to the next opening pair, asks for the end of
its span, cuts out the text in front of it and what stands between the braces, and goes on behind it
(`Interpolation.Guarded.scanFrom`).

What carries the argument is that the offset at which the walk stands is the width of some characters that the
text begins with. The walk passes over whole characters (`Interpolation.Guarded.scanFrom_pass`), and so it
stops at the opening pair that comes next in the text. There the end of the span is the one that the
characters say, all slices are taken (`Interpolation.Guarded.takeSpan_eq`), and behind the span everything
begins anew. So the walk gives what the pieces of the rest give (`Interpolation.Guarded.scanFrom_eq`), at each
level of nesting if it does so at the next one (`Interpolation.Guarded.readWithin_agrees`).

Everything that works with offsets or numbers of slots is put together in
`Interpolation.Guarded.never_traps`.
-/

namespace Interpolation.Guarded

open Text

/-! ### The scanner -/

/-- Reads the content of a span, which starts at the given offset. -/
def classify (catalog : Catalog) (read : Reader) (content : List Char) (offset : Nat) : Except Halt Node :=
  match CallHead.read? content with
  | none =>
    match Node.ofPath? (String.ofList content) with
    | some node => .ok node
    | none => .error (.trap .emptyPath)
  | some head => do
    let rest ← slice content head.width (width content)
    Node.call <$> bindWith catalog read offset (offset + head.width)
      (String.ofList head.qualifier) (String.ofList head.name) { head with rest := rest }.arguments

/-- Reads the span between two offsets of a text that itself starts at the given one. -/
def readSpan (catalog : Catalog) (read : Reader) (offset : Nat) (text : List Char) (start stop : Nat) :
    Except Halt Node := do
  let inner ← slice text (start + 2) (← difference stop 2)
  if (trim inner).isEmpty then
    throw (.fault ⟨.emptyInterpolation, offset + start⟩)
  else
    let bytes ← lead inner
    -- The whole span is cut out for the log.
    let _ ← slice text start stop
    classify catalog read (trim inner) (offset + start + 2 + bytes)

/-- Adds the text between two offsets to a tree. -/
def push (text : List Char) (start stop : Nat) (tree : Tree) : Except Halt Tree := do
  let content ← slice text start stop
  return tree ++ [.text (String.ofList content)]

/-- Adds the span between two offsets to a tree, and the text from the end of the last span to it. -/
def takeSpan (catalog : Catalog) (read : Reader) (offset : Nat) (text : List Char) (last start stop : Nat)
    (tree : Tree) : Except Halt Tree := do
  let tree ← (if last < start then push text last start tree else pure tree)
  let node ← readSpan catalog read offset text start stop
  return tree ++ [node]

/-- Scans a text from an offset on, given the end of the last span and the tree so far. -/
def scanFrom (catalog : Catalog) (read : Reader) (offset : Nat) (text : List Char) (last i : Nat)
    (tree : Tree) : Except Halt Tree :=
  if _inside : i < (encode text).length then do
    if ← startsAt opening (encode text) i then
      match ← spanEnd (encode text) i with
      | none => throw (.fault ⟨.unmatchedBraces, offset + i⟩)
      | some stop =>
        let tree ← takeSpan catalog read offset text last i stop tree
        if _further : i < stop then scanFrom catalog read offset text stop stop tree
        else throw (.trap .standstill)
    else
      scanFrom catalog read offset text last (i + 1) tree
  else if last < (encode text).length || tree.isEmpty then
    push text last (encode text).length tree
  else
    return tree
termination_by (encode text).length - i
decreasing_by all_goals omega

/-- Reads a text, its argument values by a given reader. -/
def scanWith (catalog : Catalog) (read : Reader) : Reader := fun offset text =>
  scanFrom catalog read offset text 0 0 []

/-- Reads a text of which so many levels may be entered. -/
def readWithin (catalog : Catalog) (limit : Nat) : Nat → Reader
  | 0 => fun offset _ => .error (.fault ⟨.tooDeeplyNested limit, offset⟩)
  | levels + 1 => scanWith catalog (readWithin catalog limit levels)

/-- **The tree of a text**, read by offsets. -/
def scan (dialect : Dialect) (text : String) : Except Halt Tree :=
  readWithin dialect.catalog dialect.maxDepth (dialect.maxDepth + 1) 0 text.toList

/-- **The call of a method with the given argument list**, read by offsets. -/
def bind (dialect : Dialect) (qualifier name raw : String) : Except Halt Call :=
  bindWith dialect.catalog (readWithin dialect.catalog dialect.maxDepth dialect.maxDepth) 0 0
    qualifier name raw.toList

/-! ### A single span -/

section Span

variable {guarded : Reader} {read : Interpolation.Reader} (hread : guarded.Agrees read)

include hread

/-- A text that is not empty is classified as without offsets. -/
theorem classify_eq (catalog : Catalog) {content : List Char} (hne : content ≠ []) (offset : Nat) :
    classify catalog guarded content offset =
      Except.mapError .fault (match CallHead.read? content with
        | none => .ok (.variable (String.ofList content))
        | some head =>
          Node.call <$> Interpolation.bindWith catalog read offset (offset + head.width)
            (String.ofList head.qualifier) (String.ofList head.name) head.arguments) := by
  rw [classify]
  cases hhead : CallHead.read? content with
  | none =>
    have hpath : Node.ofPath? (String.ofList content) = some (.variable (String.ofList content)) :=
      if_neg (by simpa using hne)
    dsimp only
    rw [hpath]
    rfl
  | some head =>
    obtain ⟨hcontent, -, -⟩ := CallHead.read?_eq_some_iff.1 hhead
    have hwidth : width head.text + width head.rest = width content := by rw [hcontent, width_append]
    have hrest : slice content head.width (width content) = .ok head.rest :=
      slice_eq_ok_iff.2 ⟨head.text, [], by rw [List.append_nil, ← hcontent], head.width_text, hwidth⟩
    dsimp only
    rw [hrest, ok_bind, bindWith_eq hread, mapError_map]

omit hread in
theorem width_span (inner : List Char) :
    width ('{' :: '{' :: (inner ++ ['}', '}'])) = 2 + (width inner + 2) := by
  rw [width_cons, width_cons, width_append, ← Nat.add_assoc]
  rfl

/-- **A span is read** as without offsets. -/
theorem readSpan_eq (catalog : Catalog) (offset : Nat) {text before inner after : List Char}
    (htext : text = before ++ '{' :: '{' :: (inner ++ '}' :: '}' :: after)) :
    readSpan catalog guarded offset text (width before) (width before + 2 + width inner + 2) =
      (Interpolation.readSpan catalog read (offset + width before) inner).mapError .fault := by
  have hopen : width (before ++ ['{', '{']) = width before + 2 := width_append _ _
  have hinner : slice text (width before + 2) (width before + 2 + width inner) = .ok inner :=
    slice_eq_ok_iff.2 ⟨before ++ ['{', '{'], '}' :: '}' :: after, by simp [htext], hopen, by rw [hopen]⟩
  have hspan : slice text (width before) (width before + 2 + width inner + 2) =
      .ok ('{' :: '{' :: (inner ++ ['}', '}'])) :=
    slice_eq_ok_iff.2 ⟨before, after, by simp [htext], rfl, by rw [width_span]; omega⟩
  rw [readSpan, difference_of_le (Nat.le_add_left _ _), ok_bind, Nat.add_sub_cancel, hinner, ok_bind,
    Interpolation.readSpan]
  cases hempty : (trim inner).isEmpty with
  | true => rfl
  | false =>
    have hne : trim inner ≠ [] := by simpa using hempty
    rw [lead_eq, hspan]
    exact classify_eq hread catalog hne _

end Span

/-! ### From span to span -/

section Scanner

variable {catalog : Catalog} {guarded : Reader} {offset last : Nat} {text before rest : List Char}
  {tree : Tree}

theorem scanFrom_succ {i : Nat} (hi : i < (encode text).length)
    (hopen : ¬opening <+: (encode text).drop i) :
    scanFrom catalog guarded offset text last i tree =
      scanFrom catalog guarded offset text last (i + 1) tree := by
  have hstarts : startsAt opening (encode text) i = .ok false := by
    rw [startsAt, if_pos (Nat.le_of_lt hi), Bool.eq_false_iff.2 (mt List.isPrefixOf_iff_prefix.1 hopen)]
  conv_lhs => rw [scanFrom, dif_pos hi, hstarts]
  rfl

/-- The walk passes over a character with which no pair opens, all its bytes included. -/
theorem scanFrom_pass {c : Char} (htext : text = before ++ c :: rest)
    (hopen : ∀ more, c = '{' → rest ≠ '{' :: more) :
    scanFrom catalog guarded offset text last (width before) tree =
      scanFrom catalog guarded offset text last (width (before ++ [c])) tree := by
  subst htext
  rw [scanFrom_succ (width_lt_length_encode _ _ _) (not_prefix_of_single hopen), width_append, width_cons,
    width_nil]
  refine walk_over_character before rest c (f := fun i => scanFrom _ _ _ _ _ i _) fun i byte hbyte hcont => ?_
  exact scanFrom_succ (List.getElem?_eq_some_iff.1 hbyte).1 (not_prefix_of_isContinuation hbyte hcont).1

/-- **The walk comes to the next opening pair**, or to the end. -/
theorem scanFrom_untilOpen? (htext : text = before ++ rest) :
    scanFrom catalog guarded offset text last (width before) tree =
      scanFrom catalog guarded offset text last
        (width (before ++ ((untilOpen? rest).map Prod.fst).getD rest)) tree := by
  fun_induction untilOpen? rest generalizing before with
  | case1 rest => simp
  | case2 c rest hopen ih =>
    rw [scanFrom_pass htext (fun more h₁ h₂ => hopen more h₁ h₂), ih (by rw [htext, List.append_cons])]
    cases untilOpen? rest <;> simp
  | case3 => simp

/-- What happens at an opening pair. -/
theorem scanFrom_opening {behind : List Char} (htext : text = before ++ '{' :: '{' :: behind) :
    scanFrom catalog guarded offset text last (width before) tree =
      match untilClose? 0 behind with
      | none => .error (.fault ⟨.unmatchedBraces, offset + width before⟩)
      | some (inner, _) =>
        let stop := width before + 2 + width inner + 2
        takeSpan catalog guarded offset text last (width before) stop tree >>=
          scanFrom catalog guarded offset text stop stop := by
  subst htext
  have hopen : opening <+: (encode (before ++ '{' :: '{' :: behind)).drop (width before) :=
    encode_pair_prefix_iff.2 ⟨behind, rfl⟩
  have hi := width_lt_length_encode before ('{' :: behind) '{'
  have hstarts : startsAt opening (encode (before ++ '{' :: '{' :: behind)) (width before) = .ok true := by
    rw [startsAt, if_pos (Nat.le_of_lt hi), List.isPrefixOf_iff_prefix.2 hopen]
  conv_lhs => rw [scanFrom, dif_pos hi, hstarts, ok_bind, if_pos rfl, spanEnd_encode, ok_bind]
  cases untilClose? 0 behind with
  | none => rfl
  | some found =>
    dsimp only [Option.map_some]
    congr 1
    funext tree
    exact dif_pos (by omega)

/-- The text between two spans as nodes: none if there is no text. -/
def literal (content : List Char) : Tree := if content.isEmpty then [] else [.text (String.ofList content)]

theorem readPieces_ofText_append (catalog : Catalog) (read : Interpolation.Reader) (offset : Nat)
    (content : List Char) (pieces : List Piece) :
    readPieces catalog read offset (Piece.ofText content ++ pieces) =
      (literal content ++ ·) <$> readPieces catalog read (offset + width content) pieces := by
  cases content with
  | nil => exact (id_map _).symm
  | cons c content => rfl

/-- At the end of the text what is left of it is added. -/
theorem scanFrom_end (htext : text = before ++ rest) (hne : tree ≠ [] ∨ rest ≠ []) :
    scanFrom catalog guarded offset text (width before) (width text) tree = .ok (tree ++ literal rest) := by
  have hpush : push text (width before) (width text) tree = .ok (tree ++ [.text (String.ofList rest)]) := by
    have hslice : slice text (width before) (width text) = .ok rest :=
      slice_eq_ok_iff.2 ⟨before, [], by rw [List.append_nil, htext], rfl, by rw [htext, width_append]⟩
    rw [push, hslice]
    rfl
  rw [scanFrom, dif_neg (by simp), length_encode, hpush]
  cases rest with
  | nil =>
    have htree : tree.isEmpty = false := by simpa using hne
    have hlast : ¬width before < width text := by simp [htext]
    simp [htree, hlast, literal]
    rfl
  | cons c rest =>
    have hlast : width before < width text := htext ▸ width_lt_append before rest c
    simp [hlast, literal]

section Agreement

variable {read : Interpolation.Reader} (hread : guarded.Agrees read)

include hread

/-- The text in front of a span and the span itself are taken. -/
theorem takeSpan_eq {content inner after : List Char}
    (htext : text = before ++ content ++ '{' :: '{' :: (inner ++ '}' :: '}' :: after)) :
    takeSpan catalog guarded offset text (width before) (width (before ++ content))
        (width (before ++ content) + 2 + width inner + 2) tree =
      ((fun node => tree ++ literal content ++ [node]) <$>
        Interpolation.readSpan catalog read (offset + width (before ++ content)) inner).mapError .fault := by
  have htaken : (if width before < width (before ++ content)
      then push text (width before) (width (before ++ content)) tree else pure tree) =
        .ok (tree ++ literal content) := by
    cases content with
    | nil => simp [literal]; rfl
    | cons c content =>
      have hslice : slice text (width before) (width (before ++ c :: content)) = .ok (c :: content) :=
        slice_eq_ok_iff.2 ⟨before, _, htext, rfl, (width_append _ _).symm⟩
      rw [if_pos (width_lt_append before content c), push, hslice]
      rfl
  rw [takeSpan, htaken, ok_bind, readSpan_eq hread catalog offset htext]
  cases Interpolation.readSpan catalog read (offset + width (before ++ content)) inner with
  | error e => rfl
  | ok node => rfl

/-- **The walk gives what the pieces of the rest give**, behind a span or the beginning of the text. -/
theorem scanFrom_eq (htext : text = before ++ rest) (hne : tree ≠ [] ∨ rest ≠ []) :
    scanFrom catalog guarded offset text (width before) (width before) tree =
      ((tree ++ ·) <$> readPieces catalog read (offset + width before) (Piece.cut rest)).mapError .fault := by
  fun_induction Piece.cut rest generalizing before tree with
  | case1 rest hopen =>
    rw [scanFrom_untilOpen? htext, hopen, Option.map_none, Option.getD_none, ← htext, scanFrom_end htext hne,
      ← List.append_nil (Piece.ofText rest), readPieces_ofText_append, readPieces]
    simp
  | case2 rest content behind hopen ih =>
    obtain ⟨rfl, -, -⟩ := untilOpen?_eq_some_iff.1 hopen
    rw [← List.append_assoc] at htext
    have hoffset : offset + width before + width content = offset + width (before ++ content) := by
      rw [width_append, Nat.add_assoc]
    rw [scanFrom_untilOpen? (htext.trans (List.append_assoc _ _ _)), hopen, Option.map_some, Option.getD_some,
      scanFrom_opening htext, readPieces_ofText_append, hoffset]
    split
    · rename_i hclose
      rw [hclose]
      rfl
    · rename_i inner after hclose
      obtain ⟨rfl, -, -⟩ := untilClose?_eq_some_iff.1 hclose
      rw [hclose]
      dsimp only
      rw [takeSpan_eq hread htext, readPieces]
      cases Interpolation.readSpan catalog read (offset + width (before ++ content)) inner with
      | error e => rfl
      | ok node =>
        have hstop : width (before ++ content) + 2 + width inner + 2 =
            width (before ++ content ++ '{' :: '{' :: (inner ++ ['}', '}'])) := by
          rw [width_append (before ++ content), width_span, Nat.add_assoc, Nat.add_assoc]
        have hne : tree ++ literal content ++ [node] ≠ [] := by simp
        rw [hstop, Nat.add_assoc offset, Nat.add_assoc offset, Nat.add_assoc offset, hstop]
        refine (ih inner after hclose (by simp [htext]) (.inl hne)).trans ?_
        cases readPieces catalog read _ (Piece.cut after) with
        | error e => rfl
        | ok more =>
          have hassoc : tree ++ literal content ++ [node] ++ more =
              tree ++ (literal content ++ node :: more) := by
            simp
          exact congrArg Except.ok hassoc

end Agreement

end Scanner

/-! ### Slots that are written -/

/-- The number of the last slot that holds a value, if there is one. -/
def lastFilled? : List Slot → Option Nat
  | [] => none
  | slot :: rest =>
    match lastFilled? rest with
    | some index => some (index + 1)
    | none => if slot.isFilled then some 0 else none

/-- The slots that are written in the canonical text of a call, cut out by their number. -/
def usedSlots (slots : List Slot) : Except Halt (List Slot) :=
  let count := (lastFilled? slots).elim 0 (· + 1)
  if count ≤ slots.length then .ok (slots.take count) else .error (.trap .outOfRange)

theorem elim_lastFilled? (slots : List Slot) :
    (lastFilled? slots).elim 0 (· + 1) = (Slot.used slots).length := by
  induction slots with
  | nil => rfl
  | cons slot rest ih =>
    rw [lastFilled?]
    cases hrest : rest.any Slot.isFilled with
    | false =>
      rw [Slot.used_of_none hrest] at ih
      cases hlast : lastFilled? rest with
      | some index => simp [hlast] at ih
      | none => cases hslot : slot.isFilled <;> simp [Slot.used, hslot, hrest, Slot.used_of_none hrest]
    | true =>
      obtain ⟨next, more, hused⟩ := Slot.exists_used_of_any hrest
      cases hlast : lastFilled? rest with
      | none => simp [hlast, hused] at ih
      | some index =>
        rw [Slot.used_of_any (by simp [hrest]), List.length_cons, ← ih, hlast]
        rfl

theorem used_prefix_self (slots : List Slot) : Slot.used slots <+: slots := by
  induction slots with
  | nil => exact List.prefix_rfl
  | cons slot rest ih =>
    rw [Slot.used]
    split
    · exact (List.prefix_cons_inj slot).2 ih
    · exact List.nil_prefix

/-- **The slots that are cut out are those up to the last one that holds a value.** -/
theorem usedSlots_eq (slots : List Slot) : usedSlots slots = .ok (Slot.used slots) := by
  have hprefix := used_prefix_self slots
  rw [usedSlots, elim_lastFilled?]
  exact (if_pos hprefix.length_le).trans (congrArg _ (List.prefix_iff_eq_take.1 hprefix).symm)

/-! ### Whole texts -/

theorem scanWith_agrees {guarded : Reader} {read : Interpolation.Reader} (hread : guarded.Agrees read)
    (catalog : Catalog) : Reader.Agrees (scanWith catalog guarded) (Interpolation.scanWith catalog read) := by
  intro offset s
  rw [scanWith, Interpolation.scanWith]
  cases s with
  | nil =>
    have hcut : Piece.cut [] = [] := Piece.cut_of_lacksOpening (by decide)
    rw [hcut, scanFrom]
    rfl
  | cons c s =>
    have hscan : scanFrom catalog guarded offset (c :: s) 0 0 [] =
        (([] ++ ·) <$> readPieces catalog read (offset + 0) (Piece.cut (c :: s))).mapError .fault :=
      scanFrom_eq hread (List.nil_append _).symm (.inr (List.cons_ne_nil c s))
    rw [hscan]
    cases hcut : Piece.cut (c :: s) with
    | nil =>
      have hsources := (Piece.cut_spec (c :: s)).1
      rw [hcut] at hsources
      cases hsources
    | cons piece pieces => exact congrArg _ (id_map _)

/-- **Texts are read alike**, to whatever depth. -/
theorem readWithin_agrees (catalog : Catalog) (limit levels : Nat) :
    Reader.Agrees (readWithin catalog limit levels) (Interpolation.readWithin catalog limit levels) := by
  induction levels with
  | zero => exact fun _ _ => rfl
  | succ levels ih => exact scanWith_agrees ih catalog

theorem mapError_fault_ne_trap {α : Type} (result : Except ParseError α) (trap : Trap) :
    result.mapError Halt.fault ≠ .error (.trap trap) := by
  cases result <;> simp

/-- **No input makes the program halt.** Whatever the catalog and the limit on nesting,

* every text is scanned by offsets, and every call bound, with the same result as without them, an error
  being a fault of the text: all slices are within the text and between characters, no difference is
  negative, every keyword has its flag and no variable an empty path;
* so is every argument list split, and the depth along it, which alone may go below zero, is never more than
  the characters read so far;
* the place of every error is found in every text, whether its offset is in the text or not;
* the slots that the canonical text of a call needs are a slice of them;
* on any bytes, the end of a span is at least four bytes behind its start and not beyond the end. -/
theorem never_traps :
    (∀ (dialect : Dialect) (text : String), scan dialect text = (dialect.scan text).mapError .fault ∧
      ∀ trap, scan dialect text ≠ .error (.trap trap)) ∧
    (∀ (dialect : Dialect) (qualifier name raw : String),
      bind dialect qualifier name raw = (dialect.bind qualifier name raw).mapError .fault ∧
      ∀ trap, bind dialect qualifier name raw ≠ .error (.trap trap)) ∧
    (∀ raw : String, split raw.toList = .ok (ArgumentList.split raw.toList) ∧
      ∀ before, before <+: raw.toList → (Nesting.outside.walk before).depth.natAbs ≤ before.length) ∧
    (∀ (source : String) (error : ParseError),
      locate source.toList error.offset = .ok (Text.locate source.toList error.offset)) ∧
    (∀ slots : List Slot, List.map Slot.render <$> usedSlots slots = .ok (Slot.renderUsed slots)) ∧
    ∀ (bytes : List UInt8) (start : Nat),
      ∃ found, spanEnd bytes start = .ok found ∧ ∀ stop ∈ found, start + 4 ≤ stop ∧ stop ≤ bytes.length := by
  have hscan (dialect : Dialect) (text : String) : scan dialect text = (dialect.scan text).mapError .fault :=
    readWithin_agrees dialect.catalog dialect.maxDepth (dialect.maxDepth + 1) 0 text.toList
  have hbind (dialect : Dialect) (qualifier name raw : String) :
      bind dialect qualifier name raw = (dialect.bind qualifier name raw).mapError .fault :=
    bindWith_eq (readWithin_agrees dialect.catalog dialect.maxDepth dialect.maxDepth) _ 0 0 qualifier name
      raw.toList
  refine ⟨fun dialect text => ⟨hscan dialect text, fun trap => ?_⟩,
    fun dialect qualifier name raw => ⟨hbind dialect qualifier name raw, fun trap => ?_⟩,
    fun raw => ⟨split_eq raw.toList, fun before _ => ?_⟩,
    fun source error => locate_eq source.toList error.offset, fun slots => ?_, spanEnd_total⟩
  · rw [hscan]
    exact mapError_fault_ne_trap _ trap
  · rw [hbind]
    exact mapError_fault_ne_trap _ trap
  · exact (Nesting.natAbs_depth_walk_le .outside before).trans_eq (Nat.zero_add _)
  · rw [usedSlots_eq, Slot.renderUsed_eq]
    rfl

end Interpolation.Guarded
