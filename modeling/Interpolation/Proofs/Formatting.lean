import Interpolation.Command
import Interpolation.Proofs.Writing
import Mathlib

/-!
# Canonical spelling, shown, checked and written

A canonical spelling is shown, compared with the text or written in its place, and the three agree: what is
shown is what the text is compared with and what the file holds in the end.

That a run does not write to a file cannot be told from the files alone, since what it writes may be what was
there. So writing is made a parameter (`Interpolation.Command.formatBy`), and a run writes nothing if it is the
same for every way of writing (`Interpolation.Command.WritesNothing`). Only one kind of run is not like this: one
that is to write and finds another spelling in a file.
-/

namespace Interpolation.Command

/-! ### Ways of writing -/

/-- Spells a text canonically, by some way of writing to files, which may fail. -/
def formatBy (write : Files → Path → String → Except FileError Files) (context : Context) (settings : Settings)
    (dialect : Dialect) (name : String) (spelling : Spelling) : Outcome :=
  let told (line : String) : String := if settings.quiet then "" else line ++ "\n"
  match context.text name with
  | .error message => .failed context.files settings.coloured message
  | .ok source =>
    match dialect.canonicalize source with
    | .error error => .refused context.files settings.coloured error source
    | .ok canonical =>
      match spelling with
      | .show => .ofOutput context.files canonical
      | .check =>
        if canonical = source then
          .ofOutput context.files (told (tick settings.coloured ++ " " ++ name))
        else
          .failed context.files settings.coloured (name ++ " is not canonical")
      | .write =>
        if name = standardInput then
          .failed context.files settings.coloured "--write needs a file, not stdin"
        else if canonical = source then
          .ofOutput context.files <| told <|
            tick settings.coloured ++ " " ++ name ++ " " ++ Style.faint.paint settings.coloured "(unchanged)"
        else
          match write context.files ⟨name⟩ canonical with
          | .ok files => .ofOutput files (told (tick settings.coloured ++ " rewrote " ++ name))
          | .error reason =>
            .failed context.files settings.coloured ("cannot write " ++ name ++ ": " ++ reason.message)

/-- Writing that always succeeds is the way of the command. -/
theorem format_eq_formatBy : format = formatBy fun files path text => .ok (files.write path text) := rfl

variable {write : Files → Path → String → Except FileError Files} {context : Context} {settings : Settings}
  {dialect : Dialect} {name source canonical : String}

/-- **A run that writes nothing**: it leaves the files as they are, and it is the same for every way of writing. -/
def WritesNothing (context : Context) (settings : Settings) (dialect : Dialect) (name : String)
    (spelling : Spelling) : Prop :=
  (format context settings dialect name spelling).files = context.files ∧
    ∀ write, formatBy write context settings dialect name spelling = format context settings dialect name spelling

/-! ### What a run does -/

/-- Without a canonical spelling, a run fails before it comes to writing. -/
theorem format_without_canonical
    (h : ∀ source canonical, context.text name = .ok source → dialect.canonicalize source ≠ .ok canonical)
    (settings : Settings) (spelling : Spelling) :
    (format context settings dialect name spelling).code ≠ 0 ∧
      WritesNothing context settings dialect name spelling := by
  obtain ⟨outcome, hcode, hfiles, hrun⟩ : ∃ outcome : Outcome, outcome.code ≠ 0 ∧
      outcome.files = context.files ∧
      ∀ write, formatBy write context settings dialect name spelling = outcome := by
    cases htext : context.text name with
    | error message =>
      exact ⟨.failed context.files settings.coloured message, Nat.one_ne_zero, rfl,
        fun write => by rw [formatBy, htext]⟩
    | ok source =>
      cases hcanonical : dialect.canonicalize source with
      | error error =>
        exact ⟨.refused context.files settings.coloured error source, Nat.one_ne_zero, rfl,
          fun write => by simp only [formatBy, htext, hcanonical]⟩
      | ok canonical => exact absurd hcanonical (h source canonical htext)
  have hformat : format context settings dialect name spelling = outcome := by
    rw [format_eq_formatBy]
    exact hrun _
  rw [WritesNothing, hformat]
  exact ⟨hcode, hfiles, hrun⟩

section

variable (htext : context.text name = .ok source) (hcanonical : dialect.canonicalize source = .ok canonical)

include htext hcanonical

theorem format_show :
    (format context settings dialect name .show).code = 0 ∧
      (format context settings dialect name .show).output = canonical ∧
      (format context settings dialect name .show).errors = "" ∧
      (format context settings dialect name .show).files = context.files ∧
      WritesNothing context settings dialect name .show := by
  have hrun (write) : formatBy write context settings dialect name .show = ⟨0, canonical, "", context.files⟩ := by
    simp only [formatBy, htext, hcanonical, Outcome.ofOutput]
  rw [WritesNothing, format_eq_formatBy, hrun]
  exact ⟨rfl, rfl, rfl, rfl, rfl, hrun⟩

theorem format_check :
    ((format context settings dialect name .check).code = 0 ↔ canonical = source) ∧
      WritesNothing context settings dialect name .check := by
  by_cases hsame : canonical = source <;>
    simp [WritesNothing, format, formatBy, htext, hcanonical, hsame, Outcome.ofOutput, Outcome.failed]

theorem format_write_same (hname : name ≠ standardInput) (hsame : canonical = source) :
    (format context settings dialect name .write).code = 0 ∧
      WritesNothing context settings dialect name .write := by
  simp [WritesNothing, format, formatBy, htext, hcanonical, hname, hsame, Outcome.ofOutput]

theorem format_write_other (hname : name ≠ standardInput) (hother : canonical ≠ source) :
    (format context settings dialect name .write).code = 0 ∧
      (format context settings dialect name .write).files = context.files.write ⟨name⟩ canonical := by
  simp [format, htext, hcanonical, hname, hother, Outcome.ofOutput]

end

/-- The standard input is no place to write to. -/
theorem format_write_standardInput (context : Context) (settings : Settings) (dialect : Dialect) :
    (format context settings dialect standardInput .write).code ≠ 0 ∧
      WritesNothing context settings dialect standardInput .write := by
  by_cases h : ∀ source canonical, context.text standardInput = .ok source →
      dialect.canonicalize source ≠ .ok canonical
  · exact format_without_canonical h settings .write
  · push Not at h
    obtain ⟨source, canonical, htext, hcanonical⟩ := h
    simp [WritesNothing, format, formatBy, htext, hcanonical, Outcome.failed]

/-! ### Files -/

/-- The text of a file is what its bytes encode. -/
theorem text_of_resolve {place : List String} {bytes : ByteArray} (hname : name ≠ standardInput)
    (hfile : context.files.resolve ⟨name⟩ = .ok (place, .file bytes)) :
    context.text name = .ok source ↔ bytes = source.toUTF8 := by
  have hread : context.files.read ⟨name⟩ = Files.decode bytes := by
    rw [Files.read, hfile]
    rfl
  rw [Context.text, if_neg hname, hread, ← Files.decode_eq_ok_iff]
  cases Files.decode bytes <;> simp [Except.mapError]

/-- **The canonical spelling of a file is shown, checked and written alike, and only writing changes it.** If the
bytes of the file are those of no text or of one that is refused, every run fails and writes nothing. Otherwise,
one run ends well with the canonical spelling as its whole output, one ends well exactly if the file holds it, and
one ends well with the file holding it. Of these, only the last one writes, to this file alone, and only if it
holds another spelling. The standard input is never written to. -/
theorem format_agrees (context : Context) (settings : Settings) (dialect : Dialect) :
    (∀ (name : String) (place : List String) (bytes : ByteArray), name ≠ "-" →
      context.files.resolve ⟨name⟩ = .ok (place, .file bytes) →
      ((∀ source canonical, bytes = source.toUTF8 → dialect.canonicalize source ≠ .ok canonical) →
        ∀ spelling, (format context settings dialect name spelling).code ≠ 0 ∧
          WritesNothing context settings dialect name spelling) ∧
      ∀ source canonical, bytes = source.toUTF8 → dialect.canonicalize source = .ok canonical →
        ((format context settings dialect name .show).code = 0 ∧
          (format context settings dialect name .show).output = canonical ∧
          (format context settings dialect name .show).errors = "" ∧
          (format context settings dialect name .show).files = context.files ∧
          WritesNothing context settings dialect name .show) ∧
        (((format context settings dialect name .check).code = 0 ↔ canonical = source) ∧
          WritesNothing context settings dialect name .check) ∧
        (format context settings dialect name .write).code = 0 ∧
          context.files.Holding place canonical (format context settings dialect name .write).files ∧
          (format context settings dialect name .write).files.read ⟨name⟩ = .ok canonical ∧
          (canonical = source → WritesNothing context settings dialect name .write)) ∧
    (format context settings dialect "-" .write).code ≠ 0 ∧
      WritesNothing context settings dialect "-" .write := by
  refine ⟨fun name place bytes hname hfile => ⟨fun hnone => ?_, fun source canonical hbytes hcanonical => ?_⟩,
    format_write_standardInput context settings dialect⟩
  · refine format_without_canonical (fun source canonical htext => ?_) settings
    exact hnone source canonical ((text_of_resolve hname hfile).1 htext)
  · have htext := (text_of_resolve hname hfile).2 hbytes
    refine ⟨format_show htext hcanonical, format_check htext hcanonical, ?_⟩
    by_cases hsame : canonical = source
    · obtain ⟨hcode, hnothing⟩ := format_write_same htext hcanonical hname hsame
      have hholds : context.files.Holding place canonical (format context settings dialect name .write).files := by
        rw [hnothing.1, hsame]
        rw [hbytes] at hfile
        exact Files.holding_self (Files.mem_entries_of_resolve hfile rfl)
      exact ⟨hcode, hholds, hholds.read_self hfile, fun _ => hnothing⟩
    · obtain ⟨hcode, hfiles⟩ := format_write_other htext hcanonical hname hsame
      have hholds : context.files.Holding place canonical (format context settings dialect name .write).files := by
        rw [hfiles]
        exact Files.holding_write hfile canonical
      exact ⟨hcode, hholds, hholds.read_self hfile, fun h => absurd h hsame⟩

/-- Three drafts: one to be spelled differently, one in its canonical spelling and one that is refused. -/
def drafts : Files where
  here := ["home"]
  entries := [
    (["home", "a.txt"], .file "{{ x }}".toUTF8),
    (["home", "b.txt"], .file "{{y}}".toUTF8),
    (["home", "c.txt"], .file "\x7b\x7b".toUTF8)]
  distinct := by decide

/-- The first draft is shown in its canonical spelling and ends up in it, the second one is shown as it is and not
written to, and the third one makes the run fail. -/
theorem format_agrees_drafts :
    let context : Context := ⟨[], ⟨[]⟩, .empty, drafts⟩
    let settings : Settings := ⟨32, false, false, {}, ⟨"."⟩⟩
    let dialect : Dialect := ⟨.ofList [], 32⟩
    ((format context settings dialect "a.txt" .show).code = 0 ∧
        (format context settings dialect "a.txt" .show).output = "{{x}}" ∧
        drafts.Holding ["home", "a.txt"] "{{x}}" (format context settings dialect "a.txt" .write).files) ∧
      ((format context settings dialect "b.txt" .show).code = 0 ∧
        (format context settings dialect "b.txt" .show).output = "{{y}}" ∧
        WritesNothing context settings dialect "b.txt" .write) ∧
      (format context settings dialect "c.txt" .write).code ≠ 0 := by
  intro context settings dialect
  have hagrees := (format_agrees context settings dialect).1
  have hfirst : drafts.resolve ⟨"a.txt"⟩ = .ok (["home", "a.txt"], .file "{{ x }}".toUTF8) :=
    (Files.resolve_eq_ok_iff ⟨by decide, by decide, by decide⟩).2 ⟨by cbv, by rfl, fun _ => by cbv⟩
  have hsecond : drafts.resolve ⟨"b.txt"⟩ = .ok (["home", "b.txt"], .file "{{y}}".toUTF8) :=
    (Files.resolve_eq_ok_iff ⟨by decide, by decide, by decide⟩).2 ⟨by cbv, by rfl, fun _ => by cbv⟩
  have hthird : drafts.resolve ⟨"c.txt"⟩ = .ok (["home", "c.txt"], .file "\x7b\x7b".toUTF8) :=
    (Files.resolve_eq_ok_iff ⟨by decide, by decide, by decide⟩).2 ⟨by cbv, by rfl, fun _ => by cbv⟩
  obtain ⟨⟨hcode, houtput, -⟩, -, -, hholds, -⟩ :=
    (hagrees "a.txt" _ _ (by decide) hfirst).2 _ "{{x}}" rfl (by cbv)
  obtain ⟨⟨hcode', houtput', -⟩, -, -, -, -, hnothing⟩ :=
    (hagrees "b.txt" _ _ (by decide) hsecond).2 _ "{{y}}" rfl (by cbv)
  refine ⟨⟨hcode, houtput, hholds⟩, ⟨hcode', houtput', hnothing rfl⟩,
    ((hagrees "c.txt" _ _ (by decide) hthird).1 ?_ .write).1⟩
  intro source canonical hbytes hcanonical
  obtain rfl : "\x7b\x7b" = source := String.toByteArray_inj.1 hbytes
  have hrefused : dialect.canonicalize "\x7b\x7b" = .error ⟨.unmatchedBraces, 0⟩ := by cbv
  cases hrefused.symm.trans hcanonical

end Interpolation.Command
