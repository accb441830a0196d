import Interpolation.Syntax.Head
import Mathlib.Data.List.TakeWhile

/-!
# What the two readers of beginnings recognize

A call head and a keyword are both read from the left by runs of word characters. This file states what they
recognize without those runs: a text has a head exactly when it is a word, a dot, a method name, an opening
parenthesis and anything (`Interpolation.CallHead.read?_eq_some_iff`), and it has a keyword exactly when it is
a word, an equals sign and anything (`Interpolation.keyword?_eq_some_iff`). A method name is one or more words
with single hyphens between them (`Interpolation.isMethodName_iff`).

Both depend on the beginning of the text only, so that what may be put behind a text without changing whether
it has a keyword is anything that starts with no character of one (`Interpolation.keyword?_append_eq_none`).
-/

namespace Interpolation

/-! ### Runs of characters -/

section Runs

variable {p : Char → Bool} {s t : List Char} {c : Char}

theorem takeWhile_append_cons (hs : ∀ d ∈ s, p d = true) (hc : p c = false) :
    (s ++ c :: t).takeWhile p = s := by
  rw [List.takeWhile_append_of_pos hs, List.takeWhile_cons_of_neg (by simp [hc]), List.append_nil]

theorem dropWhile_append_cons (hs : ∀ d ∈ s, p d = true) (hc : p c = false) :
    (s ++ c :: t).dropWhile p = c :: t := by
  rw [List.dropWhile_append_of_pos hs, List.dropWhile_cons_of_neg (by simp [hc])]

end Runs

theorem isWord_iff {s : List Char} : isWord s = true ↔ s ≠ [] ∧ ∀ c ∈ s, isWordChar c = true := by
  simp [isWord]

/-! ### Method names -/

/-- **A method name** is one or more words with single hyphens between them. -/
def Hyphenated (name : List Char) : Prop :=
  ∃ words : List (List Char), words ≠ [] ∧ (∀ word ∈ words, isWord word = true) ∧
    name = ['-'].intercalate words

/-- Carrying on a name: a possibly empty rest of its current word, and further words. -/
theorem continuesName_iff (complete : Bool) (s : List Char) :
    continuesName complete s = true ↔
      ∃ (word : List Char) (words : List (List Char)), (∀ c ∈ word, isWordChar c = true) ∧
        (complete = false → word ≠ []) ∧ (∀ w ∈ words, isWord w = true) ∧
        s = ['-'].intercalate (word :: words) := by
  induction s generalizing complete with
  | nil =>
    rw [continuesName]
    constructor
    · rintro rfl
      exact ⟨[], [], by simp, by simp, by simp, rfl⟩
    · rintro ⟨word, words, -, hne, -, heq⟩
      cases complete with
      | true => rfl
      | false =>
        have hword := hne rfl
        cases words with
        | nil => exact absurd (by simpa using heq.symm) hword
        | cons w words => simp at heq
  | cons c s ih =>
    rw [continuesName]
    -- A word character goes on with the current word, and only a hyphen may end it.
    by_cases hc : isWordChar c = true
    · rw [if_pos hc, ih]
      constructor
      · rintro ⟨word, words, hword, -, hwords, rfl⟩
        exact ⟨c :: word, words, by simpa using ⟨hc, hword⟩, by simp, hwords, by simp⟩
      · rintro ⟨word, words, hword, hne, hwords, heq⟩
        cases word with
        | nil =>
          cases words with
          | nil => simp at heq
          | cons w words =>
            obtain ⟨rfl, -⟩ : c = '-' ∧ _ := by simpa using heq
            simp [isWordChar] at hc
        | cons d word =>
          obtain ⟨rfl, rfl⟩ : c = d ∧ s = ['-'].intercalate (word :: words) := by simpa using heq
          exact ⟨word, words, fun e he => hword e (List.mem_cons_of_mem _ he), by simp, hwords, rfl⟩
    · rw [if_neg hc, Bool.and_eq_true, Bool.and_eq_true, beq_iff_eq, ih]
      constructor
      · rintro ⟨⟨rfl, rfl⟩, word, words, hword, hne, hwords, rfl⟩
        refine ⟨[], word :: words, by simp, by simp, ?_, by simp⟩
        intro w hw
        rcases List.mem_cons.1 hw with rfl | hw
        · exact isWord_iff.2 ⟨hne rfl, hword⟩
        · exact hwords w hw
      · rintro ⟨word, words, hword, hne, hwords, heq⟩
        cases word with
        | cons d word =>
          obtain ⟨rfl, -⟩ : c = d ∧ s = ['-'].intercalate (word :: words) := by simpa using heq
          exact absurd (hword c List.mem_cons_self) hc
        | nil =>
          cases words with
          | nil => simp at heq
          | cons w words =>
            obtain ⟨rfl, rfl⟩ : c = '-' ∧ s = ['-'].intercalate (w :: words) := by
              simpa using heq
            obtain ⟨hw, hwchars⟩ := isWord_iff.1 (hwords w List.mem_cons_self)
            refine ⟨⟨rfl, by simpa using hne⟩, w, words, hwchars, fun _ => hw, ?_, rfl⟩
            exact fun v hv => hwords v (List.mem_cons_of_mem _ hv)

/-- **The reader of method names recognizes words with single hyphens between them.** -/
theorem isMethodName_iff {name : List Char} : isMethodName name = true ↔ Hyphenated name := by
  rw [isMethodName, continuesName_iff]
  constructor
  · rintro ⟨word, words, hword, hne, hwords, rfl⟩
    refine ⟨word :: words, by simp, fun w hw => ?_, rfl⟩
    rcases List.mem_cons.1 hw with rfl | hw
    · exact isWord_iff.2 ⟨hne rfl, hword⟩
    · exact hwords w hw
  · rintro ⟨words, hne, hwords, rfl⟩
    obtain ⟨word, words, rfl⟩ := List.exists_cons_of_ne_nil hne
    obtain ⟨hword, hchars⟩ := isWord_iff.1 (hwords word List.mem_cons_self)
    exact ⟨word, words, hchars, fun _ => hword, fun w hw => hwords w (List.mem_cons_of_mem _ hw), rfl⟩

/-- A method name is made of word characters and hyphens. -/
theorem isNameChar_of_isMethodName {name : List Char} (h : isMethodName name = true) :
    ∀ c ∈ name, (isWordChar c || c == '-') = true := by
  obtain ⟨words, -, hwords, rfl⟩ := isMethodName_iff.1 h
  clear h
  intro c hc
  induction words with
  | nil => simp at hc
  | cons word words ih =>
    have hword : c ∈ word → (isWordChar c || c == '-') = true := fun hmem => by
      simp [(isWord_iff.1 (hwords word List.mem_cons_self)).2 c hmem]
    cases words with
    | nil => exact hword (by simpa using hc)
    | cons next words =>
      have hcases : c ∈ word ∨ c = '-' ∨ c ∈ ['-'].intercalate (next :: words) := by
        simpa using hc
      rcases hcases with hmem | rfl | hmem
      · exact hword hmem
      · simp
      · exact ih (fun w hw => hwords w (List.mem_cons_of_mem _ hw)) hmem

/-! ### Call heads -/

namespace CallHead

/-- The text of a head: its two names, the dot and the opening parenthesis. -/
def text (head : CallHead) : List Char := head.qualifier ++ '.' :: head.name ++ ['(']

/-- **The head that is read** is a word, a dot, a method name and an opening parenthesis at the beginning of
the text. -/
theorem read?_eq_some_iff {s : List Char} {head : CallHead} :
    read? s = some head ↔
      s = head.text ++ head.rest ∧ isWord head.qualifier = true ∧ isMethodName head.name = true := by
  obtain ⟨qualifier, name, rest⟩ := head
  constructor
  · intro h
    rw [read?] at h
    dsimp only at h
    split at h
    · rename_i behind hbehind
      split at h
      · rename_i rest' hrest
        split at h
        · rename_i hwords
          obtain ⟨rfl, rfl, rfl⟩ := CallHead.mk.inj (Option.some.inj h)
          rw [Bool.and_eq_true] at hwords
          refine ⟨?_, hwords⟩
          have hs := List.takeWhile_append_dropWhile (p := isWordChar) (l := s)
          have hb := List.takeWhile_append_dropWhile (p := fun c => isWordChar c || c == '-') (l := behind)
          rw [hrest] at hb
          rw [hbehind, ← hb] at hs
          exact hs.symm.trans (by simp [text])
        · simp at h
      · simp at h
    · simp at h
  · rintro ⟨rfl, hqualifier, hname⟩
    have hq : ∀ c ∈ qualifier, isWordChar c = true := (isWord_iff.1 hqualifier).2
    have hn : ∀ c ∈ name, (isWordChar c || c == '-') = true := isNameChar_of_isMethodName hname
    have hs : text ⟨qualifier, name, rest⟩ ++ rest = qualifier ++ '.' :: (name ++ '(' :: rest) := by
      simp [text]
    -- Each run of characters stops where the next part starts, with a character that is not of its class.
    have htake := takeWhile_append_cons hq (c := '.') (t := name ++ '(' :: rest) (by decide)
    have hdrop := dropWhile_append_cons hq (c := '.') (t := name ++ '(' :: rest) (by decide)
    have htake' := takeWhile_append_cons hn (c := '(') (t := rest) (by decide)
    have hdrop' := dropWhile_append_cons hn (c := '(') (t := rest) (by decide)
    simp only [hs, read?, htake, hdrop, htake', hdrop']
    simpa using ⟨hqualifier, hname⟩

/-- The parenthesis at the end of a call is written or missing. -/
theorem rest_cases (head : CallHead) : head.rest = head.arguments ++ [')'] ∨ head.rest = head.arguments := by
  rw [arguments]
  split
  · rename_i hlast
    obtain ⟨before, hbefore⟩ := List.getLast?_eq_some_iff.1 hlast
    exact Or.inl (by rw [hbefore, List.dropLast_concat])
  · exact Or.inr rfl

end CallHead

/-! ### Keywords -/

/-- **The keyword that is read** is a word followed by an equals sign, at the beginning of the text. -/
theorem keyword?_eq_some_iff {s word value : List Char} :
    keyword? s = some (word, value) ↔ s = word ++ '=' :: value ∧ isWord word = true := by
  constructor
  · intro h
    rw [keyword?] at h
    split at h
    · rename_i rest hrest
      split at h
      · simp at h
      · rename_i hne
        obtain ⟨rfl, rfl⟩ : s.takeWhile isWordChar = word ∧ rest = value := by simpa using h
        refine ⟨?_, isWord_iff.2 ⟨by simpa using hne, fun c hc => List.mem_takeWhile_imp hc⟩⟩
        rw [← hrest, List.takeWhile_append_dropWhile]
    · simp at h
  · rintro ⟨rfl, hword⟩
    obtain ⟨hne, hchars⟩ := isWord_iff.1 hword
    rw [keyword?, takeWhile_append_cons hchars (by decide), dropWhile_append_cons hchars (by decide)]
    simp [hne]

/-- Whether a text has a keyword is decided where the keyword ends: nothing that starts with neither a word
character nor an equals sign can complete one. -/
theorem keyword?_append_eq_none {s t : List Char} (hs : keyword? s = none)
    (ht : ∀ c, t.head? = some c → isWordChar c = false ∧ c ≠ '=') : keyword? (s ++ t) = none := by
  rw [Option.eq_none_iff_forall_ne_some] at hs ⊢
  rintro ⟨word, value⟩ h
  obtain ⟨heq, hword⟩ := keyword?_eq_some_iff.1 h
  rcases List.append_eq_append_iff.1 heq with ⟨more, rfl, rfl⟩ | ⟨more, rfl, hmore⟩
  · -- The word would reach into what follows.
    cases more with
    | nil => exact (ht '=' rfl).2 rfl
    | cons c more =>
      have hc := (isWord_iff.1 hword).2 c (by simp)
      rw [(ht c rfl).1] at hc
      simp at hc
  · cases more with
    | nil => exact (ht '=' (by simpa using congrArg List.head? hmore.symm)).2 rfl
    | cons c more =>
      obtain ⟨rfl, rfl⟩ : c = '=' ∧ more ++ t = value := by simpa using hmore.symm
      exact hs (word, more) (keyword?_eq_some_iff.2 ⟨rfl, hword⟩)

end Interpolation
