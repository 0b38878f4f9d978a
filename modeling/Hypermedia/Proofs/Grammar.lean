import Hypermedia.Duration
import Hypermedia.Proofs.Text.Classes

/-!
The texts that the parts of attributes can have, without a word about readers.
A relation here ties a value to the text `used` that stands for it and to the
text `rest` behind that. What follows matters, because a run of characters is
always taken as far as it goes.
-/

namespace Hypermedia.Grammar

/-- White space, or nothing at all. -/
def Blank (text : List Char) : Prop :=
  ∀ c ∈ text, Text.isBlank c = true

/-- A run of characters of one class that what follows does not continue. -/
structure MaximalRun (p : Char → Bool) (used rest : List Char) : Prop where
  all : ∀ c ∈ used, p c = true
  ends : ∀ c ∈ rest.head?, p c = false

/-- A text in a pair of quotes of either kind. The text cannot hold that
kind. -/
inductive QuotedText (text : String) : List Char → Prop
  | intro (quote : Char) (kind : isQuote quote = true) (absent : quote ∉ text.toList) :
      QuotedText text (quote :: (text.toList ++ [quote]))

/-- A token, in quotes or bare. A bare one may be empty. -/
inductive TokenText : String → List Char → List Char → Prop
  | quoted {text : String} {used rest : List Char} (h : QuotedText text used) :
      TokenText text used rest
  | bare {text : String} {rest : List Char} (run : MaximalRun isBareChar text.toList rest)
      (unquoted : ∀ c ∈ text.toList.head?, isQuote c = false) :
      TokenText text text.toList rest

/-- A unit of time and its length in milliseconds. To give none means
milliseconds. -/
inductive UnitText : List Char → Nat → Prop
  | none : UnitText [] 1
  | milliseconds : UnitText ['m', 's'] 1
  | seconds : UnitText ['s'] 1000

/-- A word of name characters. All keywords are such words. -/
structure Word (text : String) : Prop where
  nonempty : text ≠ ""
  name : ∀ c ∈ text.toList, isNameChar c = true

/-- A decimal number with a unit behind it. The product has to be a duration,
so it is below 2^64. -/
inductive DurationText : Duration → List Char → List Char → Prop
  | intro {time : Duration} {digits unit rest : List Char} {factor : Nat}
      (nonempty : digits ≠ []) (number : MaximalRun Char.isDigit digits (unit ++ rest))
      (letters : MaximalRun Char.isAlpha unit rest) (known : UnitText unit factor)
      (value : time.millis = Nat.ofDigitChars 10 digits 0 * factor) :
      DurationText time (digits ++ unit) rest

/-- The end of the text, white space or a comma: where every token ends. -/
def Boundary (rest : List Char) : Prop :=
  ∀ c ∈ rest.head?, isBareChar c = false

/-- The end of the text or white space. -/
def Apart (rest : List Char) : Prop :=
  ∀ c ∈ rest.head?, Text.isBlank c = true

/-- A word that no entry of a table stands for. -/
theorem find?_keyword_eq_none_iff {α : Type} {values : List α} {keyword : α → String}
    {word : String} :
    (values.find? fun value => keyword value == word) = none ↔ word ∉ values.map keyword := by
  rw [List.find?_eq_none]
  simp

theorem keyword_of_find? {α : Type} {values : List α} {keyword : α → String} {word : String}
    {value : α} (h : (values.find? fun value => keyword value == word) = some value) :
    keyword value = word := by
  simpa using List.find?_some h

/-- A clause ends at a comma or at the end of the text. -/
def ClauseEnd (rest : List Char) : Prop :=
  ∀ c ∈ rest.head?, c = ','

/-- The first text is empty or starts with the same character as the second. -/
def StartsLike (rest' rest : List Char) : Prop :=
  ∀ c ∈ rest'.head?, c ∈ rest.head?

theorem startsLike_nil (rest : List Char) : StartsLike [] rest := by
  intro c hc
  cases hc

theorem startsLike_cons (c : Char) (rest' rest : List Char) :
    StartsLike (c :: rest') (c :: rest) :=
  fun _ hc => hc

theorem StartsLike.append {rest' rest : List Char} (h : StartsLike rest' rest)
    (used : List Char) : StartsLike (used ++ rest') (used ++ rest) := by
  cases used with
  | nil => exact h
  | cons c more => exact startsLike_cons c _ _

/-- What is behind a text that is not empty does not show at its start. -/
theorem startsLike_append {used : List Char} (h : used ≠ []) (rest' rest : List Char) :
    StartsLike (used ++ rest') (used ++ rest) := by
  cases used with
  | nil => exact absurd rfl h
  | cons c more => exact startsLike_cons c _ _

namespace MaximalRun

variable {p : Char → Bool} {used rest : List Char}

/-- A run looks at one character behind it and no further. -/
theorem startsLike {rest' : List Char} (h : MaximalRun p used rest)
    (hlike : StartsLike rest' rest) : MaximalRun p used rest' :=
  ⟨h.all, fun c hc => h.ends c (hlike c hc)⟩

theorem takeWhile_eq (h : MaximalRun p used rest) : (used ++ rest).takeWhile p = used := by
  rw [List.takeWhile_append_of_pos h.all]
  cases rest with
  | nil => simp
  | cons c more =>
      have hc : p c = false := h.ends c rfl
      simp [hc]

theorem dropWhile_eq (h : MaximalRun p used rest) : (used ++ rest).dropWhile p = rest := by
  rw [List.dropWhile_append_of_pos h.all]
  cases rest with
  | nil => simp
  | cons c more =>
      have hc : p c = false := h.ends c rfl
      simp [hc]

/-- At a boundary every run ends that is made of characters of bare tokens. -/
theorem of_boundary (hp : ∀ c, p c = true → isBareChar c = true) (hrest : Boundary rest)
    (hall : ∀ c ∈ used, p c = true) : MaximalRun p used rest := by
  refine ⟨hall, fun c hc => ?_⟩
  rw [Bool.eq_false_iff]
  intro hpc
  have hbare := hrest c hc
  rw [hp c hpc] at hbare
  cases hbare

end MaximalRun

theorem maximalRun_takeWhile (p : Char → Bool) (text : List Char) :
    MaximalRun p (text.takeWhile p) (text.dropWhile p) := by
  constructor
  · intro c hc
    exact List.all_eq_true.mp List.all_takeWhile c hc
  · intro c hc
    have hhead := List.head?_dropWhile_not p text
    rw [Option.mem_def.mp hc] at hhead
    simpa using hhead

theorem boundary_cons {c : Char} {rest : List Char} (h : isBareChar c = false) :
    Boundary (c :: rest) := by
  intro d hd
  cases hd
  exact h

theorem blank_nil : Blank [] := by
  intro c hc
  cases hc

theorem blank_space : Blank [' '] := by
  intro c hc
  rw [List.mem_singleton.mp hc]
  decide

theorem Blank.append {gap more : List Char} (h : Blank gap) (hmore : Blank more) :
    Blank (gap ++ more) := by
  intro c hc
  rcases List.mem_append.mp hc with hgap | hrest
  · exact h c hgap
  · exact hmore c hrest

theorem Blank.apart {gap : List Char} (h : Blank gap) (hne : gap ≠ []) (rest : List Char) :
    Apart (gap ++ rest) := by
  cases gap with
  | nil => exact absurd rfl hne
  | cons c more =>
      intro d hd
      cases hd
      exact h c List.mem_cons_self

theorem Apart.boundary {rest : List Char} (h : Apart rest) : Boundary rest :=
  fun c hc => isBareChar_eq_false_iff.mpr (.inl (h c hc))

theorem Apart.head?_ne {c : Char} {rest : List Char} (h : Apart rest)
    (hc : Text.isBlank c = false) : rest.head? ≠ some c := by
  intro hhead
  rw [h c hhead] at hc
  cases hc

/-- Before white space everything ends. -/
theorem Blank.boundary {gap : List Char} (h : Blank gap) (hne : gap ≠ []) (rest : List Char) :
    Boundary (gap ++ rest) :=
  (h.apart hne rest).boundary

instance (text : List Char) : Decidable (Blank text) :=
  decidable_of_iff (text.all Text.isBlank = true) List.all_eq_true

instance (p : Char → Bool) (used rest : List Char) : Decidable (MaximalRun p used rest) :=
  decidable_of_iff (used.all p = true ∧ rest.head?.all (fun c => !p c) = true)
    ⟨fun h => ⟨List.all_eq_true.mp h.1, by simpa [Option.all_eq_true] using h.2⟩,
      fun h => ⟨List.all_eq_true.mpr h.all, by simpa [Option.all_eq_true] using h.ends⟩⟩

instance (text : String) : Decidable (Word text) :=
  decidable_of_iff (text ≠ "" ∧ text.toList.all isNameChar = true)
    ⟨fun h => ⟨h.1, List.all_eq_true.mp h.2⟩, fun h => ⟨h.1, List.all_eq_true.mpr h.2⟩⟩

theorem Word.unquoted {text : String} (h : Word text) :
    ∀ c ∈ text.toList.head?, isQuote c = false := by
  intro c hc
  have hname := h.name c (List.mem_of_mem_head? hc)
  rw [Bool.eq_false_iff]
  intro hquote
  have hcases : c = '"' ∨ c = '\'' := by simpa [isQuote] using hquote
  rcases hcases with rfl | rfl
  · exact absurd hname (by decide)
  · exact absurd hname (by decide)

/-- Up to a boundary, a word is all that a name or a bare token can take. -/
theorem Word.nameRun {text : String} {rest : List Char} (h : Word text)
    (hrest : Boundary rest) : MaximalRun isNameChar text.toList rest :=
  MaximalRun.of_boundary (fun _ hc => isBareChar_of_isNameChar hc) hrest h.name

theorem Word.bareRun {text : String} {rest : List Char} (h : Word text)
    (hrest : Boundary rest) : MaximalRun isBareChar text.toList rest :=
  MaximalRun.of_boundary (fun _ hc => hc) hrest
    fun c hc => isBareChar_of_isNameChar (h.name c hc)

theorem ClauseEnd.boundary {rest : List Char} (h : ClauseEnd rest) : Boundary rest := by
  intro c hc
  rw [h c hc]
  decide

theorem clauseEnd_nil : ClauseEnd [] := by
  intro c hc
  cases hc

theorem clauseEnd_comma (text : List Char) : ClauseEnd (',' :: text) := by
  intro c hc
  cases hc
  rfl

theorem ClauseEnd.cases {rest : List Char} (h : ClauseEnd rest) :
    rest = [] ∨ ∃ text, rest = ',' :: text := by
  cases rest with
  | nil => exact .inl rfl
  | cons c text =>
      have hc : c = ',' := h c rfl
      exact .inr ⟨text, by rw [hc]⟩

theorem ClauseEnd.not_blank {rest : List Char} (h : ClauseEnd rest) :
    ∀ c ∈ rest.head?, Text.isBlank c = false := by
  intro c hc
  rw [h c hc]
  decide

theorem ClauseEnd.startsLike {rest' rest : List Char} (h : ClauseEnd rest)
    (hlike : StartsLike rest' rest) : ClauseEnd rest' :=
  fun c hc => h c (hlike c hc)

theorem TokenText.startsLike {text : String} {used rest' rest : List Char}
    (h : TokenText text used rest) (hlike : StartsLike rest' rest) :
    TokenText text used rest' := by
  cases h with
  | quoted h => exact .quoted h
  | bare run unquoted => exact .bare (run.startsLike hlike) unquoted

theorem DurationText.startsLike {time : Duration} {used rest' rest : List Char}
    (h : DurationText time used rest) (hlike : StartsLike rest' rest) :
    DurationText time used rest' := by
  cases h with
  | intro nonempty number letters known value =>
      have hnumber := number.startsLike (hlike.append _)
      exact .intro nonempty hnumber (letters.startsLike hlike) known value

/-- What is a token by itself is one in front of a boundary. -/
theorem TokenText.before {text : String} {used rest : List Char} (h : TokenText text used [])
    (hrest : Boundary rest) : TokenText text used rest := by
  cases h with
  | quoted h => exact .quoted h
  | bare run unquoted =>
      exact .bare (MaximalRun.of_boundary (fun _ hc => hc) hrest run.all) unquoted

theorem DurationText.before {time : Duration} {used rest : List Char}
    (h : DurationText time used []) (hrest : Boundary rest) : DurationText time used rest := by
  cases h with
  | @intro digits unit _ factor nonempty number letters known value =>
      have hdigit : ∀ c, Char.isDigit c = true → isBareChar c = true :=
        fun c hc => isBareChar_of_isNameChar (isNameChar_of_isDigit hc)
      have hletter : ∀ c, Char.isAlpha c = true → isBareChar c = true :=
        fun c hc => isBareChar_of_isNameChar (isNameChar_of_isAlpha hc)
      have hnumber : MaximalRun Char.isDigit digits (unit ++ rest) := by
        by_cases hunit : unit = []
        · rw [hunit]
          exact MaximalRun.of_boundary hdigit hrest number.all
        · exact number.startsLike (startsLike_append hunit rest [])
      exact .intro nonempty hnumber (MaximalRun.of_boundary hletter hrest letters.all) known value

/-- The first character of a token that is not empty is not white space, so
white space before it ends there. -/
theorem TokenText.head_bare {text : String} {used rest : List Char}
    (h : TokenText text used rest) (hne : text ≠ "") :
    ∃ c more, used = c :: more ∧ isBareChar c = true := by
  cases h with
  | quoted h =>
      cases h with
      | intro quote kind absent => exact ⟨quote, _, rfl, isBareChar_of_isQuote kind⟩
  | bare run unquoted =>
      cases hlist : text.toList with
      | nil => exact absurd (String.toList_eq_nil_iff.mp hlist) hne
      | cons c more => exact ⟨c, more, rfl, run.all c (by simp [hlist])⟩

/-- The first character of a duration is a digit. -/
theorem DurationText.head_digit {time : Duration} {used rest : List Char}
    (h : DurationText time used rest) : ∃ c more, used = c :: more ∧ c.isDigit = true := by
  cases h with
  | @intro digits unit _ factor nonempty number letters known value =>
      cases digits with
      | nil => exact absurd rfl nonempty
      | cons c more => exact ⟨c, more ++ unit, rfl, number.all c (by simp)⟩

end Hypermedia.Grammar
