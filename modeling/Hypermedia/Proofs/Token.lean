import Hypermedia.Proofs.Reader.Recognition
import Hypermedia.Token

/-!
Which texts a token can stand for, and that the writer of tokens finds a text
for each of them. There is no way to escape a quote, so the only texts out of
reach are those that need quotes and hold both kinds. The writer does not refuse
them: what it writes is a token all the same, but one for a part of the text.
-/

namespace Hypermedia

namespace Token

/-- A text that is not safe outside quotes: it starts with a quote, it holds
white space or a comma, or it is a reserved word. -/
def Special (reserved : List String) (text : String) : Prop :=
  (∃ c ∈ text.toList.head?, isQuote c = true) ∨
    (∃ c ∈ text.toList, Text.isBlank c = true ∨ c = ',') ∨ text ∈ reserved

/-- A text for which there is a token: if it has to be quoted, it does not hold
both quotes. -/
def Quotable (reserved : List String) (text : String) : Prop :=
  Special reserved text → ¬ ('"' ∈ text.toList ∧ '\'' ∈ text.toList)

theorem needsQuotes_iff {reserved : List String} {text : String} :
    needsQuotes reserved text = true ↔ text = "" ∨ Special reserved text := by
  unfold needsQuotes Special
  simp only [Bool.or_eq_true, List.isEmpty_iff, String.toList_eq_nil_iff, Option.any_eq_true,
    List.any_eq_true, Bool.not_eq_true', isBareChar_eq_false_iff, List.contains_iff_mem,
    Option.mem_def, or_assoc]

/-- The empty text has to be quoted too, but holds no quotes. -/
theorem quotable_iff {reserved : List String} {text : String} :
    Quotable reserved text ↔
      ¬ ((text = "" ∨ Special reserved text) ∧ '"' ∈ text.toList ∧ '\'' ∈ text.toList) := by
  constructor
  · rintro h ⟨rfl | hspecial, hboth⟩
    · cases hboth.1
    · exact h hspecial hboth
  · exact fun h hspecial hboth => h ⟨.inr hspecial, hboth⟩

/-- Texts with a space before each of them. -/
def spaced (texts : List String) : List Char :=
  texts.flatMap fun text => ' ' :: text.toList

theorem toList_intercalate_space (first : String) (others : List String) :
    (" ".intercalate (first :: others)).toList = first.toList ++ spaced others := by
  induction others generalizing first with
  | nil => simp [spaced]
  | cons second others ih =>
      rw [String.intercalate_cons_cons, String.toList_append, String.toList_append, ih]
      simp [spaced]

end Token

namespace Grammar

open Token

/-- Quotes are set so that the text inside does not end them. -/
theorem quotedText_of_quotable {reserved : List String} {text : String}
    (hneeds : needsQuotes reserved text = true) (h : Quotable reserved text) :
    QuotedText text (Token.written reserved text).toList := by
  have hboth : ¬ ('"' ∈ text.toList ∧ '\'' ∈ text.toList) := by
    rcases needsQuotes_iff.mp hneeds with rfl | hspecial
    · rintro ⟨hmem, -⟩
      cases hmem
    · exact h hspecial
  have hkind : isQuote (quoteFor text) = true := by
    unfold quoteFor
    split <;> decide
  have habsent : quoteFor text ∉ text.toList := by
    unfold quoteFor
    split
    · rename_i hdouble
      intro hsingle
      exact hboth ⟨by simpa using hdouble, hsingle⟩
    · rename_i hdouble
      simpa using hdouble
  have hwritten : (Token.written reserved text).toList =
      quoteFor text :: (text.toList ++ [quoteFor text]) := by
    unfold Token.written
    rw [if_pos hneeds]
    simp
  rw [hwritten]
  exact .intro _ hkind habsent

theorem written_of_plain {reserved : List String} {text : String}
    (hneeds : ¬ needsQuotes reserved text = true) : Token.written reserved text = text := by
  unfold Token.written
  rw [if_neg hneeds]

/-- Without quotes the token is the text, and nothing in it ends a token. -/
theorem bare_of_plain {reserved : List String} {text : String} {rest : List Char}
    (hneeds : ¬ needsQuotes reserved text = true) (hrest : Boundary rest) :
    MaximalRun isBareChar text.toList rest ∧
      (∀ c ∈ text.toList.head?, isQuote c = false) ∧ text ∉ reserved := by
  rw [needsQuotes_iff, not_or] at hneeds
  obtain ⟨-, hspecial⟩ := hneeds
  refine ⟨?_, ?_, ?_⟩
  · apply MaximalRun.of_boundary (fun c hc => hc) hrest
    intro c hc
    cases hbare : isBareChar c with
    | true => rfl
    | false => exact absurd (.inr (.inl ⟨c, hc, isBareChar_eq_false_iff.mp hbare⟩)) hspecial
  · intro c hc
    cases hquote : isQuote c with
    | false => rfl
    | true => exact absurd (.inl ⟨c, hc, hquote⟩) hspecial
  · intro hreserved
    exact hspecial (.inr (.inr hreserved))

theorem tokenText_written {reserved : List String} {text : String} {rest : List Char}
    (h : Quotable reserved text) (hrest : Boundary rest) :
    TokenText text (Token.written reserved text).toList rest := by
  by_cases hneeds : needsQuotes reserved text = true
  · exact .quoted (quotedText_of_quotable hneeds h)
  · obtain ⟨hrun, hunquoted, -⟩ := bare_of_plain hneeds hrest
    rw [written_of_plain hneeds]
    exact .bare hrun hunquoted

/-- Text that was in quotes lacks the quote that was around it. -/
theorem quotable_of_quotedText {text : String} {used : List Char} (h : QuotedText text used)
    (reserved : List String) : Quotable reserved text := by
  rintro - ⟨hdouble, hsingle⟩
  cases h with
  | intro quote kind absent =>
      have hcases : quote = '"' ∨ quote = '\'' := by simpa [isQuote] using kind
      rcases hcases with rfl | rfl
      · exact absent hdouble
      · exact absent hsingle

/-- Text that was bare is not special, unless it is reserved. -/
theorem quotable_of_bare {reserved : List String} {text : String} {rest : List Char}
    (hrun : MaximalRun isBareChar text.toList rest)
    (hunquoted : ∀ c ∈ text.toList.head?, isQuote c = false) (hfree : text ∉ reserved) :
    Quotable reserved text := by
  rintro (⟨c, hc, hquote⟩ | ⟨c, hc, hends⟩ | hreserved)
  · rw [hunquoted c hc] at hquote
    cases hquote
  · have hbare := isBareChar_eq_false_iff.mpr hends
    rw [hrun.all c hc] at hbare
    cases hbare
  · exact absurd hreserved hfree

theorem quotable_of_tokenText {text : String} {used rest : List Char}
    (h : TokenText text used rest) : Quotable [] text := by
  cases h with
  | quoted h => exact quotable_of_quotedText h []
  | bare hrun hunquoted => exact quotable_of_bare hrun hunquoted List.not_mem_nil

/-- The digits of a number are read back as that number. -/
theorem durationText_written (time : Duration) {rest : List Char} (hrest : Boundary rest) :
    DurationText time time.written.toList rest := by
  have hwritten : time.written.toList = Nat.toDigits 10 time.millis ++ ['m', 's'] := by
    unfold Duration.written
    rw [String.toList_append, Nat.toString_eq_repr, Nat.toList_repr]
    rfl
  have hnumber : MaximalRun Char.isDigit (Nat.toDigits 10 time.millis) (['m', 's'] ++ rest) := by
    constructor
    · intro c hc
      exact Nat.isDigit_of_mem_toDigits (by decide) (by decide) hc
    · intro c hc
      cases hc
      decide
  have hletters : MaximalRun Char.isAlpha ['m', 's'] rest := by
    apply MaximalRun.of_boundary _ hrest (List.all_eq_true.mp (by decide))
    intro c hc
    exact isBareChar_of_isNameChar (isNameChar_of_isAlpha hc)
  rw [hwritten]
  refine .intro Nat.toDigits_ne_nil hnumber hletters .milliseconds ?_
  rw [Nat.ofDigitChars_ten_toDigits, Nat.mul_one]

end Grammar

namespace Reader

open Grammar Token

variable {reserved : List String} {text : String} {c : Cursor} {rest : List Char}

/-- A written token is read back, up to where it ends. -/
theorem token_of_quotable (h : Quotable reserved text) (hrest : Boundary rest)
    (hc : c.rest = (Token.written reserved text).toList ++ rest) :
    ∃ d, token c = .ok text d ∧ d.rest = rest := by
  have htakes : c.Takes (Token.written reserved text).toList
      ⟨c.position.after (Token.written reserved text).toList, rest⟩ := ⟨hc, rfl⟩
  exact ⟨_, token_eq_ok_iff.mpr ⟨_, htakes, tokenText_written h hrest⟩, rfl⟩

/-- Single quotes are set around a text that holds both kinds, so the first one
in the text ends the token. -/
theorem token_of_unquotable (h : ¬ Quotable reserved text)
    (hc : c.rest = (Token.written reserved text).toList ++ rest) :
    ∃ inner more d, text.toList = inner ++ '\'' :: more ∧
      token c = .ok (String.ofList inner) d ∧ d.rest = more ++ '\'' :: rest := by
  obtain ⟨hspecial, hboth⟩ := Classical.not_imp.mp h
  obtain ⟨hdouble, hsingle⟩ := Classical.not_not.mp hboth
  obtain ⟨inner, more, hsplit, habsent⟩ := List.eq_append_cons_of_mem hsingle
  have hwritten : (Token.written reserved text).toList = '\'' :: (text.toList ++ ['\'']) := by
    have hquote : quoteFor text = '\'' := if_pos (List.contains_iff_mem.mpr hdouble)
    unfold Token.written
    rw [if_pos (needsQuotes_iff.mpr (.inr hspecial)), hquote]
    simp
  have htakes : c.Takes ('\'' :: (inner ++ ['\'']))
      ⟨c.position.after ('\'' :: (inner ++ ['\''])), more ++ '\'' :: rest⟩ := by
    refine ⟨?_, rfl⟩
    rw [hc, hwritten, hsplit]
    simp
  have hquoted : QuotedText (String.ofList inner) ('\'' :: (inner ++ ['\''])) := by
    rw [← String.toList_ofList (l := inner)] at habsent
    simpa using QuotedText.intro '\'' (by decide) habsent
  exact ⟨inner, more, _, hsplit, token_eq_ok_iff.mpr ⟨_, htakes, .quoted hquoted⟩, rfl⟩

/-- The writer and the reader of tokens agree in front of the end, white space or
a comma. What is written is read back, and all that follows is left, unless the
text needs quotes and holds both kinds. Then something shorter is read. -/
theorem token_of_written (hrest : Boundary rest)
    (hc : c.rest = (Token.written reserved text).toList ++ rest) :
    ((∃ d, token c = .ok text d ∧ d.rest = rest) ↔
      ¬ ((text = "" ∨ Special reserved text) ∧ '"' ∈ text.toList ∧ '\'' ∈ text.toList)) ∧
    ((text = "" ∨ Special reserved text) ∧ '"' ∈ text.toList ∧ '\'' ∈ text.toList →
      ∃ shorter d, token c = .ok shorter d ∧ shorter.length < text.length) := by
  have hshorter : ¬ Quotable reserved text →
      ∃ shorter d, token c = .ok shorter d ∧ shorter.length < text.length := by
    intro h
    obtain ⟨inner, more, d, hsplit, hread, -⟩ := token_of_unquotable h hc
    refine ⟨String.ofList inner, d, hread, ?_⟩
    rw [← String.length_toList, ← String.length_toList, String.toList_ofList, hsplit]
    simp
  refine ⟨⟨?_, fun h => token_of_quotable (quotable_iff.mpr h) hrest hc⟩,
    fun h => hshorter fun hquotable => quotable_iff.mp hquotable h⟩
  rintro ⟨d, hread, -⟩ h
  obtain ⟨shorter, behind, hother, hlength⟩ :=
    hshorter fun hquotable => quotable_iff.mp hquotable h
  rw [hread] at hother
  cases hother
  exact Nat.lt_irrefl _ hlength

/-- A text that stays bare, with a quote inside, and one with white space and both
kinds of quotes. -/
theorem token_of_written_around_quotes :
    (∃ d, token (.start "it's,once") = .ok "it's" d ∧ d.rest = ',' :: "once".toList) ∧
      Boundary (',' :: "once".toList) ∧
      (Cursor.start "it's,once").rest =
        (Token.written ["this"] "it's").toList ++ ',' :: "once".toList ∧
      (∃ shorter d, token (.start "'a \"b' c'") = .ok shorter d ∧
        shorter.length < "a \"b' c".length) ∧
      Boundary [] ∧
      (Cursor.start "'a \"b' c'").rest = (Token.written [] "a \"b' c").toList ++ [] := by
  have hcomma : Boundary (',' :: "once".toList) := boundary_cons (by decide)
  have hbare : (Cursor.start "it's,once").rest =
      (Token.written ["this"] "it's").toList ++ ',' :: "once".toList := by decide +kernel
  have hend : Boundary [] := nofun
  have hquoted : (Cursor.start "'a \"b' c'").rest =
      (Token.written [] "a \"b' c").toList ++ [] := by decide +kernel
  refine ⟨(token_of_written hcomma hbare).1.mpr ?_, hcomma, hbare,
    (token_of_written hend hquoted).2 ⟨.inr (.inr (.inl ⟨' ', ?_⟩)), ?_⟩, hend, hquoted⟩
  · rintro ⟨-, hdouble, -⟩
    revert hdouble
    decide
  · decide
  · decide

end Reader

end Hypermedia
