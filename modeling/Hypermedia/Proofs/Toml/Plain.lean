import Hypermedia.Proofs.Toml.Number
import Hypermedia.Toml.Document

/-!
The plainest TOML documents: bare keys, with texts that need no escape and
natural numbers as their values, and headers of one word. Such a document reads
back line by line, whatever its words and numbers are.
-/

namespace Hypermedia.Toml

open Scan Grammar

namespace Scan

variable {α β : Type}

theorem bind_of_some {r : Scan α} {next : α → Scan β} {cs rest : List Char} {a : α}
    (h : r cs = some (a, rest)) : (r >>= next) cs = next a rest := by
  rw [bind_run, h]

theorem map_run (f : α → β) (r : Scan α) (cs : List Char) :
    (f <$> r) cs = (r cs).map fun (a, rest) => (f a, rest) := by
  simp only [Functor.map, StateT.map]
  cases r cs <;> rfl

/-- A text that does not start here is not used up. -/
theorem accept_of_head?_ne {c : Char} {text cs : List Char} (h : cs.head? ≠ some c) :
    accept (String.ofList (c :: text)) cs = some (false, cs) := by
  cases cs with
  | nil => simp [accept]
  | cons d rest =>
      have hne : c ≠ d := by
        rintro rfl
        exact h rfl
      simp [accept, hne]

end Scan

/-- A word that can be a key as it is. -/
structure IsBareKey (word : List Char) : Prop where
  nonempty : word ≠ []
  chars : ∀ c ∈ word, isKeyChar c = true

/-- A character that stands for itself between double quotes. -/
def isLiteral (c : Char) : Bool := isPlain c && c != '"' && c != '\\'

theorem not_isSpace_of_isKeyChar {c : Char} (h : isKeyChar c = true) : isSpace c = false := by
  rw [Bool.eq_false_iff]
  intro hspace
  have hcases : c = ' ' ∨ c = '\t' := by simpa [isSpace] using hspace
  rcases hcases with rfl | rfl <;> exact absurd h (by decide)

section Keys

variable {word rest : List Char}

theorem keyPart_run (hword : IsBareKey word) (hrest : ∀ c ∈ rest.head?, isKeyChar c = false) :
    keyPart (word ++ rest) = some (String.ofList word, rest.dropWhile isSpace) := by
  obtain ⟨hne, hchars⟩ := hword
  cases word with
  | nil => exact absurd rfl hne
  | cons first others =>
      have hfirst : isKeyChar first = true := hchars first (by simp)
      have hothers : MaximalRun isKeyChar others rest :=
        ⟨fun c hc => hchars c (List.mem_cons_of_mem first hc), hrest⟩
      have hdouble : first ≠ '"' := by
        rintro rfl
        exact absurd hfirst (by decide)
      have hsingle : first ≠ '\'' := by
        rintro rfl
        exact absurd hfirst (by decide)
      have hspaces : spaces (first :: (others ++ rest)) = some ((), first :: (others ++ rest)) := by
        simp [spaces, not_isSpace_of_isKeyChar hfirst]
      unfold keyPart
      rw [List.cons_append, bind_of_some hspaces]
      simp [bind_run, map_run, peek, next, run, spaces, hdouble, hsingle, hfirst,
        hothers.takeWhile_eq, hothers.dropWhile_eq]

/-- A bare key ends where neither a character of keys nor a dot comes. -/
theorem key_run (hword : IsBareKey word) (hrest : ∀ c ∈ rest.head?, isKeyChar c = false)
    (hdot : (rest.dropWhile isSpace).head? ≠ some '.') :
    key (word ++ rest) = some (⟨[], String.ofList word⟩, rest.dropWhile isSpace) := by
  have hnone : dottedPart? (rest.dropWhile isSpace) = some (none, rest.dropWhile isSpace) := by
    have haccept : accept "." (rest.dropWhile isSpace) = some (false, rest.dropWhile isSpace) :=
      accept_of_head?_ne hdot
    unfold dottedPart?
    rw [bind_of_some haccept]
    rfl
  unfold key
  rw [bind_of_some (keyPart_run hword hrest), bind_of_some (repeated_of_none hnone)]
  rfl

end Keys

section Values

variable {rest : List Char}

theorem repeated_lineChar {text : List Char} (htext : ∀ c ∈ text, isLiteral c = true) :
    repeated (Quoted.lineChar? '"') (text ++ '"' :: rest) = some (text, rest) := by
  induction text with
  | nil => exact repeated_of_none rfl
  | cons c text ih =>
      have hc : isPlain c = true ∧ c ≠ '"' ∧ c ≠ '\\' := by
        simpa [isLiteral, and_assoc] using htext c (by simp)
      have hstep : Quoted.lineChar? '"' (c :: (text ++ '"' :: rest)) =
          some (some c, text ++ '"' :: rest) := by
        simp [Quoted.lineChar?, bind_run, pure_run, next, hc]
      exact repeated_of_some hstep (by simp) (ih fun d hd => htext d (List.mem_cons_of_mem c hd))

/-- A text that needs no escape, in front of a line break. -/
theorem scalar_text {text : List Char} (htext : ∀ c ∈ text, isLiteral c = true) :
    scalar ('"' :: (text ++ '"' :: '\n' :: rest)) =
      some (.string (String.ofList text), '\n' :: rest) := by
  have hopen : accept (String.ofList ['"', '"', '"']) ('"' :: (text ++ '"' :: '\n' :: rest)) =
      some (false, '"' :: (text ++ '"' :: '\n' :: rest)) := by
    cases text with
    | nil => rfl
    | cons c text =>
        have hc : c ≠ '"' := by
          have hliteral := htext c (by simp)
          rintro rfl
          exact absurd hliteral (by decide)
        simp [accept, Ne.symm hc]
  have hchars : repeated (Quoted.lineChar? '"') (text ++ '"' :: '\n' :: rest) =
      some (text, '\n' :: rest) := repeated_lineChar htext
  have hstring : Quoted.string '"' ('"' :: (text ++ '"' :: '\n' :: rest)) =
      some (String.ofList text, '\n' :: rest) := by
    unfold Quoted.string
    rw [bind_of_some hopen]
    simp [Quoted.line, bind_run, map_run, expect, hchars]
  simp [scalar, bind_run, map_run, peek, hstring]

theorem ofScalar?_toDigits {n : Nat} (h : n < 0x8000000000000000) :
    Value.ofScalar? (Nat.toDigits 10 n) = some (.integer n) := by
  have hdigits := Text.isDigit_of_mem_toDigits n
  have htrue : Nat.toDigits 10 n ≠ "true".toList := by
    intro hword
    exact absurd (hdigits 't' (by simp [hword])) (by decide)
  have hfalse : Nat.toDigits 10 n ≠ "false".toList := by
    intro hword
    exact absurd (hdigits 'f' (by simp [hword])) (by decide)
  unfold Value.ofScalar?
  rw [if_neg htrue, if_neg hfalse, Number.integer?_toDigits h]

/-- A number of 63 bits, in front of a line break. -/
theorem scalar_number {n : Nat} (h : n < 0x8000000000000000) :
    scalar (Nat.toDigits 10 n ++ '\n' :: rest) = some (.integer n, '\n' :: rest) := by
  have hchars : MaximalRun isScalarChar (Nat.toDigits 10 n) ('\n' :: rest) := by
    refine ⟨fun c hc => ?_, by simp; decide⟩
    simp [isScalarChar, Char.isAlphanum, Text.isDigit_of_mem_toDigits n c hc]
  have hrun : run isScalarChar (Nat.toDigits 10 n ++ '\n' :: rest) =
      some (Nat.toDigits 10 n, '\n' :: rest) := by
    simp [run, hchars.takeWhile_eq, hchars.dropWhile_eq]
  have htime : spacedTime (Nat.toDigits 10 n) ('\n' :: rest) = some ([], '\n' :: rest) := rfl
  obtain ⟨d, ds, hcons, hd⟩ := Text.exists_cons_toDigits n
  have hpeek : peek (Nat.toDigits 10 n ++ '\n' :: rest) =
      some (some d, Nat.toDigits 10 n ++ '\n' :: rest) := by
    simp [peek, hcons]
  have hdouble : d ≠ '"' := Text.ne_of_isDigit hd rfl
  have hsingle : d ≠ '\'' := Text.ne_of_isDigit hd rfl
  unfold scalar
  rw [bind_of_some hpeek]
  simp [bind_run, pure_run, hdouble, hsingle, hrun, htime, ofScalar?_toDigits h]

theorem value_of_scalar {depth : Nat} {cs : List Char} (harray : cs.head? ≠ some '[')
    (htable : cs.head? ≠ some '\x7b') : value depth cs = scalar cs := by
  cases depth with
  | zero => rfl
  | succ depth =>
      have hbracket : accept "[" cs = some (false, cs) := accept_of_head?_ne harray
      have hbrace : accept "\x7b" cs = some (false, cs) := accept_of_head?_ne htable
      simp [value, bind_run, hbracket, hbrace]

end Values

section Lines

variable {word rest : List Char}

theorem trailing_break (rest : List Char) : trailing ('\n' :: rest) = some ((), rest) :=
  rfl

/-- The first character of a bare key tells a pair from all other lines. -/
theorem head_of_isBareKey (hword : IsBareKey word) :
    ∃ c others, word = c :: others ∧ isSpace c = false ∧
      c ≠ '#' ∧ c ≠ '\n' ∧ c ≠ '\r' ∧ c ≠ '[' := by
  obtain ⟨c, others, rfl⟩ := List.exists_cons_of_ne_nil hword.nonempty
  have hc : isKeyChar c = true := hword.chars c (by simp)
  refine ⟨c, others, rfl, not_isSpace_of_isKeyChar hc, ?_⟩
  refine ⟨?_, ?_, ?_, ?_⟩ <;> (rintro rfl; exact absurd hc (by decide))

theorem pair_run {content : Value} {depth : Nat} {text : List Char} (hword : IsBareKey word)
    (hhead : ∀ c ∈ text.head?, isSpace c = false)
    (hvalue : value depth (text ++ '\n' :: rest) = some (content, '\n' :: rest)) :
    pair (value depth) (word ++ ' ' :: '=' :: ' ' :: (text ++ '\n' :: rest)) =
      some ((⟨[], String.ofList word⟩, content), '\n' :: rest) := by
  have hkey : key (word ++ ' ' :: '=' :: ' ' :: (text ++ '\n' :: rest)) =
      some (⟨[], String.ofList word⟩, '=' :: ' ' :: (text ++ '\n' :: rest)) :=
    key_run hword (by simp; decide) (by simp [isSpace])
  have hstop : (text ++ '\n' :: rest).dropWhile isSpace = text ++ '\n' :: rest := by
    cases text with
    | nil => rfl
    | cons c text => exact List.dropWhile_cons_of_neg (by simp [hhead c rfl])
  have hspaces : spaces (' ' :: (text ++ '\n' :: rest)) = some ((), text ++ '\n' :: rest) := by
    unfold spaces
    rw [List.dropWhile_cons_of_pos rfl, hstop]
  unfold pair
  rw [bind_of_some hkey]
  simp [bind_run, map_run, expect, hspaces, hvalue]

theorem line?_pair {content : Value} {text : List Char} (hword : IsBareKey word)
    (hhead : ∀ c ∈ text.head?, isSpace c = false)
    (hvalue : value (nestingLimit - 1) (text ++ '\n' :: rest) = some (content, '\n' :: rest)) :
    line? (word ++ ' ' :: '=' :: ' ' :: (text ++ '\n' :: rest)) =
      some (some (.pair ⟨[], String.ofList word⟩ content), rest) := by
  have hpair := pair_run hword hhead hvalue
  obtain ⟨c, others, rfl, hspace, hc⟩ := head_of_isBareKey hword
  unfold line?
  simp only [List.cons_append] at hpair ⊢
  simp [bind_run, map_run, spaces, hspace, peek, hc, hpair, trailing_break]

theorem line?_header (hword : IsBareKey word) :
    line? ('[' :: (word ++ ']' :: '\n' :: rest)) =
      some (some (.header ⟨[], String.ofList word⟩), rest) := by
  have hkey : key (word ++ ']' :: '\n' :: rest) =
      some (⟨[], String.ofList word⟩, ']' :: '\n' :: rest) :=
    key_run hword (by simp; decide) (by simp [isSpace])
  have helement : accept "[[" ('[' :: (word ++ ']' :: '\n' :: rest)) =
      some (false, '[' :: (word ++ ']' :: '\n' :: rest)) := by
    obtain ⟨c, others, rfl, -, -, -, -, hc⟩ := head_of_isBareKey hword
    simp [accept, Ne.symm hc]
  have hheader : header ('[' :: (word ++ ']' :: '\n' :: rest)) =
      some (.header ⟨[], String.ofList word⟩, '\n' :: rest) := by
    unfold header
    rw [bind_of_some helement]
    simp [bind_run, map_run, expect, hkey]
  unfold line?
  simp [bind_run, map_run, spaces, isSpace, peek, hheader, trailing_break]

end Lines

/-- A line of the plainest kind. -/
inductive PlainLine where
  | blank
  | header (name : String)
  | text (name value : String)
  | number (name : String) (value : Nat)

namespace PlainLine

def written : PlainLine → String
  | blank => "\n"
  | header name => "[" ++ name ++ "]\n"
  | text name value => name ++ " = \"" ++ value ++ "\"\n"
  | number name value => name ++ " = " ++ toString value ++ "\n"

/-- What the line says. -/
def meaning : PlainLine → Line
  | blank => .blank
  | header name => .header ⟨[], name⟩
  | text name value => .pair ⟨[], name⟩ (.string value)
  | number name value => .pair ⟨[], name⟩ (.integer value)

/-- The names can be keys as they are, the text needs no escape, and the number
is one that TOML has. -/
def IsSound : PlainLine → Prop
  | blank => True
  | header name => IsBareKey name.toList
  | text name value => IsBareKey name.toList ∧ ∀ c ∈ value.toList, isLiteral c = true
  | number name value => IsBareKey name.toList ∧ value < 0x8000000000000000

theorem line?_written {line : PlainLine} (h : line.IsSound) (rest : List Char) :
    line? (line.written.toList ++ rest) = some (some line.meaning, rest) := by
  cases line with
  | blank => rfl
  | header name =>
      have hline : line? ('[' :: (name.toList ++ ']' :: '\n' :: rest)) =
          some (some (.header ⟨[], String.ofList name.toList⟩), rest) := line?_header h
      simpa [written, meaning] using hline
  | text name value =>
      obtain ⟨hname, hvalue⟩ := h
      have hread : Toml.value (nestingLimit - 1) ('"' :: (value.toList ++ ['"']) ++ '\n' :: rest) =
          some (.string value, '\n' :: rest) := by
        rw [value_of_scalar (by simp) (by simp)]
        simpa using scalar_text hvalue
      have hline := line?_pair hname (by simp [isSpace]) hread
      simpa [written, meaning] using hline
  | number name value =>
      obtain ⟨hname, hvalue⟩ := h
      obtain ⟨d, ds, hcons, hd⟩ := Text.exists_cons_toDigits value
      have harray : d ≠ '[' := Text.ne_of_isDigit hd rfl
      have htable : d ≠ '\x7b' := Text.ne_of_isDigit hd rfl
      have hspace : isSpace d = false := by
        simp [isSpace, Text.ne_of_isDigit (c := ' ') hd rfl, Text.ne_of_isDigit (c := '\t') hd rfl]
      have hread : Toml.value (nestingLimit - 1) (Nat.toDigits 10 value ++ '\n' :: rest) =
          some (.integer value, '\n' :: rest) := by
        rw [value_of_scalar (by simp [hcons, harray]) (by simp [hcons, htable]),
          scalar_number hvalue]
      have hline := line?_pair hname (by simp [hcons, hspace]) hread
      simpa [written, meaning, Nat.toString_eq_repr] using hline

theorem written_head {line : PlainLine} (h : line.IsSound) :
    ∃ c others, line.written.toList = c :: others ∧ c ≠ '\ufeff' := by
  have hname : ∀ {name : String}, IsBareKey name.toList →
      ∃ c others, name.toList = c :: others ∧ c ≠ '\ufeff' := by
    intro name hname
    obtain ⟨c, others, hcons⟩ := List.exists_cons_of_ne_nil hname.nonempty
    refine ⟨c, others, hcons, ?_⟩
    rintro rfl
    exact absurd (hname.chars '\ufeff' (by simp [hcons])) (by decide)
  cases line with
  | blank => exact ⟨'\n', [], rfl, by decide⟩
  | header name => exact ⟨'[', (name ++ "]\n").toList, by simp [written], by decide⟩
  | text name value =>
      obtain ⟨c, others, hcons, hc⟩ := hname h.1
      exact ⟨c, others ++ (" = \"" ++ value ++ "\"\n").toList, by simp [written, hcons], hc⟩
  | number name value =>
      obtain ⟨c, others, hcons, hc⟩ := hname h.1
      exact ⟨c, others ++ (" = " ++ toString value ++ "\n").toList, by simp [written, hcons], hc⟩

theorem repeated_line?_written {lines : List PlainLine} (h : ∀ line ∈ lines, line.IsSound) :
    repeated line? (String.join (lines.map written)).toList =
      some (lines.map meaning, []) := by
  induction lines with
  | nil => exact repeated_of_none rfl
  | cons line lines ih =>
      have hline := line?_written (h line (by simp)) (String.join (lines.map written)).toList
      have hrest := ih fun other hother => h other (List.mem_cons_of_mem line hother)
      obtain ⟨c, others, hcons, -⟩ := written_head (h line (by simp))
      have hjoin : (String.join ((line :: lines).map written)).toList =
          line.written.toList ++ (String.join (lines.map written)).toList := by
        simp
      rw [hjoin]
      refine repeated_of_some hline ?_ hrest
      simp only [hcons, List.cons_append, List.length_cons, List.length_append]
      omega

/-- A document of plain lines says what its lines say. -/
theorem lines?_written {lines : List PlainLine} (h : ∀ line ∈ lines, line.IsSound) :
    lines? (String.join (lines.map written)) = some (lines.map meaning) := by
  have hmark : accept "\ufeff" (String.join (lines.map written)).toList =
      some (false, (String.join (lines.map written)).toList) := by
    apply accept_of_head?_ne
    cases lines with
    | nil => simp
    | cons line lines =>
        obtain ⟨c, others, hcons, hc⟩ := written_head (h line (by simp))
        simpa [hcons] using hc
  unfold lines? whole?
  rw [bind_of_some hmark, repeated_line?_written h]

end PlainLine

end Hypermedia.Toml
