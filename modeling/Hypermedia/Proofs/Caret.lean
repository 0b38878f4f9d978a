import Mathlib.Control.Monad.Basic
import Hypermedia.Proofs.Position.Offset
import Hypermedia.Proofs.Swap.Fault
import Hypermedia.Proofs.Sync
import Hypermedia.Proofs.Text.Lines
import Hypermedia.Proofs.Text.Pieces
import Hypermedia.Proofs.Trigger.Fault

/-!
What a message looks like. It quotes the line of its error and has a caret under
the place. Lines and places are counted apart from each other, and they disagree
on a carriage return in front of a line feed: to the columns it is a character,
to the lines it is half of an ending. So the caret is right as long as no error
stands between the two. None does, since a fault is reported behind a key and
its colon, behind all of the white space there is, or where the text ends. The
same goes for what messages cite, which is never white space.
-/

namespace Hypermedia

open Grammar

namespace ParseError

/-- The message of an error as a picture of its line. -/
structure Caret (e : ParseError) (text line indent : String) : Prop where
  rendered : e.render text = e.message ++ "\n  " ++ line ++ "\n  " ++ indent ++ "^"
  /-- The three parts of the picture are lines of their own. -/
  feeds : (e.render text).toList.count '\n' = 2
  isLine : Text.IsLine text.toList e.position.line line.toList
  width : indent.length = e.position.column - 1
  tabs : ∀ i < indent.length,
    indent.toList[i]? = some (if line.toList[i]? = some '\t' then '\t' else ' ')
  /-- The caret is under the character at the place, if that is part of a line. -/
  above : ∀ before x behind, text.toList = before ++ x :: behind →
    (String.ofList before).utf8ByteSize = e.position.offset → x ≠ '\n' →
      ¬ (x = '\r' ∧ behind.head? = some '\n') → line.toList[indent.length]? = some x

end ParseError

namespace Text

theorem oneLine_written (p : Position) : OneLine p.written :=
  ((oneLine_toString _).append (by decide)).append (oneLine_toString _)

end Text

namespace ParseError

open Text

/-- What a message cites is in one line. -/
def Cause.Plain : Cause → Prop
  | .unexpectedChar expected found => OneLine expected ∧ found ≠ '\n'
  | .unexpectedEnd expected => OneLine expected
  | .invalidNumber value => OneLine value
  | .invalidModifier name => OneLine name
  | .invalidSelector value => OneLine value
  | .invalidValue key value => OneLine key ∧ OneLine value

instance (cause : Cause) : Decidable cause.Plain :=
  match cause with
  | .unexpectedChar _ _ => inferInstanceAs (Decidable (_ ∧ _ ≠ _))
  | .unexpectedEnd expected => inferInstanceAs (Decidable (OneLine expected))
  | .invalidNumber value => inferInstanceAs (Decidable (OneLine value))
  | .invalidModifier name => inferInstanceAs (Decidable (OneLine name))
  | .invalidSelector value => inferInstanceAs (Decidable (OneLine value))
  | .invalidValue _ _ => inferInstanceAs (Decidable (_ ∧ _))

theorem Cause.Plain.oneLine {cause : Cause} (h : cause.Plain) : OneLine cause.message := by
  have hquoted : ∀ {first value : String}, OneLine first → OneLine value →
      OneLine (first ++ value ++ "'") :=
    fun hfirst hvalue => (hfirst.append hvalue).append (by decide)
  cases cause with
  | unexpectedChar expected found =>
      have hfound : OneLine (String.singleton found) := by
        intro hmem
        rw [String.toList_singleton] at hmem
        exact h.2 (List.mem_singleton.mp hmem).symm
      have hexpected : OneLine "expected " := by decide
      exact hquoted ((hexpected.append h.1).append (by decide)) hfound
  | unexpectedEnd expected =>
      have hend : OneLine "unexpected end of input, expected " := by decide
      exact hend.append h
  | invalidNumber value => exact hquoted (by decide) h
  | invalidModifier name => exact hquoted (by decide) h
  | invalidSelector value => exact hquoted (by decide) h
  | invalidValue key value =>
      have hvalue : OneLine ("invalid value '" ++ value) := OneLine.append (by decide) h.2
      exact hquoted (hvalue.append (by decide)) h.1

/-- A cause and a place of which there is a picture. -/
structure Drawable (before behind : List Char) (cause : Cause) : Prop where
  clean : CleanCut before behind
  plain : cause.Plain

theorem Drawable.append {before behind : List Char} {cause : Cause}
    (h : Drawable before behind cause) (first : List Char) :
    Drawable (first ++ before) behind cause :=
  ⟨h.clean.append first, h.plain⟩

end ParseError

namespace Grammar

open ParseError (Cause Drawable)
open Text (CleanCut OneLine oneLine_of_bare)

variable {cause : Cause} {used behind : List Char} {isFirst : Bool}

/-- The place right behind a colon, whatever follows. -/
theorem cleanCut_colon (behind : List Char) : CleanCut [':'] behind :=
  .inr ⟨':', rfl, by decide⟩

theorem MissingFault.drawable {expected : String} (h : MissingFault expected cause used behind)
    (hexpected : OneLine expected) (solid : ∀ c ∈ behind.head?, Text.isBlank c = false) :
    Drawable used behind cause := by
  refine ⟨.of_not_blank solid, ?_⟩
  cases h with
  | @char found more =>
      refine ⟨hexpected, ?_⟩
      rintro rfl
      exact absurd (solid '\n' rfl) (by decide)
  | ends => exact hexpected

theorem TokenFault.drawable (h : TokenFault cause used behind) : Drawable used behind cause := by
  cases h with
  | @unclosed quote inner kind absent =>
      have hcases : quote = '"' ∨ quote = '\'' := by simpa [isQuote] using kind
      refine ⟨.of_not_blank fun c hc => ?_, ?_⟩
      · cases hc
      · rcases hcases with rfl | rfl <;> decide

theorem DurationFault.plain (h : DurationFault cause used behind) : cause.Plain := by
  have hrun : ∀ {p : Char → Bool} {run : List Char}, (∀ c ∈ run, p c = true) → p '\n' = false →
      OneLine (String.ofList run) := by
    intro p run hall hfeed hmem
    rw [String.toList_ofList] at hmem
    rw [hall _ hmem] at hfeed
    cases hfeed
  cases h with
  | digitless absent run => exact hrun run.all (by decide)
  | number nonempty run large => exact hrun run.all (by decide)
  | unit nonempty run small letters unknown =>
      refine ⟨by decide, ?_⟩
      rintro rfl
      exact absurd (letters.all '\n' List.mem_cons_self) (by decide)
  | product nonempty run letters known large =>
      exact (hrun run.all (by decide)).append (hrun letters.all (by decide))

/-- A duration is refused where it starts, or at a unit. -/
theorem DurationFault.place (h : DurationFault cause used behind) :
    used = [] ∨ ∀ c ∈ behind.head?, Text.isBlank c = false := by
  cases h with
  | digitless absent run => exact .inl rfl
  | number nonempty run large => exact .inl rfl
  | unit nonempty run small letters unknown =>
      refine .inr fun c hc => ?_
      cases hc
      exact not_isBlank_of_isNameChar (isNameChar_of_isAlpha (letters.all _ List.mem_cons_self))
  | product nonempty run letters known large => exact .inl rfl

theorem DurationFault.drawable_behind_colon (h : DurationFault cause used behind) :
    Drawable (':' :: used) behind cause := by
  refine ⟨?_, h.plain⟩
  rcases h.place with rfl | hsolid
  · exact cleanCut_colon behind
  · exact .of_not_blank hsolid

theorem SelectorFault.drawable_behind_colon (h : SelectorFault cause used behind) :
    Drawable (':' :: used) behind cause := by
  cases h with
  | empty => exact ⟨cleanCut_colon behind, by decide⟩
  | quoted token => exact token.drawable.append [':']
  | @alone how gap _ blank ends => exact ⟨.of_not_blank ends, by cases how <;> decide⟩
  | relative word blank token => exact ((token.drawable.append _).append _).append [':']

theorem ModifierFault.drawable (h : ModifierFault cause used behind) :
    Drawable used behind cause := by
  cases h with
  | unknown bare solid => exact ⟨.of_not_blank solid, oneLine_of_bare bare⟩
  | filter absent => exact ⟨.of_not_blank nofun, by decide⟩
  | pace value => exact value.drawable_behind_colon.append _
  | element value => exact value.drawable_behind_colon.append _
  | queue bare => exact ⟨(cleanCut_colon _).append _, oneLine_of_bare bare⟩

theorem ModifiersFault.drawable (h : ModifiersFault cause used behind) :
    Drawable used behind cause := by
  induction h with
  | here blank fault => exact fault.drawable.append _
  | later blank first fault ih => exact (ih.append _).append _

theorem IntervalFault.drawable (h : IntervalFault cause used behind) :
    Drawable used behind cause := by
  cases h with
  | @intro _ used _ pausing digit value =>
      refine Drawable.append ⟨?_, value.plain⟩ _
      rcases value.place with rfl | hsolid
      · obtain ⟨first, more, rfl, hdigit⟩ := digit
        refine .of_not_blank fun c hc => ?_
        cases hc
        exact not_isBlank_of_isNameChar (isNameChar_of_isDigit hdigit)
      · exact .of_not_blank hsolid

theorem ClauseFault.drawable (h : ClauseFault cause used behind) : Drawable used behind cause := by
  cases h with
  | event blank missing solid => exact (missing.drawable (by decide) solid).append _
  | interval blank name fault => exact (fault.drawable.append _).append _
  | modifiers blank nonempty name fault => exact (fault.drawable.append _).append _
  | polling blank name pausing value fault =>
      exact (((fault.drawable.append _).append _).append _).append _

theorem TriggerFault.drawable (h : TriggerFault cause used behind) :
    Drawable used behind cause := by
  induction h with
  | here fault => exact fault.drawable
  | later first fault ih => exact (ih.append [',']).append _

theorem ItemFault.drawable (h : ItemFault cause used behind) : Drawable used behind cause := by
  cases h with
  | delay value => exact value.drawable_behind_colon.append _
  | move value => exact (value.drawable.append [':']).append _
  | @turn switch value rest run other =>
      refine ⟨(cleanCut_colon _).append _, ?_, oneLine_of_bare run.all⟩
      cases switch <;> decide

theorem ItemsFault.drawable (h : ItemsFault isFirst cause used behind) :
    Drawable used behind cause := by
  induction h with
  | here blank fault => exact fault.drawable.append _
  | later blank first fault ih => exact (ih.append _).append _

theorem SyncFault.drawable (h : SyncFault cause used behind) : Drawable used behind cause := by
  cases h with
  | missing blank => exact ⟨.of_not_blank nofun, by decide⟩
  | unknown blank bare solid => exact ⟨.of_not_blank solid, oneLine_of_bare bare⟩
  | mode blank bare => exact ⟨((cleanCut_colon _).append _).append _, oneLine_of_bare bare⟩
  | @more sync found gap used pause more blank strategy pausing solid =>
      refine ⟨.of_not_blank fun c hc => ?_, by decide, ?_⟩
      · cases hc
        exact solid
      · rintro rfl
        exact absurd solid (by decide)

end Grammar

namespace Position

/-- At the start of a line the line is told by the feeds in front, and the
column starts from one. -/
theorem start_after_line {front left : List Char} (opens : Text.OpensLine front)
    (hleft : '\n' ∉ left) :
    (start.after (front ++ left)).line = front.count '\n' + 1 ∧
      (start.after (front ++ left)).column = left.length + 1 := by
  have hfront : (start.after front).column = 1 := by
    rcases List.eq_nil_or_concat front with rfl | ⟨more, last, hfront⟩
    · rfl
    · rw [List.concat_eq_append] at hfront
      subst hfront
      rw [opens last List.getLast?_concat]
      exact column_after_feed start more
  constructor
  · rw [line_after, List.count_append, List.count_eq_zero_of_not_mem hleft]
    exact Nat.add_comm _ _
  · rw [after_append, column_after_of_line _ hleft, hfront]
    exact Nat.add_comm _ _

end Position

namespace ParseError

open Text (OpensLine EndsLine IsLine OneLine)

/-- An error in the middle of a line, with its text cut at both ends of that
line and at the place. -/
structure InLine (e : ParseError) (text : String) (front left right behind : List Char) : Prop where
  cut : text.toList = front ++ (left ++ right ++ behind)
  place : e.position = Position.start.after (front ++ left)
  opens : OpensLine front
  whole : '\n' ∉ left ++ right
  ends : EndsLine (left ++ right) behind

namespace InLine

variable {e : ParseError} {text : String} {front left right behind : List Char}

theorem line_column (h : e.InLine text front left right behind) :
    e.position.line = front.count '\n' + 1 ∧ e.position.column = left.length + 1 := by
  rw [h.place]
  exact Position.start_after_line h.opens fun hmem => h.whole (List.mem_append_left _ hmem)

theorem isLine (h : e.InLine text front left right behind) :
    IsLine text.toList e.position.line (left ++ right) := by
  rw [h.cut, h.line_column.1]
  exact .intro h.opens h.whole h.ends

theorem sourceLine_eq (h : e.InLine text front left right behind) :
    e.sourceLine text = String.ofList (left ++ right) :=
  h.isLine.getD_lines

theorem indent_eq (h : e.InLine text front left right behind) :
    e.indent text = String.ofList (left.map fun c => if c = '\t' then '\t' else ' ') := by
  unfold indent
  rw [h.sourceLine_eq, String.toList_ofList, h.line_column.2, Nat.add_sub_cancel, List.take_left]

/-- The text behind the place goes on with the rest of the line. -/
theorem rest_eq (h : e.InLine text front left right behind) {before rest : List Char}
    (htext : text.toList = before ++ rest)
    (hoffset : (String.ofList before).utf8ByteSize = e.position.offset) :
    rest = right ++ behind := by
  have hfrom : Position.charsFrom? e.position.offset text.toList = some rest := by
    rw [← hoffset, htext]
    exact Position.charsFrom?_append before rest
  have hcut : text.toList = front ++ left ++ (right ++ behind) := by
    rw [h.cut]
    simp
  rw [h.place, Position.offset_start_after, hcut, Position.charsFrom?_append] at hfrom
  exact (Option.some.inj hfrom).symm

theorem caret (h : e.InLine text front left right behind) (hplain : e.cause.Plain) :
    e.Caret text (e.sourceLine text) (e.indent text) where
  rendered := rfl
  feeds := by
    have hmessage : OneLine e.message :=
      ((Text.oneLine_written _).append (by decide)).append hplain.oneLine
    have hline : OneLine (e.sourceLine text) := by
      rw [h.sourceLine_eq, OneLine, String.toList_ofList]
      exact h.whole
    have hindent : OneLine (e.indent text) := by
      intro hmem
      rw [h.indent_eq, String.toList_ofList] at hmem
      obtain ⟨c, -, hc⟩ := List.mem_map.mp hmem
      split at hc <;> cases hc
    unfold render
    simp only [String.toList_append, List.count_append, List.count_eq_zero_of_not_mem hmessage,
      List.count_eq_zero_of_not_mem hline, List.count_eq_zero_of_not_mem hindent]
    decide
  isLine := by
    rw [h.sourceLine_eq, String.toList_ofList]
    exact h.isLine
  width := by
    rw [h.indent_eq, h.line_column.2, String.length_ofList, List.length_map, Nat.add_sub_cancel]
  tabs := by
    rw [h.indent_eq, h.sourceLine_eq, String.toList_ofList, String.toList_ofList]
    intro i hi
    rw [String.length_ofList, List.length_map] at hi
    rw [List.getElem?_map, List.getElem?_append_left hi, List.getElem?_eq_getElem hi]
    simp
  above := by
    intro before x rest htext hoffset hfeed hreturn
    have hrest := h.rest_eq htext hoffset
    rw [h.indent_eq, h.sourceLine_eq, String.toList_ofList, String.length_ofList, List.length_map,
      List.getElem?_append_right (Nat.le_refl _), Nat.sub_self]
    cases right with
    | cons d more =>
        obtain ⟨rfl, -⟩ := List.cons.inj hrest
        rfl
    | nil =>
        have hends := h.ends
        cases hends with
        | last => cases hrest
        | feed apart => exact absurd (List.cons.inj hrest).1 hfeed
        | returnFeed =>
            obtain ⟨hx, hmore⟩ := List.cons.inj hrest
            exact absurd ⟨hx, by rw [hmore]; rfl⟩ hreturn

end InLine

end ParseError

namespace Cursor

open ParseError (Drawable)

variable {text : String} {e : ParseError}
  {F : ParseError.Cause → List Char → List Char → Prop}

theorem Faults.exists_caret (h : Faults F (.start text) e)
    (hdrawable : ∀ {used behind}, F e.cause used behind → Drawable used behind e.cause) :
    ∃ line indent, e.Caret text line indent := by
  obtain ⟨used, here, htakes, hplace, hfault⟩ := h
  obtain ⟨hclean, hplain⟩ := hdrawable hfault
  obtain ⟨front, left, right, behind, rfl, hbehind, hopens, hwhole, hends⟩ := hclean.exists_line
  have hcut : text.toList = front ++ left ++ here.rest := htakes.rest_eq
  have hinLine : e.InLine text front left right behind := by
    refine ⟨?_, hplace.trans htakes.position_eq, hopens, hwhole, hends⟩
    rw [hcut, hbehind]
    simp
  exact ⟨_, _, hinLine.caret hplain⟩

end Cursor

/-- Whichever language a text is read in, the picture of an error shows its line
and the place in it. -/
theorem caret_of_parse_error (text : String) (defaults : Swap.Defaults) (e : ParseError)
    (h : Trigger.parse text = .error e ∨ Swap.parse defaults text = .error e ∨
      Sync.parse text = .error e) : ∃ line indent, e.Caret text line indent := by
  rcases h with htrigger | hswap | hsync
  · exact (Trigger.parse_error_triggerFault htrigger).exists_caret TriggerFault.drawable
  · exact (Swap.parse_error_itemsFault hswap).exists_caret ItemsFault.drawable
  · exact (Sync.parse_error_syncFault hsync).exists_caret SyncFault.drawable

/-- A unit behind a tab on a second line, a value that is missing at the end of
the text, and a mode that is missing in front of a line ending. -/
theorem caret_of_parse_error_at_ends :
    (∃ line indent, (⟨⟨19, 2, 15⟩, .unexpectedChar "unit (ms, s)" 'x'⟩ : ParseError).Caret
        "é,\r\n\tkeyup\tdelay:5x" line indent) ∧
      (∃ line indent, (⟨⟨12, 2, 7⟩, .invalidNumber ""⟩ : ParseError).Caret
        "none\r\n swap:" line indent) ∧
      ∃ line indent, (⟨⟨6, 1, 7⟩, .invalidModifier ""⟩ : ParseError).Caret
        "queue:\r\n" line indent := by
  refine ⟨caret_of_parse_error _ .documented _ (.inl ?_),
    caret_of_parse_error _ .documented _ (.inr (.inl ?_)),
    caret_of_parse_error _ .documented _ (.inr (.inr ?_))⟩
  · decide +kernel
  · decide +kernel
  · decide +kernel

end Hypermedia
