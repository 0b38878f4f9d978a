import Hypermedia.Proofs.Position.Offset
import Hypermedia.Proofs.Reader.Duration

/-!
Runs of the shared readers in any order. The readers of a language stop at the
first error, but a cursor can be asked again from wherever an error has left it,
so nothing is assumed of the steps in front of a step. What holds all along is
that the cursor stands between two characters of its text, that its place is the
one counted from the start, and that it never goes back.

A step that succeeds uses up exactly what its answer accounts for.
-/

namespace Hypermedia

open Grammar

namespace Cursor

/-- The cursor stands in this text. Its offset is one of the text and cuts it
between two characters, its line and column belong to that offset, and what is
left is what stands behind the cut. -/
structure Coherent (text : String) (c : Cursor) : Prop where
  within : c.position.offset ≤ text.utf8ByteSize
  cut : Position.charsFrom? c.position.offset text.toList = some c.rest
  counted : c.position = Position.ofOffset text c.position.offset

variable {c d : Cursor}

theorem Reaches.offset_le (h : c.Reaches d) : c.position.offset ≤ d.position.offset := by
  obtain ⟨used, -, hplace⟩ := h
  rw [hplace, Position.offset_after]
  exact Nat.le_add_right _ _

theorem Reaches.coherent {text : String} (h : (start text).Reaches c) : c.Coherent text := by
  obtain ⟨used, hrest, hplace⟩ := h
  have htext : text.toList = used ++ c.rest := hrest
  have hposition : c.position = Position.start.after used := hplace
  refine ⟨?_, ?_, ?_⟩
  · rw [hposition]
    exact Position.offset_start_after_le htext
  · rw [hposition, Position.offset_start_after, htext]
    exact Position.charsFrom?_append used c.rest
  · rw [hposition]
    exact (Position.ofOffset_after htext).symm

end Cursor

namespace Reader

/-- What can be asked of a cursor. -/
inductive Operation where
  | blank
  | name
  | duration (units : List String)
  | literal (text : String)
  | literal? (text : String)
  | bracketed
  | token
  | bareToken

/-- What is answered when nothing is wrong. -/
inductive Answer where
  | done
  | text (value : String)
  | time (value : Duration)
  | found (isThere : Bool)

namespace Operation

def reader : Operation → Reader Answer
  | .blank => do
      Reader.blank
      pure .done
  | .name => do return .text (← Reader.name)
  | .duration units => do return .time (← Reader.duration units)
  | .literal text => do
      Reader.literal text
      pure .done
  | .literal? text => do return .found (← Reader.literal? text)
  | .bracketed => do return .text (← Reader.bracketed)
  | .token => do return .text (← Reader.token)
  | .bareToken => do return .text (← Reader.bareToken)

/-- Where the operation leaves the cursor, with an answer or with an error. -/
def after (c : Cursor) (operation : Operation) : Cursor :=
  cursorAfter (operation.reader c)

/-- Where operations leave the cursor, one after another. An error does not
stop them. -/
def afterAll (c : Cursor) (operations : List Operation) : Cursor :=
  operations.foldl after c

/-- The text `used` that an answer accounts for, with `rest` behind it: the
value itself, the value in the brackets or quotes that it came in, or the
literal. -/
inductive Accounts : Operation → Answer → List Char → List Char → Prop
  | blank {gap rest : List Char} (run : MaximalRun Text.isBlank gap rest) :
      Accounts .blank .done gap rest
  | name {value : String} {rest : List Char} (nonempty : value ≠ "")
      (run : MaximalRun isNameChar value.toList rest) :
      Accounts .name (.text value) value.toList rest
  | duration {units : List String} {time : Duration} {used rest : List Char}
      (text : NumberText units time used rest) : Accounts (.duration units) (.time time) used rest
  | literal {text : String} {rest : List Char} : Accounts (.literal text) .done text.toList rest
  | present {text : String} {rest : List Char} :
      Accounts (.literal? text) (.found true) text.toList rest
  | absent {text : String} {rest : List Char} (other : ¬ text.toList <+: rest) :
      Accounts (.literal? text) (.found false) [] rest
  | bracketed {value : String} {rest : List Char} (absent : ']' ∉ value.toList) :
      Accounts .bracketed (.text value) ('[' :: (value.toList ++ [']'])) rest
  | token {value : String} {used rest : List Char} (text : TokenText value used rest) :
      Accounts .token (.text value) used rest
  | bareToken {value : String} {rest : List Char} (run : MaximalRun isBareChar value.toList rest) :
      Accounts .bareToken (.text value) value.toList rest

theorem forward (operation : Operation) : Forward operation.reader := by
  cases operation with
  | blank => exact forward_bind forward_blank fun _ => forward_pure _
  | name => exact forward_bind forward_name fun _ => forward_pure _
  | duration units => exact forward_bind (forward_duration units) fun _ => forward_pure _
  | literal text => exact forward_bind (forward_literal text) fun _ => forward_pure _
  | literal? text => exact forward_bind (forward_literal? text) fun _ => forward_pure _
  | bracketed => exact forward_bind forward_bracketed fun _ => forward_pure _
  | token => exact forward_bind forward_token fun _ => forward_pure _
  | bareToken => exact forward_bind forward_bareToken fun _ => forward_pure _

theorem reaches_after (c : Cursor) (operation : Operation) : c.Reaches (operation.after c) :=
  operation.forward c

theorem reaches_afterAll (c : Cursor) (operations : List Operation) :
    c.Reaches (afterAll c operations) := by
  induction operations generalizing c with
  | nil => exact .refl c
  | cons operation others ih => exact (reaches_after c operation).trans (ih _)

/-- What a step uses up if it succeeds. -/
theorem accounts {operation : Operation} {answer : Answer} {c d : Cursor}
    (h : operation.reader c = .ok answer d) :
    ∃ used, c.Takes used d ∧ operation.Accounts answer used d.rest := by
  cases operation with
  | blank =>
      cases h
      exact ⟨_, c.takes_pastRun Text.isBlank, .blank (c.maximalRun_run Text.isBlank)⟩
  | name =>
      obtain ⟨value, here, hname, h⟩ := ok_of_bind h
      cases h
      obtain ⟨htakes, hne, hrun⟩ := name_eq_ok_iff.mp hname
      exact ⟨_, htakes, .name hne hrun⟩
  | duration units =>
      obtain ⟨time, here, htime, h⟩ := ok_of_bind h
      cases h
      obtain ⟨used, htakes, htext⟩ := duration_listed htime
      exact ⟨used, htakes, .duration htext⟩
  | literal text =>
      obtain ⟨_, here, hliteral, h⟩ := ok_of_bind h
      cases h
      exact ⟨_, literal_eq_ok_iff.mp hliteral, .literal⟩
  | literal? text =>
      obtain ⟨found, here, hfound, h⟩ := ok_of_bind h
      cases h
      cases found with
      | true => exact ⟨_, takes_of_literal? hfound, .present⟩
      | false =>
          obtain ⟨rfl, hother⟩ := literal?_other hfound
          exact ⟨[], c.takes_nil, .absent hother⟩
  | bracketed =>
      obtain ⟨value, here, hvalue, h⟩ := ok_of_bind h
      cases h
      obtain ⟨htakes, habsent⟩ := bracketed_eq_ok_iff.mp hvalue
      exact ⟨_, htakes, .bracketed habsent⟩
  | token =>
      obtain ⟨value, here, hvalue, h⟩ := ok_of_bind h
      cases h
      obtain ⟨used, htakes, htext⟩ := token_eq_ok_iff.mp hvalue
      exact ⟨used, htakes, .token htext⟩
  | bareToken =>
      obtain ⟨value, here, hvalue, h⟩ := ok_of_bind h
      cases h
      obtain ⟨htakes, hrun⟩ := bareToken_eq_ok_iff.mp hvalue
      exact ⟨_, htakes, .bareToken hrun⟩

/-- After every run of operations, failed ones among them, the cursor stands in
its text, and so it does after one more. That one does not take it back, and
uses up what its answer accounts for if it has one. -/
theorem coherent_afterAll (text : String) (operations : List Operation) (next : Operation) :
    (afterAll (.start text) operations).Coherent text ∧
      (next.after (afterAll (.start text) operations)).Coherent text ∧
      (afterAll (.start text) operations).position.offset ≤
        (next.after (afterAll (.start text) operations)).position.offset ∧
      ∀ answer d, next.reader (afterAll (.start text) operations) = .ok answer d →
        ∃ used, (afterAll (.start text) operations).Takes used d ∧
          next.Accounts answer used d.rest := by
  have hrun := reaches_afterAll (.start text) operations
  have hstep := reaches_after (afterAll (.start text) operations) next
  exact ⟨hrun.coherent, (hrun.trans hstep).coherent, hstep.offset_le, fun _ _ h => accounts h⟩

/-- A number that is missing and a bracket that is, and then a span over two
lines. -/
theorem coherent_afterAll_behind_failures :
    afterAll (.start "é \n[a\nü]'x") [.name, .duration ["ms"], .blank, .literal "]"] =
        ⟨⟨4, 2, 1⟩, "[a\nü]'x".toList⟩ ∧
      (⟨⟨4, 2, 1⟩, "[a\nü]'x".toList⟩ : Cursor).Coherent "é \n[a\nü]'x" ∧
      bracketed.reader ⟨⟨4, 2, 1⟩, "[a\nü]'x".toList⟩ =
        .ok (.text "a\nü") ⟨⟨10, 3, 3⟩, "'x".toList⟩ ∧
      ∃ used, (⟨⟨4, 2, 1⟩, "[a\nü]'x".toList⟩ : Cursor).Takes used ⟨⟨10, 3, 3⟩, "'x".toList⟩ ∧
        bracketed.Accounts (.text "a\nü") used "'x".toList := by
  have hcursor : afterAll (.start "é \n[a\nü]'x")
      [.name, .duration ["ms"], .blank, .literal "]"] = ⟨⟨4, 2, 1⟩, "[a\nü]'x".toList⟩ := by
    decide +kernel
  have hspan : Reader.bracketed ⟨⟨4, 2, 1⟩, "[a\nü]'x".toList⟩ =
      .ok "a\nü" ⟨⟨10, 3, 3⟩, "'x".toList⟩ :=
    bracketed_eq_ok_iff.mpr ⟨⟨by decide, by decide⟩, by decide⟩
  have hread : bracketed.reader ⟨⟨4, 2, 1⟩, "[a\nü]'x".toList⟩ =
      .ok (.text "a\nü") ⟨⟨10, 3, 3⟩, "'x".toList⟩ :=
    bind_of_ok hspan
  obtain ⟨hcoherent, -, -, haccounts⟩ := coherent_afterAll "é \n[a\nü]'x"
    [.name, .duration ["ms"], .blank, .literal "]"] bracketed
  rw [hcursor] at hcoherent haccounts
  exact ⟨hcursor, hcoherent, hread, haccounts _ _ hread⟩

end Operation

end Reader

end Hypermedia
