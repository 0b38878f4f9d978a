import Mathlib.Control.Monad.Basic
import Hypermedia.Proofs.Swap.Fault
import Hypermedia.Proofs.Sync
import Hypermedia.Proofs.Trigger.Fault

/-!
Which errors there are. The shared readers can fail in more ways than a
language ever sees, since they are asked only where what comes next has been
looked at: for a name where one starts, for a bracket where there is one, and
for a comma where a clause has ended and the text has not. So a language reports
fewer kinds of errors than its readers do. The lists of these kinds are exact:
each kind on them is met in some text.
-/

namespace Hypermedia

namespace ParseError

/-- A cause without what it quotes from the text. -/
inductive Cause.Kind where
  | unexpectedChar (expected : String)
  | unexpectedEnd (expected : String)
  | invalidNumber
  | invalidModifier
  | invalidSelector
  | invalidValue (key : String)
deriving DecidableEq

@[simp]
def Cause.kind : Cause → Cause.Kind
  | .unexpectedChar expected _ => .unexpectedChar expected
  | .unexpectedEnd expected => .unexpectedEnd expected
  | .invalidNumber _ => .invalidNumber
  | .invalidModifier _ => .invalidModifier
  | .invalidSelector _ => .invalidSelector
  | .invalidValue key _ => .invalidValue key

/-- What is due, for the kinds that are about something missing. -/
def Cause.Kind.expected? : Cause.Kind → Option String
  | .unexpectedChar expected => some expected
  | .unexpectedEnd expected => some expected
  | _ => none

/-- The kind of the error, if there is one. -/
def kind? {α : Type} : Except ParseError α → Option Cause.Kind
  | .ok _ => none
  | .error e => some e.cause.kind

theorem kind?_eq_some_iff {α : Type} {result : Except ParseError α} {kind : Cause.Kind} :
    kind? result = some kind ↔ ∃ e, result = .error e ∧ e.cause.kind = kind := by
  cases result with
  | ok a => exact ⟨nofun, nofun⟩
  | error e => simp [kind?]

/-- The errors of texts are of these kinds, and of each of them there is one. -/
structure Reports {α : Type} (parse : String → Except ParseError α) (kinds : List Cause.Kind) :
    Prop where
  only : ∀ text e, parse text = .error e → e.cause.kind ∈ kinds
  each : ∀ kind ∈ kinds, ∃ text e, parse text = .error e ∧ e.cause.kind = kind

end ParseError

namespace Grammar

open ParseError (Cause)
open Swap (Switch)

/-- The kinds of errors in a token: either quote may be left open. -/
def tokenKinds : List Cause.Kind :=
  [.unexpectedEnd "closing \"", .unexpectedEnd "closing '"]

def durationKinds : List Cause.Kind :=
  [.invalidNumber, .unexpectedChar "unit (ms, s)"]

def triggerKinds : List Cause.Kind :=
  [.unexpectedChar "event name", .unexpectedEnd "event name", .unexpectedEnd "']'",
    .invalidModifier, .invalidSelector] ++ durationKinds ++ tokenKinds

def swapKinds : List Cause.Kind :=
  [.invalidValue "focus-scroll", .invalidValue "transition", .invalidValue "ignoreTitle"] ++
    durationKinds ++ tokenKinds

def syncKinds : List Cause.Kind :=
  [.unexpectedEnd "sync strategy", .unexpectedChar "end of input", .invalidModifier]

variable {cause : Cause} {used behind : List Char}

theorem TokenFault.kind_mem (h : TokenFault cause used behind) : cause.kind ∈ tokenKinds := by
  cases h with
  | @unclosed quote inner kind absent =>
      have hquote : quote = '"' ∨ quote = '\'' := by simpa [isQuote] using kind
      rcases hquote with rfl | rfl <;> decide

theorem DurationFault.kind_mem (h : DurationFault cause used behind) :
    cause.kind ∈ durationKinds := by
  have hunit : "unit (" ++ ", ".intercalate Duration.attributeUnits ++ ")" = "unit (ms, s)" := by
    decide
  cases h with
  | digitless absent run => simp [durationKinds]
  | number nonempty run large => simp [durationKinds]
  | unit nonempty run small letters unknown => simp [durationKinds, hunit]
  | product nonempty run letters known large => simp [durationKinds]

theorem TokenFault.kind_mem_trigger (h : TokenFault cause used behind) :
    cause.kind ∈ triggerKinds :=
  List.mem_append_right _ h.kind_mem

theorem DurationFault.kind_mem_trigger (h : DurationFault cause used behind) :
    cause.kind ∈ triggerKinds :=
  List.mem_append_left _ (List.mem_append_right _ h.kind_mem)

theorem SelectorFault.kind_mem (h : SelectorFault cause used behind) :
    cause.kind ∈ triggerKinds := by
  cases h with
  | empty => simp [triggerKinds]
  | quoted token => exact token.kind_mem_trigger
  | alone blank ends => simp [triggerKinds]
  | relative word blank token => exact token.kind_mem_trigger

theorem ModifierFault.kind_mem (h : ModifierFault cause used behind) :
    cause.kind ∈ triggerKinds := by
  cases h with
  | unknown bare solid => simp [triggerKinds]
  | filter absent => simp [triggerKinds]
  | pace value => exact value.kind_mem_trigger
  | element value => exact value.kind_mem
  | queue bare => simp [triggerKinds]

theorem ModifiersFault.kind_mem (h : ModifiersFault cause used behind) :
    cause.kind ∈ triggerKinds := by
  induction h with
  | here blank fault => exact fault.kind_mem
  | later blank first fault ih => exact ih

/-- All that can be missing in a clause is its event. -/
theorem ClauseFault.kind_mem (h : ClauseFault cause used behind) :
    cause.kind ∈ triggerKinds := by
  cases h with
  | event blank missing solid => cases missing <;> simp [triggerKinds]
  | interval blank name fault =>
      cases fault with
      | intro pausing digit value => exact value.kind_mem_trigger
  | modifiers blank nonempty name fault => exact fault.kind_mem
  | polling blank name pausing value fault => exact fault.kind_mem

/-- A comma is never missing: no fault of a trigger lies between its clauses. -/
theorem TriggerFault.kind_mem (h : TriggerFault cause used behind) :
    cause.kind ∈ triggerKinds := by
  induction h with
  | here fault => exact fault.kind_mem
  | later first fault ih => exact ih

theorem ItemFault.kind_mem (h : ItemFault cause used behind) : cause.kind ∈ swapKinds := by
  cases h with
  | delay value => exact List.mem_append_left _ (List.mem_append_right _ value.kind_mem)
  | move value => exact List.mem_append_right _ value.kind_mem
  | @turn switch value rest run other => cases switch <;> simp [swapKinds, Switch.keyword]

/-- A switch refuses what is neither of its two values. -/
theorem ItemFault.value_ne {key value : String}
    (h : ItemFault (.invalidValue key value) used behind) (isOn : Bool) :
    value ≠ Switch.state isOn := by
  cases h with
  | delay value => cases value
  | move value => cases value
  | turn run other => exact other isOn

theorem ItemsFault.exists_itemFault {isFirst : Bool} (h : ItemsFault isFirst cause used behind) :
    ∃ last, ItemFault cause last behind := by
  induction h with
  | here blank fault => exact ⟨_, fault⟩
  | later blank first fault ih => exact ih

theorem SyncFault.kind_mem (h : SyncFault cause used behind) : cause.kind ∈ syncKinds := by
  cases h with
  | missing blank => simp [syncKinds]
  | unknown blank bare solid => simp [syncKinds]
  | mode blank bare => simp [syncKinds]
  | more blank strategy pausing solid => simp [syncKinds]

end Grammar

open Grammar ParseError

theorem Swap.exists_itemFault_of_parse_error {defaults : Swap.Defaults} {text : String}
    {e : ParseError} (h : Swap.parse defaults text = .error e) :
    ∃ used behind, ItemFault e.cause used behind := by
  obtain ⟨used, here, -, -, hfault⟩ := Swap.parse_error_itemsFault h
  obtain ⟨last, hitem⟩ := hfault.exists_itemFault
  exact ⟨last, here.rest, hitem⟩

/-- It is enough to show a text for each kind. -/
theorem ParseError.reports_of_samples {α : Type} {parse : String → Except ParseError α}
    {kinds : List Cause.Kind} (honly : ∀ text e, parse text = .error e → e.cause.kind ∈ kinds)
    (samples : List String)
    (heach : ∀ kind ∈ kinds, ∃ text ∈ samples, kind? (parse text) = some kind) :
    Reports parse kinds where
  only := honly
  each kind hkind := by
    obtain ⟨text, -, hsome⟩ := heach kind hkind
    exact ⟨text, kind?_eq_some_iff.mp hsome⟩

theorem Trigger.reports : Reports Trigger.parse triggerKinds := by
  refine reports_of_samples (fun text e h => ?_)
    ["!", "", "a[", "a b", "a from:", "a delay:x", "a delay:1x", "a from:\"", "a from:'"]
    (by decide +kernel)
  obtain ⟨used, here, -, -, hfault⟩ := Trigger.parse_error_triggerFault h
  exact hfault.kind_mem

/-- The kind of an error does not depend on the starting values. -/
theorem Swap.kind?_parse (defaults : Swap.Defaults) (text : String) :
    kind? (Swap.parse defaults text) = kind? (Swap.read text).toExcept := by
  unfold Swap.parse
  cases (Swap.read text).toExcept <;> rfl

theorem Swap.reports (defaults : Swap.Defaults) : Reports (Swap.parse defaults) swapKinds := by
  refine reports_of_samples (fun text e h => ?_)
    ["focus-scroll:", "transition:", "ignoreTitle:", "swap:x", "swap:1x", "show:\"", "show:'"] ?_
  · obtain ⟨used, behind, hfault⟩ := exists_itemFault_of_parse_error h
    exact hfault.kind_mem
  · simp only [kind?_parse]
    decide +kernel

theorem Sync.reports : Reports Sync.parse syncKinds := by
  refine reports_of_samples (fun text e h => ?_) ["", "drop x", "x"] (by decide +kernel)
  obtain ⟨used, here, -, -, hfault⟩ := Sync.parse_error_syncFault h
  exact hfault.kind_mem

/-- The kinds of errors that each language reports, and what it never does: a
trigger lacks no comma, bracket or name and has no settings, a switch does not
refuse its own values, and a sync does not lack its own end. -/
theorem reported_kinds (defaults : Swap.Defaults) :
    Reports Trigger.parse triggerKinds ∧ Reports (Swap.parse defaults) swapKinds ∧
      Reports Sync.parse syncKinds ∧
      (∀ text e, Trigger.parse text = .error e →
        (∀ key value, e.cause ≠ .invalidValue key value) ∧
          ∀ expected ∈ ["','", "'['", "identifier"], e.cause.kind.expected? ≠ some expected) ∧
      (∀ text position key value,
        Swap.parse defaults text = .error ⟨position, .invalidValue key value⟩ →
          value ≠ "true" ∧ value ≠ "false") ∧
      ∀ text e, Sync.parse text = .error e →
        e.cause.kind ≠ .unexpectedEnd "end of input" ∧ e.cause.kind.expected? ≠ some "':'" := by
  refine ⟨Trigger.reports, Swap.reports defaults, Sync.reports, fun text e h => ?_,
    fun text position key value h => ?_, fun text e h => ?_⟩
  · have hkind := Trigger.reports.only text e h
    refine ⟨fun key value hcause => ?_, ?_⟩
    · rw [hcause] at hkind
      simp [triggerKinds, durationKinds, tokenKinds] at hkind
    · have hnever : ∀ kind ∈ triggerKinds, ∀ expected ∈ ["','", "'['", "identifier"],
          kind.expected? ≠ some expected := by
        decide
      exact hnever _ hkind
  · obtain ⟨used, behind, hfault⟩ := Swap.exists_itemFault_of_parse_error h
    exact ⟨hfault.value_ne true, hfault.value_ne false⟩
  · have hnever : ∀ kind ∈ syncKinds,
        kind ≠ .unexpectedEnd "end of input" ∧ kind.expected? ≠ some "':'" := by
      decide
    exact hnever _ (Sync.reports.only text e h)

/-- A filter that is left open, a switch with another word, and a strategy with
something behind it. -/
theorem reported_kinds_of_broken_texts :
    Trigger.parse "click[a" = .error ⟨⟨7, 1, 8⟩, .unexpectedEnd "']'"⟩ ∧
      (∀ expected ∈ ["','", "'['", "identifier"],
        (Cause.unexpectedEnd "']'").kind.expected? ≠ some expected) ∧
      Swap.parse .documented "transition:TRUE" =
        .error ⟨⟨11, 1, 12⟩, .invalidValue "transition" "TRUE"⟩ ∧
      ("TRUE" ≠ "true" ∧ "TRUE" ≠ "false") ∧
      Sync.parse "queue :all" = .error ⟨⟨6, 1, 7⟩, .unexpectedChar "end of input" ':'⟩ ∧
      (Cause.unexpectedChar "end of input" ':').kind.expected? ≠ some "':'" := by
  have hopen : Trigger.parse "click[a" = .error ⟨⟨7, 1, 8⟩, .unexpectedEnd "']'"⟩ := by
    decide +kernel
  have hswitch : Swap.parse .documented "transition:TRUE" =
      .error ⟨⟨11, 1, 12⟩, .invalidValue "transition" "TRUE"⟩ := by
    decide +kernel
  have hmore : Sync.parse "queue :all" =
      .error ⟨⟨6, 1, 7⟩, .unexpectedChar "end of input" ':'⟩ := by
    decide +kernel
  obtain ⟨-, -, -, htrigger, hvalue, hsync⟩ := reported_kinds .documented
  exact ⟨hopen, (htrigger _ _ hopen).2, hswitch, hvalue _ _ _ _ hswitch, hmore,
    (hsync _ _ hmore).2⟩

end Hypermedia
