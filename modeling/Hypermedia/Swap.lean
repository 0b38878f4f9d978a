import Hypermedia.Duration
import Hypermedia.Text.Basic
import Hypermedia.Token

/-!
Swaps: how the content of a response is put into the document. The written form
of the options leaves out whatever has its documented starting value.
-/

namespace Hypermedia.Swap

/-- Where new content goes, or what happens in its stead. -/
inductive Strategy where
  | innerHTML
  | outerHTML
  | beforeBegin
  | afterBegin
  | beforeEnd
  | afterEnd
  | delete
  /-- The document is left as it is. -/
  | keep
deriving DecidableEq, Repr

def Strategy.values : List Strategy :=
  [.innerHTML, .outerHTML, .beforeBegin, .afterBegin, .beforeEnd, .afterEnd, .delete, .keep]

/-- The word that stands for the strategy in an attribute. -/
def Strategy.keyword : Strategy → String
  | .innerHTML => "innerHTML"
  | .outerHTML => "outerHTML"
  | .beforeBegin => "beforeBegin"
  | .afterBegin => "afterBegin"
  | .beforeEnd => "beforeEnd"
  | .afterEnd => "afterEnd"
  | .delete => "delete"
  | .keep => "none"

/-- The name of the strategy in settings and in output. -/
def Strategy.tag : Strategy → String
  | .innerHTML => "InnerHTML"
  | .outerHTML => "OuterHTML"
  | .beforeBegin => "BeforeBegin"
  | .afterBegin => "AfterBegin"
  | .beforeEnd => "BeforeEnd"
  | .afterEnd => "AfterEnd"
  | .delete => "Delete"
  | .keep => "None"

/-- The strategy that a word stands for. Case does not matter. -/
def Strategy.ofKeyword? (word : String) : Option Strategy :=
  Strategy.values.find? fun strategy => Text.sameLetters strategy.keyword word

/-- The strategy with this name, which has to be spelled exactly. -/
def Strategy.ofTag? (name : String) : Option Strategy :=
  Strategy.values.find? fun strategy => strategy.tag == name

theorem Strategy.ofKeyword?_keyword (strategy : Strategy) :
    Strategy.ofKeyword? strategy.keyword = some strategy := by
  cases strategy <;> decide

theorem Strategy.ofTag?_tag (strategy : Strategy) :
    Strategy.ofTag? strategy.tag = some strategy := by
  cases strategy <;> decide

/-- What a swap starts from where its text says nothing. -/
structure Defaults where
  strategy : Strategy
  swapDelay : Duration
  settleDelay : Duration
deriving DecidableEq, Repr

/-- The starting values that are documented. -/
def Defaults.documented : Defaults := ⟨.innerHTML, .zero, .zero⟩

/-- A whole swap. -/
structure Options where
  strategy : Strategy
  swapDelay : Duration
  settleDelay : Duration
  /-- What to scroll into view; empty for nothing. -/
  scroll : String
  /-- What to show after the swap; empty for nothing. -/
  reveal : String
  focusScroll : Bool
  transition : Bool
  ignoreTitle : Bool
deriving DecidableEq, Repr

/-- The options of a swap whose text says nothing. -/
def Options.start (defaults : Defaults) : Options where
  strategy := defaults.strategy
  swapDelay := defaults.swapDelay
  settleDelay := defaults.settleDelay
  scroll := ""
  reveal := ""
  focusScroll := true
  transition := false
  ignoreTitle := false

/-- The delays that a swap can set. -/
inductive Timing where
  | swap
  | settle
deriving DecidableEq, Repr

def Timing.values : List Timing := [.swap, .settle]

def Timing.keyword : Timing → String
  | .swap => "swap"
  | .settle => "settle"

def Timing.ofKeyword? (word : String) : Option Timing :=
  Timing.values.find? fun timing => timing.keyword == word

theorem Timing.ofKeyword?_keyword (timing : Timing) :
    Timing.ofKeyword? timing.keyword = some timing := by
  cases timing <;> decide

/-- The movements of the page that a swap can ask for. -/
inductive Movement where
  | scroll
  | reveal
deriving DecidableEq, Repr

def Movement.values : List Movement := [.scroll, .reveal]

def Movement.keyword : Movement → String
  | .scroll => "scroll"
  | .reveal => "show"

def Movement.ofKeyword? (word : String) : Option Movement :=
  Movement.values.find? fun movement => movement.keyword == word

theorem Movement.ofKeyword?_keyword (movement : Movement) :
    Movement.ofKeyword? movement.keyword = some movement := by
  cases movement <;> decide

/-- The settings that are on or off. -/
inductive Switch where
  | focusScroll
  | transition
  | ignoreTitle
deriving DecidableEq, Repr

def Switch.values : List Switch := [.focusScroll, .transition, .ignoreTitle]

def Switch.keyword : Switch → String
  | .focusScroll => "focus-scroll"
  | .transition => "transition"
  | .ignoreTitle => "ignoreTitle"

def Switch.ofKeyword? (word : String) : Option Switch :=
  Switch.values.find? fun switch => switch.keyword == word

theorem Switch.ofKeyword?_keyword (switch : Switch) :
    Switch.ofKeyword? switch.keyword = some switch := by
  cases switch <;> decide

/-- A setting together with its value. -/
inductive Setting where
  | delay (timing : Timing) (time : Duration)
  | move (movement : Movement) (place : String)
  | turn (switch : Switch) (isOn : Bool)
deriving DecidableEq, Repr

namespace Setting

def written : Setting → String
  | .delay timing time => timing.keyword ++ ":" ++ time.written
  | .move movement place => movement.keyword ++ ":" ++ Token.written [] place
  | .turn switch true => switch.keyword ++ ":true"
  | .turn switch false => switch.keyword ++ ":false"

end Setting

namespace Options

/-- The options after one more setting. A later setting overrides. -/
def set (options : Options) : Setting → Options
  | .delay .swap time => { options with swapDelay := time }
  | .delay .settle time => { options with settleDelay := time }
  | .move .scroll place => { options with scroll := place }
  | .move .reveal place => { options with reveal := place }
  | .turn .focusScroll isOn => { options with focusScroll := isOn }
  | .turn .transition isOn => { options with transition := isOn }
  | .turn .ignoreTitle isOn => { options with ignoreTitle := isOn }

/-- All settings of the options, in the order in which they are written. -/
def settings (options : Options) : List Setting :=
  [.delay .swap options.swapDelay, .delay .settle options.settleDelay,
    .move .scroll options.scroll, .move .reveal options.reveal,
    .turn .focusScroll options.focusScroll, .turn .transition options.transition,
    .turn .ignoreTitle options.ignoreTitle]

/-- The strategy, and each setting that differs from its documented starting
value. -/
def written (options : Options) : String :=
  let silent := (start .documented).settings
  let spoken := options.settings.filter fun setting => !silent.contains setting
  " ".intercalate (options.strategy.keyword :: spoken.map Setting.written)

end Options

end Hypermedia.Swap
