import Hypermedia.QueueMode
import Hypermedia.Reader

/-!
Syncs: how the requests of one element are put in order. Unlike a swap, a sync
is read strictly: there is one strategy and nothing behind it.
-/

namespace Hypermedia

/-- What becomes of a request that is made while another one is running. -/
inductive Sync where
  | drop
  | replace
  | abort
  | queue (mode : QueueMode)
deriving DecidableEq, Repr

namespace Sync

open Reader

def written : Sync → String
  | .drop => "drop"
  | .replace => "replace"
  | .abort => "abort"
  | .queue mode => "queue:" ++ mode.keyword

/-- The strategies that are a single word. -/
def ofKeyword? (word : String) : Option Sync :=
  [Sync.drop, Sync.replace, Sync.abort].find? fun sync => sync.written == word

/-- The modes in which requests do wait in a queue. -/
def queueModes : List QueueMode := [.first, .last, .all]

/-- The mode behind `queue:`. -/
def queueReader : Reader Sync := do
  let start := (← get).position
  let word ← bareToken
  match queueModes.find? fun mode => mode.keyword == word with
  | some mode => pure (.queue mode)
  | none => throw ⟨start, .invalidModifier word⟩

/-- The strategy that starts with this word, which has been read. A queue keeps
the last request if nothing else is said. -/
def strategyReader (start : Position) (word : String) : Reader Sync :=
  match ofKeyword? word with
  | some sync => pure sync
  | none =>
      if word = "queue" then do
        if ← literal? ":" then queueReader else pure (.queue .last)
      else do
        let tail ← bareToken
        throw ⟨start, .invalidModifier (word ++ tail)⟩

/-- A strategy and the end of the text. -/
def reader : Reader Sync := do
  blank
  let here ← get
  if here.atEnd then throw (here.missing "sync strategy")
  else if here.isAt isNameChar then
    let word ← name
    let sync ← strategyReader here.position word
    blank
    let behind ← get
    if behind.atEnd then pure sync else throw (behind.missing "end of input")
  else
    let word ← bareToken
    throw ⟨here.position, .invalidModifier word⟩

/-- The sync that a text stands for, or its fault. -/
def parse (text : String) : Except ParseError Sync :=
  match reader (.start text) with
  | .ok sync _ => .ok sync
  | .error e _ => .error e

end Sync

end Hypermedia
