/-!
Which of several pending requests survives when requests overlap.
-/

namespace Hypermedia

/-- What happens to the requests that wait behind a running one. -/
inductive QueueMode where
  | drop
  | replace
  | first
  | last
  | all
deriving DecidableEq, Repr

namespace QueueMode

def values : List QueueMode := [drop, replace, first, last, all]

/-- The word that stands for the mode. -/
def keyword : QueueMode → String
  | drop => "drop"
  | replace => "replace"
  | first => "first"
  | last => "last"
  | all => "all"

/-- The name of the mode in structured output. -/
def tag : QueueMode → String
  | drop => "Drop"
  | replace => "Replace"
  | first => "QueueFirst"
  | last => "QueueLast"
  | all => "QueueAll"

/-- The mode that a word stands for. -/
def ofKeyword? (word : String) : Option QueueMode :=
  values.find? fun mode => mode.keyword == word

theorem ofKeyword?_keyword (mode : QueueMode) : ofKeyword? mode.keyword = some mode := by
  cases mode <;> decide

/-- No other word stands for a mode. -/
theorem keyword_of_ofKeyword? {word : String} {mode : QueueMode}
    (h : ofKeyword? word = some mode) : mode.keyword = word := by
  simpa using List.find?_some h

end QueueMode

end Hypermedia
