import Hypermedia.Swap.Entry

/-!
Reading swaps. The entries of the text are found first, and what they say is
laid over the starting values after that. So the starting values can decide
neither whether a text can be read nor what it sets.
-/

namespace Hypermedia.Swap

/-- The options after one more entry. -/
def Options.apply (options : Options) (entry : Entry) : Options :=
  match entry.item with
  | .strategy named => { options with strategy := named }
  | .setting setting => options.set setting
  | .ignored _ => options

/-- The options that the entries of a text lay over the starting values. -/
def Options.ofEntries (defaults : Defaults) (entries : List Entry) : Options :=
  entries.foldl Options.apply (.start defaults)

/-- How far a text can be read as a swap. -/
def read (text : String) : Reading Entry :=
  entries true (.start text)

/-- The options that a text lays over the starting values, or its first
fault. -/
def parse (defaults : Defaults) (text : String) : Except ParseError Options :=
  (read text).toExcept.map (Options.ofEntries defaults)

/-- The report on something that is passed over. -/
def Ignored.record (start : Position) : Ignored → Log.Record
  | .token text =>
      { level := .debug
        message := "ignoring swap token"
        fields := [("start", start.written), ("word", text)] }
  | .word text =>
      { level := .debug
        message := "ignoring swap word"
        fields := [("start", start.written), ("word", text)] }
  | .setting key value =>
      { level := .debug
        message := "ignoring unknown swap key"
        fields := [("start", start.written), ("key", key), ("value", value)] }

/-- The report on an entry: nothing, unless it is passed over. -/
def Entry.record? (entry : Entry) : Option Log.Record :=
  match entry.item with
  | .ignored what => some (what.record entry.start)
  | _ => none

/-- What reading a swap reports: each entry that is passed over. -/
def log (text : String) : List Log.Record :=
  (read text).parts.filterMap Entry.record?

end Hypermedia.Swap
