import Hypermedia.Toml.Value

/-!
Building the tables of a TOML document. A table can come about in three ways,
and these decide what may still be added to it: a header may turn a table that
was only passed through into one of its own, once, and a dotted key may go on
only where dotted keys or headers have passed through.
-/

namespace Hypermedia.Toml

/-- A key: the tables that it passes through, and the name behind them. -/
structure Key where
  path : List String
  name : String
deriving DecidableEq, Repr

/-- The key with these parts. -/
def Key.ofParts (first : String) (others : List String) : Key where
  path := (first :: others).dropLast
  name := (first :: others).getLast (by simp)

/-- All parts of a key. -/
def Key.parts (key : Key) : List String := key.path ++ [key.name]

/-- How a table has come about. -/
inductive Origin where
  /-- It is the document itself or has a header of its own. -/
  | header
  /-- A header has passed through it. -/
  | passed
  /-- A dotted key has passed through it. -/
  | dotted
deriving DecidableEq, Repr

/-- What a key stands for while a document is built. -/
inductive Node where
  | value (value : Value)
  | table (origin : Origin) (entries : List (String × Node))
  /-- An array of tables, of which only the last one can still grow. -/
  | tables (earlier : List (List (String × Node))) (last : List (String × Node))
deriving Repr

/-- The contents of a table while a document is built. -/
abbrev Entries := List (String × Node)

namespace Entries

/-- The contents with a node under this name, in the place of an earlier one if
there is one. -/
def put (name : String) (node : Node) : Entries → Entries
  | [] => [(name, node)]
  | (other, old) :: rest =>
      if other = name then (name, node) :: rest else (other, old) :: put name node rest

/-- Makes a change to the table at the end of a path. Tables that are missing
on the way come about as `walk` says. -/
def within (walk : Origin) (change : Origin → Entries → Option Entries) :
    List String → Origin → Entries → Option Entries
  | [], origin, entries => change origin entries
  | name :: path, _, entries =>
      match entries.lookup name with
      | none =>
          (within walk change path walk []).map fun inner =>
            put name (.table walk inner) entries
      | some (.value _) => none
      | some (.table origin inner) =>
          if walk = .dotted ∧ origin = .header then none
          else
            (within walk change path origin inner).map fun inner =>
              put name (.table origin inner) entries
      | some (.tables earlier last) =>
          (within walk change path .header last).map fun last =>
            put name (.tables earlier last) entries

/-- Adds a value under a new key. A dotted key ends in a table that dotted keys
have made, and a plain key in one that they have not. -/
def addPair (key : Key) (value : Value) : Origin → Entries → Option Entries :=
  within .dotted (fun origin entries =>
    if (origin = .dotted) = (key.path = []) then none
    else if (entries.lookup key.name).isSome then none
    else some (put key.name (.value value) entries)) key.path

/-- Opens the table with this header. -/
def addTable (key : Key) : Entries → Option Entries :=
  within .passed (fun _ entries =>
    match entries.lookup key.name with
    | none => some (put key.name (.table .header []) entries)
    | some (.table .passed inner) => some (put key.name (.table .header inner) entries)
    | some _ => none) key.path .header

/-- Opens one more table in the array of tables with this header. -/
def addElement (key : Key) : Entries → Option Entries :=
  within .passed (fun _ entries =>
    match entries.lookup key.name with
    | none => some (put key.name (.tables [] []) entries)
    | some (.tables earlier last) =>
        some (put key.name (.tables (earlier ++ [last]) []) entries)
    | some _ => none) key.path .header

/-- The table that is given by pairs alone. -/
def ofPairs? (pairs : List (Key × Value)) : Option Entries :=
  pairs.foldlM (fun entries pair => addPair pair.1 pair.2 .header entries) []

end Entries

mutual

/-- What a key stands for once the document is complete. -/
def Node.toValue : Node → Value
  | .value value => value
  | .table _ entries => .table (Entries.toValues entries)
  | .tables earlier last =>
      .array (Entries.toTables earlier ++ [.table (Entries.toValues last)])

/-- The contents of a table once the document is complete. -/
def Entries.toValues : List (String × Node) → List (String × Value)
  | [] => []
  | (name, node) :: rest => (name, node.toValue) :: Entries.toValues rest

/-- Tables of an array once the document is complete. -/
def Entries.toTables : List (List (String × Node)) → List Value
  | [] => []
  | entries :: rest => .table (Entries.toValues entries) :: Entries.toTables rest

end

end Hypermedia.Toml
