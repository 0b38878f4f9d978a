import Hypermedia.Attribute
import Hypermedia.FileSystem
import Hypermedia.Toml.Document

/-!
Manifests: lists of attributes to check, kept as TOML. A manifest with an
attribute of an unknown kind is refused as a whole. A value that cannot be read
only makes its own report a bad one.
-/

namespace Hypermedia

/-- An attribute in a manifest. -/
structure Manifest.Entry where
  kind : Attribute.Kind
  name : String
  value : String
deriving DecidableEq, Repr

/-- The attributes to check, in order. -/
structure Manifest where
  entries : List Manifest.Entry
deriving DecidableEq, Repr

/-- What has become of one attribute. -/
structure Manifest.Report where
  name : String
  value : String
  outcome : Except ParseError Attribute.Value

namespace Manifest

/-- Whether the attribute could be read. -/
def Report.isGood (report : Report) : Bool :=
  match report.outcome with
  | .ok _ => true
  | .error _ => false

/-- An attribute in a list: its name and its value. -/
def decodeAttribute (value : Toml.Value) : Option (String × String) := do
  match ← value.fields? ["name", "value"] with
  | [some name, some value] =>
      let name ← name.string?
      let value ← value.string?
      pure (name, value)
  | _ => none

/-- The names and values that the text of a manifest lists. -/
def attributes? (text : String) : Option (List (String × String)) := do
  match ← (← Toml.parse? text).fields? ["attribute"] with
  | [none] => some []
  | [some list] => (← list.array?).mapM decodeAttribute
  | _ => none

/-- The entry for a name and a value. -/
def Entry.ofPair (pair : String × String) : Except Failure Entry :=
  match Attribute.Kind.ofName? pair.1 with
  | some kind => .ok ⟨kind, pair.1, pair.2⟩
  | none => .error (.unknownAttribute pair.1)

/-- The manifest of these names and values. The first unknown name is the
failure. -/
def ofAttributes (attributes : List (String × String)) : Except Failure Manifest :=
  (attributes.mapM Entry.ofPair).map .mk

/-- The manifest that a text gives. -/
def parse (text : String) : Except Failure Manifest :=
  match attributes? text with
  | some attributes => ofAttributes attributes
  | none => .error .malformedManifest

/-- Reads the value of an entry in the language that its name selects. -/
def Entry.report (defaults : Swap.Defaults) (entry : Entry) : Report where
  name := entry.name
  value := entry.value
  outcome := Attribute.parse entry.kind defaults entry.value

/-- A report for each entry, in order. -/
def check (manifest : Manifest) (defaults : Swap.Defaults) : List Report :=
  manifest.entries.map (Entry.report defaults)

/-- The manifest in a file. -/
def load {m : Type → Type} [Monad m] [FileSystem m] (path : String) :
    ExceptT Failure m Manifest := do
  if ← (FileSystem.isPresent path : m Bool) then
    let text ← FileSystem.readText path
    match parse text with
    | .ok manifest => pure manifest
    | .error failure => throw failure
  else throw (.notFound path)

end Manifest

end Hypermedia
