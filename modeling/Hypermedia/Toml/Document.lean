import Hypermedia.Toml.Line

/-!
A TOML document as a whole: its lines are read one after another and build its
tables. A document is either taken as a whole or not at all.
-/

namespace Hypermedia.Toml

/-- The document so far. -/
structure Draft where
  entries : Entries
  /-- The table that pairs go into: the one with the latest header. -/
  current : List String
deriving Repr

/-- The document before its first line. -/
def Draft.blank : Draft := ⟨[], []⟩

/-- The document with one more line. -/
def Draft.add (draft : Draft) : Line → Option Draft
  | .blank => some draft
  | .header key =>
      (Entries.addTable key draft.entries).map fun entries => ⟨entries, key.parts⟩
  | .element key =>
      (Entries.addElement key draft.entries).map fun entries => ⟨entries, key.parts⟩
  | .pair key value =>
      (Entries.within .passed (Entries.addPair key value) draft.current .header
        draft.entries).map fun entries => { draft with entries := entries }

/-- The document that lines make up. -/
def ofLines? (lines : List Line) : Option Value :=
  (lines.foldlM Draft.add .blank).map fun draft => .table (Entries.toValues draft.entries)

/-- The document that a text stands for. -/
def parse? (text : String) : Option Value := do
  ofLines? (← lines? text)

end Hypermedia.Toml
