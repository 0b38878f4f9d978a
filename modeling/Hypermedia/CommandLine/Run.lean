import Hypermedia.Attribute.Printing
import Hypermedia.CommandLine.Command
import Hypermedia.Manifest.Report
import Hypermedia.Settings

/-!
Carrying out commands. A run gives all that it prints as one value, so what it
does to files is the only effect that it has.
-/

namespace Hypermedia.CommandLine

/-- What a run leaves behind: its exit code and what it has printed. -/
structure Outcome where
  code : Nat
  output : String
  diagnostics : String
deriving DecidableEq, Repr

/-- A run that has nothing to complain about. -/
def Outcome.good (output : String) : Outcome := ⟨0, output, ""⟩

/-- A run that failed before it could print anything. -/
def Outcome.failed (failure : Failure) : Outcome :=
  ⟨1, "", "Error: " ++ failure.message ++ "\n"⟩

def versionLine : String := "hxa 0.1.0\n"

/-- What is said when help is asked for, and about arguments that are not in
order. -/
def usage : String :=
  "usage: hxa trigger|swap|sync TEXT [-f FORMAT]\n"
    ++ "       hxa check FILE [-f FORMAT]\n"
    ++ "       hxa init [--force]\n"

variable {m : Type → Type} [Monad m] [FileSystem m]

/-- The settings in force. A format among the arguments comes before the one in
the settings file, but that file has to be readable all the same. -/
def settingsFor (root : String) (format : Option String) : ExceptT Failure m Settings := do
  let settings ← Settings.load root
  match format with
  | none => pure settings
  | some word =>
      match Format.parse word with
      | .ok format => pure { settings with format := format }
      | .error failure => throw failure

/-- Reads one value and prints it. -/
def parseValue (settings : Settings) (kind : Attribute.Kind) (text : String) : Outcome :=
  match Attribute.parse kind settings.swap text with
  | .ok value => .good (value.printed settings.format)
  | .error e => ⟨1, "", "hxa: " ++ e.render text ++ "\n"⟩

/-- Checks the attributes of a manifest. -/
def checkManifest (settings : Settings) (manifest : Manifest) : Outcome :=
  let reports := manifest.check settings.swap
  ⟨if reports.all Manifest.Report.isGood then 0 else 1,
    Manifest.printed settings.format reports, ""⟩

/-- Writes the documented settings. -/
def writeSettings (root : String) (isForced : Bool) : ExceptT Failure m Outcome := do
  let settings := Settings.documented root
  if (← (FileSystem.isPresent settings.file : m Bool)) && !isForced then
    pure (.good ("Config already exists at " ++ settings.file
      ++ "\nUse --force to overwrite\n"))
  else
    settings.save
    pure (.good ("Config written to " ++ settings.file ++ "\n"))

/-- Carries out a command with the settings of a root directory. -/
def Command.run (root : String) : Command → ExceptT Failure m Outcome
  | .version => pure (.good versionLine)
  | .help => pure (.good usage)
  | .parse kind text format => do
      let settings ← settingsFor root format
      pure (parseValue settings kind text)
  | .check file format => do
      let settings ← settingsFor root format
      let manifest ← Manifest.load file
      pure (checkManifest settings manifest)
  | .init isForced => writeSettings root isForced

/-- Carries out what arguments ask for. -/
def run (root : String) (arguments : List String) : m Outcome := do
  match Command.ofArguments? arguments with
  | none => pure ⟨2, "", usage⟩
  | some command =>
      match ← (command.run root : ExceptT Failure m Outcome).run with
      | .ok outcome => pure outcome
      | .error failure => pure (.failed failure)

end Hypermedia.CommandLine
