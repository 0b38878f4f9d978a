import Hypermedia.CommandLine.Run

/-!
The program itself: commands run on the disk, and what they print is printed.
-/

namespace Hypermedia

/-- Turns an error of the system into a failure of a command. -/
def reported {α : Type} (action : IO α) : ExceptT Failure IO α := do
  match ← (action.toBaseIO : BaseIO (Except IO.Error α)) with
  | .ok a => pure a
  | .error e => throw (.io (toString e))

instance : FileSystem IO where
  isPresent path := do
    match ← (reported (IO.FS.realPath path)).run with
    | .ok _ => pure true
    | .error _ => pure false
  readText path := reported (IO.FS.readFile path)
  createDirectories path := reported (if path.isEmpty then pure () else IO.FS.createDirAll path)
  writeText path text := reported (IO.FS.writeFile path text)

/-- The directory of the settings: the one that is asked for, or the usual one
for a program of this name. -/
def settingsRoot : IO String := do
  if let some root ← IO.getEnv "HXA_ROOT" then return root
  if let some shared ← IO.getEnv "XDG_CONFIG_HOME" then
    if shared.startsWith "/" then return pathIn shared "hxa"
  return Settings.rootFor ((← IO.getEnv "HOME").getD "")

end Hypermedia

def main (arguments : List String) : IO UInt32 := do
  let root ← Hypermedia.settingsRoot
  let outcome ← Hypermedia.CommandLine.run root arguments
  IO.print outcome.output
  IO.eprint outcome.diagnostics
  return outcome.code.toUInt32
