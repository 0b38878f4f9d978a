import Hypermedia.FileSystem
import Hypermedia.Format
import Hypermedia.Swap
import Hypermedia.Toml.Document

/-!
Settings: how values are printed and what swaps start from. They are kept in a
file under a root directory. The root itself is not part of the file, and where
there is no file, everything has its documented value.
-/

namespace Hypermedia

/-- The settings that are in force, and the directory that they belong to. -/
structure Settings where
  root : String
  format : Format
  swap : Swap.Defaults
deriving DecidableEq, Repr

namespace Settings

/-- The documented settings. -/
def documented (root : String) : Settings := ⟨root, .pretty, .documented⟩

/-- The path of the settings file of a root directory. -/
def fileIn (root : String) : String := pathIn root "config.toml"

/-- The path of the file for these settings. -/
def file (settings : Settings) : String := fileIn settings.root

/-- The root directory for a user with this home directory. -/
def rootFor (home : String) : String := pathIn home ".config/hxa"

/-- A delay as TOML gives it. Its integers end below 2^63. -/
def delayText? (delay : Duration) : Option String :=
  if delay.millis < 0x8000000000000000 then some (toString delay.millis) else none

/-- The text of the settings file, if it can hold these settings. -/
def written? (settings : Settings) : Option String :=
  match delayText? settings.swap.swapDelay, delayText? settings.swap.settleDelay with
  | some swapDelay, some settleDelay =>
      some ("format = \"" ++ settings.format.keyword ++ "\"\n\n[swap]\nstrategy = \""
        ++ settings.swap.strategy.tag ++ "\"\nswap_delay = " ++ swapDelay
        ++ "\nsettle_delay = " ++ settleDelay ++ "\n")
  | _, _ => none

/-- A field of a record: its value if it is there, and `start` if it is not. -/
def fieldOr {α : Type} (start : α) (decode : Toml.Value → Option α) :
    Option Toml.Value → Option α
  | none => some start
  | some value => decode value

/-- A format in a settings file. -/
def decodeFormat (value : Toml.Value) : Option Format :=
  value.alternative?.bind Format.ofKeyword?

/-- A strategy in a settings file. -/
def decodeStrategy (value : Toml.Value) : Option Swap.Strategy :=
  value.alternative?.bind Swap.Strategy.ofTag?

/-- A delay in a settings file. -/
def decodeDelay (value : Toml.Value) : Option Duration :=
  value.natural?.bind Duration.ofMillis?

/-- What swaps start from, as a settings file gives it. -/
def decodeSwap (value : Toml.Value) : Option Swap.Defaults := do
  match ← value.fields? ["strategy", "swap_delay", "settle_delay"] with
  | [strategy, swapDelay, settleDelay] =>
      let start := Swap.Defaults.documented
      let strategy ← fieldOr start.strategy decodeStrategy strategy
      let swapDelay ← fieldOr start.swapDelay decodeDelay swapDelay
      let settleDelay ← fieldOr start.settleDelay decodeDelay settleDelay
      pure ⟨strategy, swapDelay, settleDelay⟩
  | _ => none

/-- The settings that the text of a settings file gives. -/
def ofText? (root : String) (text : String) : Option Settings := do
  match ← (← Toml.parse? text).fields? ["format", "swap"] with
  | [format, swap] =>
      let format ← fieldOr .pretty decodeFormat format
      let swap ← fieldOr .documented decodeSwap swap
      pure ⟨root, format, swap⟩
  | _ => none

variable {m : Type → Type} [Monad m] [FileSystem m]

/-- The settings of a root directory. -/
def load (root : String) : ExceptT Failure m Settings := do
  if ← (FileSystem.isPresent (fileIn root) : m Bool) then
    let text ← FileSystem.readText (fileIn root)
    match ofText? root text with
    | some settings => pure settings
    | none => throw (.malformedSettings (fileIn root))
  else pure (documented root)

/-- Writes the settings to their file. The root directory is made first, and it
stays even if the settings turn out not to be writable. -/
def save (settings : Settings) : ExceptT Failure m Unit := do
  FileSystem.createDirectories settings.root
  match settings.written? with
  | some text => FileSystem.writeText settings.file text
  | none => throw .unwritableSettings

end Settings

end Hypermedia
