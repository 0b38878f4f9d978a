import Hypermedia.ParseError

/-!
What can keep a command from doing its work, and how it says so.
-/

namespace Hypermedia

/-- Why a command could not be carried out. -/
inductive Failure where
  /-- A file or a directory could not be read or written. -/
  | io (reason : String)
  | parse (error : ParseError)
  | unknownFormat (word : String)
  /-- The settings file at this path does not hold settings. -/
  | malformedSettings (path : String)
  /-- Settings that the settings file has no way to hold. -/
  | unwritableSettings
  | malformedManifest
  /-- A manifest lists an attribute of no known kind. -/
  | unknownAttribute (name : String)
  | notFound (path : String)
deriving DecidableEq, Repr

/-- The failure in one line. -/
def Failure.message : Failure → String
  | .io reason => "IO error: " ++ reason
  | .parse error => "Parse error: " ++ error.message
  | .unknownFormat word =>
      "Configuration error: Unknown output format '" ++ word
        ++ "' (expected json, pretty, or debug)"
  | .malformedSettings path => "Configuration error: " ++ path ++ ": not settings in TOML"
  | .unwritableSettings =>
      "Configuration error: cannot write settings: a delay is too large for TOML"
  | .malformedManifest =>
      "Manifest error: Failed to parse manifest: not a list of attributes in TOML"
  | .unknownAttribute name => "Manifest error: Unknown attribute '" ++ name ++ "'"
  | .notFound path => "Not found: " ++ path

end Hypermedia
