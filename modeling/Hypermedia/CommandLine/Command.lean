import Hypermedia.Attribute

/-!
Commands, and the arguments that ask for them. Options may stand before or
behind the word that a command is about, and two dashes end them. Whatever
looks like an option and is none is an error of usage. Arguments are read from
left to right, and where they ask for help the others behind are not looked at.
-/

namespace Hypermedia.CommandLine

/-- What a user can ask for. -/
inductive Command where
  | version
  /-- Say how the program is used. -/
  | help
  /-- Read one value, and print it in a format. -/
  | parse (kind : Attribute.Kind) (text : String) (format : Option String)
  /-- Check the attributes in a manifest. -/
  | check (file : String) (format : Option String)
  /-- Write a settings file, over an earlier one only if forced. -/
  | init (isForced : Bool)
deriving DecidableEq, Repr

/-- Why arguments are not read to their end. -/
inductive Stop where
  | help
  | misuse
deriving DecidableEq, Repr

/-- What may stand behind the word for a command. -/
structure Words where
  /-- The word that the command is about. -/
  subject : Option String
  /-- The word for the format. -/
  format : Option String
deriving DecidableEq, Repr

/-- The text behind a beginning, if the word has this beginning. -/
def behind? (start word : String) : Option String :=
  if start.toList.isPrefixOf word.toList then
    some (String.ofList (word.toList.drop start.toList.length))
  else none

/-- Whether a word can be an option. A single dash is not. -/
def isOption (word : String) : Bool :=
  (behind? "-" word).isSome && word != "-"

/-- Whether a word is an option, in its long or its short form, that takes no
value. Short options may be written in one word, and the first one counts. -/
def isFlag (long short word : String) : Bool :=
  word == long || (behind? short word).isSome

/-- Whether a word asks for help. -/
def isHelp : String → Bool := isFlag "--help" "-h"

/-- The words with one that the command is about. -/
def Words.withSubject (words : Words) (word : String) : Except Stop Words :=
  if words.subject.isSome then throw .misuse else pure { words with subject := some word }

/-- The words with a word for the format. -/
def Words.withFormat (words : Words) (word : String) : Except Stop Words :=
  if words.format.isSome then throw .misuse else pure { words with format := some word }

/-- The format in an option that carries it. A short option may have an equals
sign in between. -/
def attachedFormat? (word : String) : Option String :=
  match behind? "--format=" word with
  | some value => some value
  | none =>
      match behind? "-f" word with
      | some value => some ((behind? "=" value).getD value)
      | none => none

/-- The words with one more that is an option or what the command is about. -/
def Words.next (words : Words) (word : String) : Except Stop Words :=
  if isHelp word then throw .help
  else if isOption word then
    match attachedFormat? word with
    | some value => words.withFormat value
    | none => throw .misuse
  else words.withSubject word

/-- The words behind a command. -/
def Words.read (words : Words) : List String → Except Stop Words
  | [] => pure words
  | "--" :: rest => rest.foldlM Words.withSubject words
  | word :: rest =>
      if word = "-f" ∨ word = "--format" then
        match rest with
        | value :: rest =>
            if isOption value then throw .misuse
            else do (← words.withFormat value).read rest
        | [] => throw .misuse
      else do (← words.next word).read rest

/-- The words behind a command that is about something, and what it is about. -/
def Words.readSubject (arguments : List String) : Except Stop (String × Option String) := do
  let words ← Words.read ⟨none, none⟩ arguments
  match words.subject with
  | some subject => pure (subject, words.format)
  | none => throw .misuse

/-- Whether a settings file is to be written by force. -/
def readForce (isForced : Bool) : List String → Except Stop Bool
  | [] => pure isForced
  | "--" :: rest => if rest.isEmpty then pure isForced else throw .misuse
  | word :: rest =>
      if isHelp word then throw .help
      else if word = "--force" ∧ isForced = false then readForce true rest
      else throw .misuse

/-- The kind of value that a word asks to read. -/
def kindFor? (word : String) : Option Attribute.Kind :=
  if word = "t" then some .trigger
  else if word = "s" then some .swap
  else Attribute.Kind.values.find? fun kind => kind.keyword == word

/-- Whether a word stands for a command. -/
def isCommand (word : String) : Bool :=
  ["check", "c", "init", "help"].contains word || (kindFor? word).isSome

/-- The command that a word and what stands behind it ask for. -/
def Command.read (word : String) (arguments : List String) : Except Stop Command := do
  match word with
  | "help" =>
      match arguments with
      | [] => throw .help
      | [topic] => throw (if isCommand topic then .help else .misuse)
      | _ => throw .misuse
  | "init" => return .init (← readForce false arguments)
  | "check" | "c" =>
      let (file, format) ← Words.readSubject arguments
      return .check file format
  | _ =>
      match kindFor? word with
      | some kind =>
          let (text, format) ← Words.readSubject arguments
          return .parse kind text format
      | none => throw .misuse

/-- The command that arguments ask for, if they are in order. -/
def Command.ofArguments? : List String → Option Command
  | [] => none
  | word :: rest =>
      if isFlag "--version" "-V" word then some .version
      else if isHelp word then some .help
      else
        match Command.read word rest with
        | .ok command => some command
        | .error .help => some .help
        | .error .misuse => none

end Hypermedia.CommandLine
