import Hypermedia.Cursor

/-!
Writing a token, so that a reader of tokens gets the same text back. Quotes are
set only where they are needed, and the pair is chosen that does not occur in
the text. There is no way to write a text that needs quotes and holds both
kinds.
-/

namespace Hypermedia.Token

/-- Whether a text has to stand in quotes: a bare token cannot be empty, start
with a quote, hold white space or a comma, or be one of the words that have a
meaning of their own in its place. -/
def needsQuotes (reserved : List String) (text : String) : Bool :=
  text.toList.isEmpty || text.toList.head?.any isQuote ||
    text.toList.any (fun c => !isBareChar c) || reserved.contains text

/-- The quote to set around a text. -/
def quoteFor (text : String) : Char :=
  if text.toList.contains '"' then '\'' else '"'

/-- The text as a token. -/
def written (reserved : List String) (text : String) : String :=
  if needsQuotes reserved text then
    String.singleton (quoteFor text) ++ text ++ String.singleton (quoteFor text)
  else text

end Hypermedia.Token
