import ServiceTree.Json.Writer
import ServiceTree.Text.Lines

/-!
# Tokens of emitted code

Code is emitted as a list of tokens: words, lifetimes among them, literals, and punctuation character
by character. How tokens are laid out in lines is no concern of the emitter.
-/

namespace ServiceTree.Emit

/-- A piece of code, token by token. -/
abbrev Tokens := List String

/-- Characters that make up words; an apostrophe opens a lifetime. -/
def isWordChar (c : Char) : Bool := c.isAlphanum || c == '_' || c == '\x27'

/-- A word that has been gathered, if there is one. -/
def endWord (word : List Char) : Tokens := if word.isEmpty then [] else [String.ofList word]

/-- The tokens of plain code, behind the letters of a word that is still open. -/
def scan (word : List Char) : List Char → Tokens
  | [] => endWord word
  | c :: rest =>
    if isWordChar c then scan (word ++ [c]) rest
    else if c == ' ' then endWord word ++ scan [] rest
    else endWord word ++ String.singleton c :: scan [] rest

/-- The tokens of plain code, which holds no literals of texts or characters. -/
def code (text : String) : Tokens := scan [] text.toList

/-- The literal of a text. -/
def literal (text : String) : Tokens := [String.ofList (Json.quoted text)]

/-- The literal of a slash as a character. -/
def slash : Tokens := ["'/'"]

/-- A piece of code in parentheses. -/
def parens (tokens : Tokens) : Tokens := ["("] ++ tokens ++ [")"]

/-- A piece of code in braces. -/
def braces (tokens : Tokens) : Tokens := ["\x7b"] ++ tokens ++ ["\x7d"]

/-- One documentation attribute. -/
def docAttribute (line : String) : Tokens := code "#[doc =" ++ literal line ++ code "]"

/-- A line of documentation, set off from its marker unless it is empty. -/
def setOff (line : String) : String := if line.isEmpty then "" else " " ++ line

/-- A text as documentation, one attribute for each line. -/
def docAttributes (text : String) : Tokens :=
  (Text.lines text).flatMap fun line => docAttribute (setOff line)

/-- Code as one text, with single blanks between the tokens. -/
def render (tokens : Tokens) : String := " ".intercalate tokens

end ServiceTree.Emit
