import ServiceTree.Plan.Error
import ServiceTree.Unicode.IdentifierCharacter
import ServiceTree.Unicode.Letter

/-!
# Identifiers of emitted code

Emitted code is Rust. A word of a model becomes an identifier when its characters allow it; a keyword
is written as a raw identifier, and the few keywords that cannot be raw get a trailing underscore.
-/

namespace ServiceTree

/-- An identifier of emitted code. A raw one may be a keyword. -/
structure Identifier where
  word : String
  isRaw : Bool
  deriving DecidableEq, Repr

namespace Identifier

/-- Keywords that can be written as raw identifiers. -/
def keywords : List String := [
  "abstract", "as", "async", "await", "become", "box", "break", "const", "continue", "do", "dyn",
  "else", "enum", "extern", "false", "final", "fn", "for", "gen", "if", "impl", "in", "let", "loop",
  "macro", "match", "mod", "move", "mut", "override", "priv", "pub", "ref", "return", "static",
  "struct", "trait", "true", "try", "type", "typeof", "unsafe", "unsized", "use", "virtual", "where",
  "while", "yield"]

/-- Words that cannot be raw identifiers. -/
def neverRaw : List String := ["crate", "self", "super", "Self", "_"]

/-- Whether an identifier may open with the character. -/
def opens (c : Char) : Bool :=
  if Unicode.isAscii c then c.isAlpha || c == '_' else Unicode.covered Unicode.identifierStartRuns c

/-- Whether an identifier may go on with the character. -/
def continues (c : Char) : Bool :=
  if Unicode.isAscii c then c.isAlphanum || c == '_'
  else Unicode.covered Unicode.identifierContinueRuns c

/-- Whether the characters of a text make an identifier. -/
def isWellFormed (text : List Char) : Bool :=
  match text with
  | [] => false
  | c :: rest => opens c && rest.all continues

/-- The identifier that a text spells, raw if the text says so. -/
def spelled (text : String) : Except GenerationError Identifier :=
  match text.toList with
  | 'r' :: '#' :: rest =>
    let word := String.ofList rest
    if isWellFormed rest && !neverRaw.contains word then .ok ⟨word, true⟩
    else .error (.notAnIdentifier text)
  | letters => if isWellFormed letters then .ok ⟨text, false⟩ else .error (.notAnIdentifier text)

/-- The identifier for a text, with keywords escaped. -/
def escaped (text : String) : Except GenerationError Identifier :=
  if neverRaw.contains text then spelled (text ++ "_")
  else if keywords.contains text then spelled ("r#" ++ text)
  else spelled text

/-- The identifier as a token. -/
def token (identifier : Identifier) : String :=
  if identifier.isRaw then "r#" ++ identifier.word else identifier.word

end Identifier

end ServiceTree
