/-!
# Characters in their places

In indented text the column of a character says what it belongs to, and the line says where it may be
read on. So a text is read as a list of characters that know their places, in which every line break is
one character however it is written.
-/

namespace ServiceTree.Yaml

/-- A character of a text in its place. -/
structure Glyph where
  char : Char
  /-- The number of lines before its own. -/
  line : Nat
  /-- The number of characters before it on its line. -/
  column : Nat
  /-- The number of bytes before it in the text. -/
  offset : Nat

/-- Characters that separate words on a line. -/
def isBlank (c : Char) : Bool := c == ' ' || c == '\t'

/-- Characters that end a line. -/
def isBreak (c : Char) : Bool :=
  c == '\n' || c == '\r' || c == '\u0085' || c == '\u2028' || c == '\u2029'

/-- Characters that stand between words. -/
def isSpace (c : Char) : Bool := isBlank c || isBreak c

/-- Characters that a text may hold: all but control characters and the two that are no characters. -/
def isAllowed (c : Char) : Bool :=
  c == '\t' || c == '\n' || c == '\r' || ('\x20' ≤ c && c ≤ '\x7e') || c == '\u0085' ||
    ('\u00a0' ≤ c && c != '\ufffe' && c != '\uffff')

/-- What a line break is read as. -/
def readBreak (c : Char) : Char := if c == '\r' || c == '\u0085' then '\n' else c

/-- The characters from a place on. -/
def placeFrom (line column offset : Nat) : List Char → List Glyph
  | [] => []
  | '\r' :: '\n' :: rest => ⟨'\n', line, column, offset⟩ :: placeFrom (line + 1) 0 (offset + 2) rest
  | c :: rest =>
    if isBreak c then
      ⟨readBreak c, line, column, offset⟩ :: placeFrom (line + 1) 0 (offset + c.utf8Size) rest
    else ⟨c, line, column, offset⟩ :: placeFrom line (column + 1) (offset + c.utf8Size) rest

/-- The characters of a text in their places, if it may hold them all. -/
def place? (text : List Char) : Option (List Glyph) :=
  if text.all isAllowed then some (placeFrom 0 0 0 text) else none

/-- Whether a word may end here. -/
def endsWord : List Glyph → Bool
  | [] => true
  | glyph :: _ => isSpace glyph.char

/-- Whether a line starts here with three such marks that stand alone. -/
def isMarker (mark : Char) : List Glyph → Bool
  | a :: b :: c :: rest =>
    a.column == 0 && a.char == mark && b.char == mark && c.char == mark && endsWord rest
  | _ => false

/-- Whether a line starts here that divides documents. -/
def dividesDocuments (text : List Glyph) : Bool := isMarker '-' text || isMarker '.' text

/-- The lines of a text, each with its break. -/
def lines : List Glyph → List (List Glyph)
  | [] => []
  | glyph :: rest =>
    if isBreak glyph.char then [glyph] :: lines rest
    else match lines rest with
      | [] => [[glyph]]
      | line :: more => (glyph :: line) :: more

end ServiceTree.Yaml
