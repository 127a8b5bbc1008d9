import ServiceTree.Number.Numeral
import ServiceTree.Text.Escape
import ServiceTree.Yaml.Glyph

/-!
# Scalars

A scalar is a plain word, a text in quotes or an indented block of lines. Words and quoted texts may go
on over several lines, and then a single break between two stretches stands for a space. A block keeps
its breaks, or folds them unless one of the lines around a break is indented further.
-/

namespace ServiceTree.Yaml

/-- What stands between two stretches of a scalar. -/
inductive Gap where
  /-- Blanks within a line, in reverse. -/
  | blanks (chars : List Char)
  /-- The first of the breaks, unless an escape hides it, and the others in reverse. -/
  | breaks (first : Option Char) (others : List Char)

namespace Gap

/-- No gap at all. -/
def none : Gap := .blanks []

/-- Whether a new line has been reached. -/
def leavesLine : Gap → Bool
  | .blanks _ => false
  | .breaks _ _ => true

/-- The gap with one more blank or break; blanks around breaks do not count. -/
def push (gap : Gap) (c : Char) : Gap :=
  match gap with
  | .blanks chars => if isBreak c then .breaks (some c) [] else .blanks (c :: chars)
  | .breaks first others => if isBreak c then .breaks first (c :: others) else gap

/-- What a gap stands for, in reverse. -/
def fold : Gap → List Char
  | .blanks chars => chars
  | .breaks first others =>
    if first = some '\n' then (if others.isEmpty then [' '] else others)
    else others ++ first.toList

end Gap

/-- A plain word that has been read. -/
structure PlainWord where
  word : String
  /-- Whether a new line has been reached behind the word. -/
  leavesLine : Bool
  rest : List Glyph

/-- Characters that separate and close the containers of the compact form. -/
def isCompactMark (c : Char) : Bool :=
  c == ',' || c == '[' || c == ']' || c == '\x7b' || c == '\x7d'

/-- Whether the character after a gap no longer belongs to a plain word. -/
def endsBehindGap (compact : Bool) (depth : Nat) (gap : Gap) (glyph : Glyph) (rest : List Glyph) :
    Bool :=
  match gap with
  | .blanks [] => false
  | .blanks _ => glyph.char == '#'
  | .breaks _ _ =>
    glyph.char == '#' || (!compact && decide (glyph.column < depth)) ||
      dividesDocuments (glyph :: rest)

/-- Whether a colon has a mark behind it that may not follow one inside the compact form. -/
def isBadColon (compact : Bool) (glyph : Glyph) (rest : List Glyph) : Bool :=
  compact && glyph.char == ':' && rest.head?.any fun next => isCompactMark next.char || next.char == '?'

/-- Whether a character ends a plain word wherever it stands. -/
def endsPlain (compact : Bool) (glyph : Glyph) (rest : List Glyph) : Bool :=
  (glyph.char == ':' && endsWord rest) || (compact && isCompactMark glyph.char)

/-- Read a plain word, of which some characters and a gap have been read. Its further lines start at
the given depth or behind it. -/
def readPlain (compact : Bool) (depth : Nat) (word : List Char) (gap : Gap) :
    List Glyph → Option PlainWord
  | [] => some ⟨String.ofList word.reverse, gap.leavesLine, []⟩
  | glyph :: rest =>
    if isSpace glyph.char then
      if gap.leavesLine && glyph.char == '\t' && decide (glyph.column < depth) then none
      else readPlain compact depth word (gap.push glyph.char) rest
    else if endsBehindGap compact depth gap glyph rest then
      some ⟨String.ofList word.reverse, gap.leavesLine, glyph :: rest⟩
    else if isBadColon compact glyph rest then none
    else if endsPlain compact glyph rest then
      some ⟨String.ofList word.reverse, gap.leavesLine, glyph :: rest⟩
    else readPlain compact depth (glyph.char :: gap.fold ++ word) .none rest

/-- A text that has been read, and what follows it. -/
abbrev Quoted := String × List Glyph

/-- Read a text in single quotes behind the opening one; a quote inside is written twice. -/
def readSingleQuoted (text : List Char) (gap : Gap) : List Glyph → Option Quoted
  | [] => none
  | glyph :: rest =>
    if isSpace glyph.char then readSingleQuoted text (gap.push glyph.char) rest
    else if dividesDocuments (glyph :: rest) then none
    else
      let text := gap.fold ++ text
      if glyph.char == '\x27' then
        match rest with
        | [] => some (String.ofList text.reverse, [])
        | next :: rest =>
          if next.char == '\x27' then readSingleQuoted ('\x27' :: text) .none rest
          else some (String.ofList text.reverse, next :: rest)
      else readSingleQuoted (glyph.char :: text) .none rest

/-- The character that a letter after a backslash stands for. -/
def escapedChar? (c : Char) : Option Char :=
  match c with
  | '0' => some '\x00'
  | 'a' => some '\x07'
  | 'b' => some '\x08'
  | 't' => some '\t'
  | '\t' => some '\t'
  | 'n' => some '\n'
  | 'v' => some '\x0b'
  | 'f' => some '\x0c'
  | 'r' => some '\r'
  | 'e' => some '\x1b'
  | ' ' => some ' '
  | '"' => some '"'
  | '/' => some '/'
  | '\\' => some '\\'
  | 'N' => some '\u0085'
  | '_' => some '\u00a0'
  | 'L' => some '\u2028'
  | 'P' => some '\u2029'
  | _ => none

/-- How many hexadecimal digits follow a letter after a backslash. -/
def escapeDigits? (c : Char) : Option Nat :=
  match c with
  | 'x' => some 2
  | 'u' => some 4
  | 'U' => some 8
  | _ => none

/-- The character of a number, unless the number is none of a character. -/
def charOfCode? (code : Nat) : Option Char := if code.isValidChar then some (Char.ofNat code) else none

/-- Read a text in double quotes behind the opening one. -/
def readDoubleQuoted (text : List Char) (gap : Gap) (escape : Escape) : List Glyph → Option Quoted
  | [] => none
  | glyph :: rest =>
    match escape with
    | .opened =>
      if isBreak glyph.char then readDoubleQuoted text (.breaks none []) .none rest
      else match escapeDigits? glyph.char with
        | some missing => readDoubleQuoted text .none (.digits missing 0) rest
        | none =>
          match escapedChar? glyph.char with
          | some c => readDoubleQuoted (c :: text) .none .none rest
          | none => none
    | .digits missing code =>
      match Numeral.hexValue? glyph.char with
      | none => none
      | some digit =>
        let code := 16 * code + digit
        if 1 < missing then readDoubleQuoted text .none (.digits (missing - 1) code) rest
        else match charOfCode? code with
          | some c => readDoubleQuoted (c :: text) .none .none rest
          | none => none
    | .none =>
      if isSpace glyph.char then readDoubleQuoted text (gap.push glyph.char) .none rest
      else if dividesDocuments (glyph :: rest) then none
      else
        let text := gap.fold ++ text
        if glyph.char == '"' then some (String.ofList text.reverse, rest)
        else if glyph.char == '\\' then readDoubleQuoted text .none .opened rest
        else readDoubleQuoted (glyph.char :: text) .none .none rest

end ServiceTree.Yaml
