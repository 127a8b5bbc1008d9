import ServiceTree.Outline.Basic
import ServiceTree.Yaml.Block
import ServiceTree.Yaml.Scalar

/-!
# Tokens

Indentation becomes tokens of its own: one where a container opens at a new depth, and one where it is
left again. A key is known as a key only at the colon behind it, so the place where a key may have begun
is kept until the line ends or something else shows that there is none. A key takes one line and at most
1024 bytes.
-/

namespace ServiceTree.Yaml

/-- What the grammar of the notation is made of. -/
inductive Token where
  /-- A line of dashes that opens a document. -/
  | documentStart
  /-- A line of points that closes a document. -/
  | documentEnd
  /-- A new depth, at which a list is written with dashes. -/
  | blockList
  /-- A new depth, at which a record is written with a key on each line. -/
  | blockRecord
  /-- The end of a depth. -/
  | blockEnd
  /-- The dash before an item. -/
  | dash
  | openList
  | closeList
  | openRecord
  | closeRecord
  | separator
  /-- The start of a key. -/
  | key
  /-- The colon between a key and its value. -/
  | colon
  | scalar (value : Outline)

/-- A place where a key may have begun. -/
structure Candidate where
  start : Glyph
  /-- Whether nothing but a key can stand here. -/
  isRequired : Bool
  /-- The number of tokens before the key. -/
  preceding : Nat

/-- What has been read of a text. -/
structure Tokenizer where
  /-- The tokens so far, in reverse. -/
  tokens : List Token
  /-- The depths of the containers that are open, the innermost first. -/
  depths : List Nat
  /-- Where a key may have begun in the innermost container in brackets, or outside of all. -/
  candidate : Option Candidate
  /-- The candidates around the brackets that are open, the innermost first. -/
  outer : List (Option Candidate)
  /-- Whether a key may begin here. -/
  allowsKey : Bool

namespace Tokenizer

/-- The tokenizer before the first character. -/
def start : Tokenizer := ⟨[], [], none, [], true⟩

/-- Whether brackets are open. -/
def isCompact (state : Tokenizer) : Bool := !state.outer.isEmpty

/-- The tokenizer with one more token. -/
def push (state : Tokenizer) (token : Token) : Tokenizer :=
  { state with tokens := token :: state.tokens }

/-- The tokenizer with more tokens behind the first ones; the tokens are given in reverse. -/
def insert (state : Tokenizer) (preceding : Nat) (inserted : List Token) : Tokenizer :=
  let later := state.tokens.length - preceding
  { state with tokens := state.tokens.take later ++ inserted ++ state.tokens.drop later }

/-- Whether a column opens a new depth. -/
def isDeeper (state : Tokenizer) (column : Nat) : Bool :=
  !state.isCompact && state.depths.head?.all fun depth => decide (depth < column)

/-- Open a container at the depth of a column, unless it is open already. -/
def openDepth (state : Tokenizer) (column : Nat) (token : Token) : Tokenizer :=
  if state.isDeeper column then { state.push token with depths := column :: state.depths } else state

/-- Leave the innermost depths, as many as are behind a bound. -/
def leave (state : Tokenizer) (isBehind : Nat → Bool) : Tokenizer :=
  if state.isCompact then state
  else
    let left := state.depths.takeWhile isBehind
    { state with
      tokens := List.replicate left.length .blockEnd ++ state.tokens
      depths := state.depths.dropWhile isBehind }

/-- Whether something is a key only if its colon comes on the line that is left. -/
def isLost (state : Option Candidate) : Bool := state.any Candidate.isRequired

/-- Give up the candidate, if nothing requires that it be a key. -/
def dropCandidate (state : Tokenizer) : Option Tokenizer :=
  if isLost state.candidate then none else some { state with candidate := none }

/-- A key may begin at a character. It must be one if the character stands at the innermost depth. -/
def noteCandidate (state : Tokenizer) (glyph : Glyph) : Option Tokenizer :=
  if state.allowsKey then do
    let state ← state.dropCandidate
    let isRequired := !state.isCompact && state.depths.head? == some glyph.column
    return { state with candidate := some ⟨glyph, isRequired, state.tokens.length⟩ }
  else some state

/-- Whether a key that begins with the candidate would be too long at a character. -/
def isStale (glyph : Glyph) (candidate : Candidate) : Bool :=
  decide (candidate.start.line < glyph.line) || decide (candidate.start.offset + 1024 < glyph.offset)

/-- Give up the candidates from which no key can reach a character. -/
def dropStale (state : Tokenizer) (glyph : Glyph) : Option Tokenizer :=
  let all := state.candidate :: state.outer
  if all.any fun candidate => isLost (candidate.filter (isStale glyph)) then none
  else
    let keep := Option.filter fun candidate => !isStale glyph candidate
    some { state with candidate := keep state.candidate, outer := state.outer.map keep }

/-- A line that divides documents. -/
def divide (state : Tokenizer) (token : Token) : Option Tokenizer := do
  let state ← (state.leave fun _ => true).dropCandidate
  return { state.push token with allowsKey := false }

/-- An opening bracket, with which a key may begin. -/
def openCompact (state : Tokenizer) (glyph : Glyph) (token : Token) : Option Tokenizer := do
  let state ← state.noteCandidate glyph
  return { state.push token with
    candidate := none, outer := state.candidate :: state.outer, allowsKey := true }

/-- A closing bracket. -/
def closeCompact (state : Tokenizer) (token : Token) : Option Tokenizer := do
  let state ← state.dropCandidate
  return { state.push token with
    candidate := state.outer.head?.join, outer := state.outer.tail, allowsKey := false }

/-- A separator. -/
def separate (state : Tokenizer) : Option Tokenizer := do
  let state ← state.dropCandidate
  return { state.push .separator with allowsKey := true }

/-- The dash before an item. -/
def dash (state : Tokenizer) (column : Nat) : Option Tokenizer :=
  if state.isCompact || state.allowsKey then do
    let state ← (state.openDepth column .blockList).dropCandidate
    return { state.push .dash with allowsKey := true }
  else none

/-- The mark before a key that is written with one. -/
def explicitKey (state : Tokenizer) (column : Nat) : Option Tokenizer :=
  if state.isCompact || state.allowsKey then do
    let state ← (state.openDepth column .blockRecord).dropCandidate
    return { state.push .key with allowsKey := !state.isCompact }
  else none

/-- A colon: the candidate is a key, or the key before was written with a mark. -/
def colon (state : Tokenizer) (column : Nat) : Option Tokenizer :=
  match state.candidate with
  | some candidate =>
    let isDeeper := state.isDeeper candidate.start.column
    let opened := state.insert candidate.preceding (if isDeeper then [.key, .blockRecord] else [.key])
    some { opened.push .colon with
      depths := if isDeeper then candidate.start.column :: state.depths else state.depths
      candidate := none
      allowsKey := false }
  | none =>
    if state.isCompact || state.allowsKey then
      some { (state.openDepth column .blockRecord).push .colon with allowsKey := !state.isCompact }
    else none

/-- A scalar with which a key may begin. -/
def scalar (state : Tokenizer) (glyph : Glyph) (value : Outline) (allowsKey : Bool) :
    Option Tokenizer := do
  let state ← state.noteCandidate glyph
  return { state.push (.scalar value) with allowsKey := allowsKey }

/-- A plain word that starts with a character. -/
def plain (state : Tokenizer) (glyph : Glyph) (rest : List Glyph) :
    Option (Tokenizer × List Glyph) := do
  let depth := (state.depths.head?.map (· + 1)).getD 0
  let plain ← readPlain state.isCompact depth [] .none (glyph :: rest)
  return (← state.scalar glyph (.plain plain.word) plain.leavesLine, plain.rest)

/-- A text in quotes. -/
def quoted (state : Tokenizer) (glyph : Glyph) (text : Option Quoted) :
    Option (Tokenizer × List Glyph) := do
  let (text, rest) ← text
  return (← state.scalar glyph (.text (some text)) false, rest)

/-- A block of lines, which is no key. -/
def block (state : Tokenizer) (isFolded : Bool) (rest : List Glyph) :
    Option (Tokenizer × List Glyph) :=
  if state.isCompact then none
  else do
    let (text, rest) ← readBlock? isFolded state.depths.head? rest
    let state ← state.dropCandidate
    return ({ state.push (.scalar (.text (some text))) with allowsKey := true }, rest)

/-- Characters with which nothing starts: there are no names for parts of a document, no tags and no
directives. -/
def startsNothing (c : Char) : Bool :=
  isSpace c || c == '&' || c == '*' || c == '!' || c == '%' || c == '@' || c == '\x60'

/-- Read what starts with a character. -/
def read? (state : Tokenizer) (glyph : Glyph) (rest : List Glyph) :
    Option (Tokenizer × List Glyph) :=
  let stands := endsWord rest
  if isMarker '-' (glyph :: rest) then (state.divide .documentStart).map (·, rest.drop 2)
  else if isMarker '.' (glyph :: rest) then (state.divide .documentEnd).map (·, rest.drop 2)
  else match glyph.char with
    | '[' => (state.openCompact glyph .openList).map (·, rest)
    | '\x7b' => (state.openCompact glyph .openRecord).map (·, rest)
    | ']' => (state.closeCompact .closeList).map (·, rest)
    | '\x7d' => (state.closeCompact .closeRecord).map (·, rest)
    | ',' => state.separate.map (·, rest)
    | '-' => if stands then (state.dash glyph.column).map (·, rest) else state.plain glyph rest
    | '?' =>
      if state.isCompact || stands then (state.explicitKey glyph.column).map (·, rest)
      else state.plain glyph rest
    | ':' =>
      if state.isCompact || stands then (state.colon glyph.column).map (·, rest)
      else state.plain glyph rest
    | '|' => state.block false rest
    | '>' => state.block true rest
    | '\x27' => state.quoted glyph (readSingleQuoted [] .none rest)
    | '"' => state.quoted glyph (readDoubleQuoted [] .none .none rest)
    | c => if startsNothing c then none else state.plain glyph rest

/-- Pass over blanks, breaks and comments. Outside of brackets a tab may not stand where a key may
begin, and a key may begin on each new line. -/
def skip (state : Tokenizer) (inComment : Bool) : List Glyph → Tokenizer × List Glyph
  | [] => (state, [])
  | glyph :: rest =>
    if isBreak glyph.char then
      skip { state with allowsKey := state.allowsKey || !state.isCompact } false rest
    else if inComment then skip state true rest
    else if glyph.char == '#' then skip state true rest
    else if glyph.char == ' ' || (glyph.offset == 0 && glyph.char == '\ufeff') then
      skip state false rest
    else if glyph.char == '\t' && (state.isCompact || !state.allowsKey) then skip state false rest
    else (state, glyph :: rest)

/-- The tokens of a text that has been read. -/
def finish (state : Tokenizer) : Option (List Token) := do
  return (← (state.leave fun _ => true).dropCandidate).tokens.reverse

/-- The tokens of a text whose first part has been read. A token that takes no character is none. -/
def readAll (state : Tokenizer) (text : List Glyph) : Option (List Token) :=
  match state.skip false text with
  | (state, []) => state.finish
  | (state, glyph :: rest) =>
    match (state.dropStale glyph).bind fun state =>
        (state.leave fun depth => decide (glyph.column < depth)).read? glyph rest with
    | none => none
    | some (state, rest) => if _h : rest.length < text.length then readAll state rest else none
termination_by text.length

end Tokenizer

/-- The tokens of a text. -/
def tokens? (text : List Char) : Option (List Token) :=
  (place? text).bind Tokenizer.start.readAll

end ServiceTree.Yaml
