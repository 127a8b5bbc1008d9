import ServiceTree.Json.Basic
import ServiceTree.Number.Numeral
import ServiceTree.Text.Escape

/-!
# Reading the object notation

The reader takes one character at a time. Its state holds the containers that are open and what it
is in the middle of: between two tokens, or inside a text, a number or a word. A text is kept as it
is written, escapes included, and given its value at its closing quote.
-/

namespace ServiceTree.Json

/-- What a text is written with: characters, and sixteen-bit units given by number. -/
inductive Piece where
  | char (c : Char)
  | unit (code : Nat)

/-- Units that open a pair. -/
def opensPair (code : Nat) : Bool := 0xD800 ≤ code && code < 0xDC00

/-- Units that close a pair. -/
def closesPair (code : Nat) : Bool := 0xDC00 ≤ code && code < 0xE000

/-- The character that a pair of units stands for. -/
def pairedChar (first second : Nat) : Char :=
  Char.ofNat (0x10000 + (first - 0xD800) * 0x400 + (second - 0xDC00))

/-- The characters that pieces write, unless a unit of a pair stands alone. -/
def readPieces : List Piece → Option (List Char)
  | [] => some []
  | .char c :: rest => (readPieces rest).map (c :: ·)
  | .unit code :: rest =>
    if opensPair code then
      match rest with
      | .unit second :: rest' =>
        if closesPair second then (readPieces rest').map (pairedChar code second :: ·) else none
      | _ => none
    else if closesPair code then none
    else (readPieces rest).map (Char.ofNat code :: ·)

/-- A container that is still open, with what it holds so far in reverse. -/
inductive Frame where
  | list (done : List Outline)
  /-- A record that awaits a key. -/
  | record (done : List (Outline × Outline))
  /-- A record that awaits the member of a key. -/
  | member (done : List (Outline × Outline)) (key : Outline)

/-- Where a number stands. -/
inductive NumberPart where
  | sign
  | zero
  | whole
  | point
  | fraction
  | mark
  | powerSign
  | power
  deriving DecidableEq

/-- What the reader is in the middle of. -/
inductive Phase where
  /-- A value must follow. -/
  | value
  /-- A value or the end of a list must follow. -/
  | firstItem
  /-- A key or the end of a record must follow. -/
  | firstKey
  /-- A key must follow. -/
  | key
  /-- The sign between key and member must follow. -/
  | colon
  /-- A separator or the end of the container must follow. -/
  | next
  /-- The document is complete. -/
  | finished (document : Outline)
  /-- Inside a text whose pieces are kept in reverse. -/
  | text (pieces : List Piece) (escape : Escape)
  /-- Inside a word, with the letters that must still follow. -/
  | word (rest : List Char) (meaning : Outline)
  /-- Inside a number; the last part says whether its exponent is negative. -/
  | number (part : NumberPart) (literal : Literal) (negativePower : Bool)

/-- The state of the reader. -/
structure State where
  frames : List Frame
  phase : Phase

/-- Blanks between tokens. -/
def isSpace (c : Char) : Bool := c == ' ' || c == '\n' || c == '\t' || c == '\r'

/-- Put a complete value where the innermost container wants it. -/
def accept (frames : List Frame) (value : Outline) : Option State :=
  match frames with
  | [] => some ⟨[], .finished value⟩
  | .list done :: rest => some ⟨.list (value :: done) :: rest, .next⟩
  | .member done key :: rest => some ⟨.record ((key, value) :: done) :: rest, .next⟩
  | .record _ :: _ => none

/-- Put a complete text where it belongs: it is a key inside a record that awaits one. -/
def acceptText (frames : List Frame) (pieces : List Piece) : Option State :=
  let value := (readPieces pieces.reverse).map String.ofList
  match frames with
  | .record done :: rest => some ⟨.member done (.text value) :: rest, .colon⟩
  | _ => accept frames (.text value)

/-- Close a list. -/
def closeList (frames : List Frame) : Option State :=
  match frames with
  | .list done :: rest => accept rest (.list done.reverse)
  | _ => none

/-- Close a record. -/
def closeRecord (frames : List Frame) : Option State :=
  match frames with
  | .record done :: rest => accept rest (.record done.reverse)
  | _ => none

/-- The first character of a value. -/
def openValue (frames : List Frame) (c : Char) : Option State :=
  match c with
  | '[' => some ⟨.list [] :: frames, .firstItem⟩
  | '\x7b' => some ⟨.record [] :: frames, .firstKey⟩
  | '"' => some ⟨frames, .text [] .none⟩
  | 't' => some ⟨frames, .word ['r', 'u', 'e'] (.bool true)⟩
  | 'f' => some ⟨frames, .word ['a', 'l', 's', 'e'] (.bool false)⟩
  | 'n' => some ⟨frames, .word ['u', 'l', 'l'] .null⟩
  | '-' => some ⟨frames, .number .sign ⟨true, 0, 0, 0, true⟩ false⟩
  | '0' => some ⟨frames, .number .zero ⟨false, 0, 0, 0, true⟩ false⟩
  | _ =>
    if c.isDigit then some ⟨frames, .number .whole ⟨false, digitValue c, 0, 0, true⟩ false⟩
    else none

/-- A character after a value inside a container. -/
def afterValue (frames : List Frame) (c : Char) : Option State :=
  if isSpace c then some ⟨frames, .next⟩
  else match c, frames with
    | ',', .list _ :: _ => some ⟨frames, .value⟩
    | ',', .record _ :: _ => some ⟨frames, .key⟩
    | ']', _ => closeList frames
    | '\x7d', _ => closeRecord frames
    | _, _ => none

/-- The character a single letter after a backslash stands for. -/
def escapedChar? (c : Char) : Option Char :=
  match c with
  | '"' => some '"'
  | '\\' => some '\\'
  | '/' => some '/'
  | 'b' => some '\x08'
  | 'f' => some '\x0c'
  | 'n' => some '\n'
  | 'r' => some '\r'
  | 't' => some '\t'
  | _ => none

/-- A character inside a text. -/
def stepText (frames : List Frame) (pieces : List Piece) (escape : Escape) (c : Char) :
    Option State :=
  match escape with
  | .none =>
    if c == '"' then acceptText frames pieces
    else if c == '\\' then some ⟨frames, .text pieces .opened⟩
    else if c.toNat < 0x20 then none
    else some ⟨frames, .text (.char c :: pieces) .none⟩
  | .opened =>
    if c == 'u' then some ⟨frames, .text pieces (.digits 4 0)⟩
    else (escapedChar? c).map fun value => ⟨frames, .text (.char value :: pieces) .none⟩
  | .digits missing code =>
    (Numeral.hexValue? c).map fun value =>
      let code := 16 * code + value
      if missing ≤ 1 then ⟨frames, .text (.unit code :: pieces) .none⟩
      else ⟨frames, .text pieces (.digits (missing - 1) code)⟩

/-- The literal with the exponent's sign applied. -/
def completed (literal : Literal) (negativePower : Bool) : Literal :=
  if negativePower then { literal with exponent := -literal.exponent } else literal

/-- The value of a number that may end where it stands. -/
def numberEnd? (part : NumberPart) (literal : Literal) (negativePower : Bool) : Option Outline :=
  match part with
  | .zero | .whole | .fraction | .power =>
    some (.number (completed literal negativePower).number?)
  | _ => none

/-- The literal with one more digit of its whole part. -/
def Literal.pushWhole (literal : Literal) (c : Char) : Literal :=
  { literal with mantissa := pushDigit literal.mantissa c }

/-- The literal with one more digit behind the point. -/
def Literal.pushFraction (literal : Literal) (c : Char) : Literal :=
  { literal with mantissa := pushDigit literal.mantissa c, places := literal.places + 1 }

/-- The literal with one more digit of its exponent. -/
def Literal.pushPower (literal : Literal) (c : Char) : Literal :=
  { literal with exponent := 10 * literal.exponent + digitValue c }

/-- How a number goes on with a character, if it does. -/
def continueNumber (part : NumberPart) (literal : Literal) (negativePower : Bool) (c : Char) :
    Option Phase :=
  let broken : Literal := { literal with whole := false }
  match part with
  | .sign =>
    if c == '0' then some (.number .zero literal negativePower)
    else if c.isDigit then some (.number .whole (Literal.pushWhole literal c) negativePower)
    else none
  | .zero =>
    if c == '.' then some (.number .point broken negativePower)
    else if c == 'e' || c == 'E' then some (.number .mark broken negativePower)
    else none
  | .whole =>
    if c.isDigit then some (.number .whole (Literal.pushWhole literal c) negativePower)
    else if c == '.' then some (.number .point broken negativePower)
    else if c == 'e' || c == 'E' then some (.number .mark broken negativePower)
    else none
  | .point =>
    if c.isDigit then some (.number .fraction (Literal.pushFraction literal c) negativePower)
    else none
  | .fraction =>
    if c.isDigit then some (.number .fraction (Literal.pushFraction literal c) negativePower)
    else if c == 'e' || c == 'E' then some (.number .mark literal negativePower)
    else none
  | .mark =>
    if c == '+' then some (.number .powerSign literal false)
    else if c == '-' then some (.number .powerSign literal true)
    else if c.isDigit then some (.number .power (Literal.pushPower literal c) negativePower)
    else none
  | .powerSign =>
    if c.isDigit then some (.number .power (Literal.pushPower literal c) negativePower) else none
  | .power =>
    if c.isDigit then some (.number .power (Literal.pushPower literal c) negativePower) else none

/-- A character between two tokens, or after the document. -/
def stepBetween (state : State) (c : Char) : Option State :=
  match state.phase with
  | .next => afterValue state.frames c
  | .finished document => if isSpace c then some ⟨[], .finished document⟩ else none
  | _ => none

/-- A character inside a number: part of it, or the end of it and the character that follows. -/
def stepNumber (frames : List Frame) (part : NumberPart) (literal : Literal) (negativePower : Bool)
    (c : Char) : Option State :=
  match continueNumber part literal negativePower c with
  | some phase => some ⟨frames, phase⟩
  | none => do
    let value ← numberEnd? part literal negativePower
    let state ← accept frames value
    stepBetween state c

/-- One character of the text. -/
def step (state : State) (c : Char) : Option State :=
  let frames := state.frames
  match state.phase with
  | .text pieces escape => stepText frames pieces escape c
  | .word [] _ => none
  | .word [letter] meaning => if c == letter then accept frames meaning else none
  | .word (letter :: rest) meaning => if c == letter then some ⟨frames, .word rest meaning⟩ else none
  | .number part literal negativePower => stepNumber frames part literal negativePower c
  | .next => stepBetween state c
  | .finished _ => stepBetween state c
  | .value => if isSpace c then some state else openValue frames c
  | .firstItem =>
    if isSpace c then some state else if c == ']' then closeList frames else openValue frames c
  | .firstKey =>
    if isSpace c then some state
    else if c == '\x7d' then closeRecord frames
    else if c == '"' then some ⟨frames, .text [] .none⟩
    else none
  | .key =>
    if isSpace c then some state else if c == '"' then some ⟨frames, .text [] .none⟩ else none
  | .colon => if isSpace c then some state else if c == ':' then some ⟨frames, .value⟩ else none

/-- The reader before the first character. -/
def start : State := ⟨[], .value⟩

/-- The document of a reader that has seen the whole text. -/
def finish (state : State) : Option Outline :=
  match state.phase, state.frames with
  | .finished document, _ => some document
  | .number part literal negativePower, [] => numberEnd? part literal negativePower
  | _, _ => none

/-- The outline of a text, if it is a document and nothing else. -/
def outline? (text : List Char) : Option Outline := do
  finish (← text.foldlM step start)

/-- The free document that a text writes. -/
def read? (text : String) : Option Json := do
  (← outline? text.toList).toJson?

end ServiceTree.Json
