import ServiceTree.Number.Numeral

/-!
# Texts in quotes

TOML has four ways to write a text: between double quotes, where a backslash opens an escape, or between single
quotes, where every character stands for itself; and either way with one quote on each side, on a single line, or
with three, on as many lines as are needed. A reader here begins behind the opening quotes and gives the text with what
stands behind the closing ones.
-/

namespace ServiceTree.Toml

/-- Blanks within a line. -/
def isBlank (c : Char) : Bool := c == ' ' || c == '\t'

/-- Characters that stand in no text on a single line unless they are escaped. -/
def isControl (c : Char) : Bool := (c.toNat < 0x20 && c != '\t') || c == '\x7f'

/-- What is behind the end of a line, if the line ends here. -/
def newLine? : List Char → Option (List Char)
  | '\n' :: rest => some rest
  | '\r' :: '\n' :: rest => some rest
  | _ => none

/-- A character in front of what was read behind it. -/
def push (c : Char) (read : Option (List Char × List Char)) : Option (List Char × List Char) :=
  read.map fun read => (c :: read.1, read.2)

/-! ## Escapes -/

/-- The characters that are escaped by a letter or by themselves. -/
def escaped : List (Char × Char) :=
  [('b', '\x08'), ('t', '\t'), ('n', '\n'), ('f', '\x0c'), ('r', '\r'), ('"', '"'), ('\\', '\\')]

/-- The character that some hexadecimal digits give by its number. -/
def numbered? (count : Nat) (input : List Char) : Option (Char × List Char) :=
  match Numeral.natural? 16 (input.take count) with
  | some code =>
    if input.length < count then none
    else if code.isValidChar then some (Char.ofNat code, input.drop count) else none
  | none => none

/-- The character that an escape stands for, behind its backslash. -/
def escape? : List Char → Option (Char × List Char)
  | [] => none
  | c :: rest =>
    if c == 'u' then numbered? 4 rest
    else if c == 'U' then numbered? 8 rest
    else (escaped.lookup c).map fun meant => (meant, rest)

/-! ## Texts on a single line -/

/-- A text up to a double quote. Every character takes one unit of fuel. -/
def basic? : Nat → List Char → Option (List Char × List Char)
  | 0, _ => none
  | _, [] => none
  | fuel + 1, c :: rest =>
    if c == '"' then some ([], rest)
    else if c == '\\' then
      match escape? rest with
      | some (meant, rest) => push meant (basic? fuel rest)
      | none => none
    else if isControl c then none
    else push c (basic? fuel rest)

/-- A text up to a single quote. -/
def literal? : List Char → Option (List Char × List Char)
  | [] => none
  | c :: rest =>
    if c == '\x27' then some ([], rest)
    else if isControl c then none
    else push c (literal? rest)

/-! ## Texts on several lines -/

/-- Three quotes that close a text. Up to two more in front of them belong to it. -/
def closing? (quote : Char) (input : List Char) : Option (List Char × List Char) :=
  let kept := min (input.takeWhile (· == quote)).length 5
  if kept < 3 then none else some (List.replicate (kept - 3) quote, input.drop kept)

/-- What is behind a backslash that ends a line, with all blanks and lines without text passed over. -/
def folded? (input : List Char) : Option (List Char) :=
  match newLine? (input.dropWhile isBlank) with
  | some rest => some (rest.dropWhile fun c => isBlank c || c == '\r' || c == '\n')
  | none => none

/-- Whether the first character of a text cannot stand in a text on several lines. -/
def isBarred (input : List Char) : Bool := input.head?.any isControl && (newLine? input).isNone

/-- A text up to three double quotes. Every character takes one unit of fuel. -/
def longBasic? : Nat → List Char → Option (List Char × List Char)
  | 0, _ => none
  | _, [] => none
  | fuel + 1, c :: rest =>
    match closing? '"' (c :: rest) with
    | some closed => some closed
    | none =>
      if c == '\\' then
        match folded? rest with
        | some rest => longBasic? fuel rest
        | none =>
          match escape? rest with
          | some (meant, rest) => push meant (longBasic? fuel rest)
          | none => none
      else if isBarred (c :: rest) then none
      else push c (longBasic? fuel rest)

/-- A text up to three single quotes. -/
def longLiteral? : List Char → Option (List Char × List Char)
  | [] => none
  | c :: rest =>
    match closing? '\x27' (c :: rest) with
    | some closed => some closed
    | none => if isBarred (c :: rest) then none else push c (longLiteral? rest)

/-! ## Any text -/

/-- What is behind the line end that may stand behind three opening quotes. -/
def opened (input : List Char) : List Char := (newLine? input).getD input

/-- A text on a single line, in quotes of either kind. -/
def quoted? : List Char → Option (List Char × List Char)
  | '"' :: rest => basic? rest.length rest
  | '\x27' :: rest => literal? rest
  | _ => none

/-- A text in quotes. -/
def text? : List Char → Option (List Char × List Char)
  | '"' :: '"' :: '"' :: rest => longBasic? rest.length (opened rest)
  | '\x27' :: '\x27' :: '\x27' :: rest => longLiteral? (opened rest)
  | input => quoted? input

end ServiceTree.Toml
