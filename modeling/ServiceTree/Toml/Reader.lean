import ServiceTree.Toml.Basic
import ServiceTree.Toml.Quoted

/-!
# Reading TOML

A document is read line by line, but for values that go over several lines. What nests takes one unit of fuel for
each entry, item and level, which are never more than there are characters.
-/

namespace ServiceTree.Toml

/-! ## Keys -/

/-- Characters of keys without quotes. -/
def isBare (c : Char) : Bool := c.isAlphanum || c == '-' || c == '_'

/-- One part of a key: a text in quotes, or a word. -/
def keyPart? (input : List Char) : Option (String × List Char) :=
  match quoted? input with
  | some (part, rest) => some (String.ofList part, rest)
  | none =>
    let part := input.takeWhile isBare
    if part.isEmpty then none else some (String.ofList part, input.dropWhile isBare)

/-- A key with the blanks behind it: parts with dots between them. -/
def key? : Nat → List Char → Option (List String × List Char)
  | 0, _ => none
  | fuel + 1, input => do
    let (part, rest) ← keyPart? input
    match rest.dropWhile isBlank with
    | '.' :: rest =>
      let (parts, rest) ← key? fuel (rest.dropWhile isBlank)
      some (part :: parts, rest)
    | rest => some ([part], rest)

/-! ## Values -/

/-- What is behind blanks, line ends and comments. Within a comment only a line end is looked for. -/
def gap? (inComment : Bool) : List Char → Option (List Char)
  | [] => some []
  | c :: rest =>
    if (newLine? (c :: rest)).isSome then gap? (inComment && c == '\r') rest
    else if inComment then if isControl c then none else gap? true rest
    else if c == '#' then gap? true rest
    else if isBlank c then gap? false rest
    else some (c :: rest)

/-- Characters of numbers, booleans and dates. -/
def isWordly (c : Char) : Bool := c.isAlphanum || ['+', '-', '_', '.', ':'].contains c

/-- Whether a word writes a boolean or begins as a number or a date does. -/
def isScalar (word : List Char) : Bool :=
  let unsigned := match word with
    | '+' :: rest | '-' :: rest => rest
    | _ => word
  unsigned.head?.any Char.isDigit || unsigned == ['i', 'n', 'f'] || unsigned == ['n', 'a', 'n'] ||
    word == ['t', 'r', 'u', 'e'] || word == ['f', 'a', 'l', 's', 'e']

/-- Whether a word is a date alone, which a time may stand behind with a blank between them. -/
def isDate (word : List Char) : Bool :=
  word.length == 10 && word.zipIdx.all fun (c, place) => if place == 4 || place == 7 then c == '-' else c.isDigit

/-- What a number, a boolean or a date is written with, up to what stands behind it. -/
def wordSpan (input : List Char) : List Char × List Char :=
  let taken := input.takeWhile isWordly
  match input.dropWhile isWordly with
  | ' ' :: time =>
    if isDate taken && time.head?.any Char.isDigit then
      (taken ++ ' ' :: time.takeWhile isWordly, time.dropWhile isWordly)
    else (taken, ' ' :: time)
  | rest => (taken, rest)

/-- A number, a boolean or a date. -/
def word? (input : List Char) : Option (Toml × List Char) :=
  let (taken, rest) := wordSpan input
  if isScalar taken then some (.word (String.ofList taken), rest) else none

mutual

/-- A value. -/
def value? : Nat → List Char → Option (Toml × List Char)
  | 0, _ => none
  | fuel + 1, input =>
    match input with
    | '[' :: rest => do
      let (items, rest) ← items? fuel (← gap? false rest)
      some (.list items, rest)
    | '\x7b' :: rest =>
      match rest.dropWhile isBlank with
      | '\x7d' :: rest => some (.table [], rest)
      | rest => do
        let (entries, rest) ← entries? fuel rest
        some (.table entries, rest)
    | _ =>
      match text? input with
      | some (value, rest) => some (.text (String.ofList value), rest)
      | none => word? input

/-- The items of a list up to its closing bracket. -/
def items? : Nat → List Char → Option (List Toml × List Char)
  | 0, _ => none
  | fuel + 1, input =>
    match input with
    | ']' :: rest => some ([], rest)
    | _ => do
      let (item, rest) ← value? fuel input
      match ← gap? false rest with
      | ',' :: rest =>
        let (items, rest) ← items? fuel (← gap? false rest)
        some (item :: items, rest)
      | ']' :: rest => some ([item], rest)
      | _ => none

/-- The entries of a table within a line, up to its closing brace. -/
def entries? : Nat → List Char → Option (List (List String × Toml) × List Char)
  | 0, _ => none
  | fuel + 1, input => do
    let (entry, rest) ← keyed? fuel input
    match rest.dropWhile isBlank with
    | ',' :: rest =>
      let (entries, rest) ← entries? fuel (rest.dropWhile isBlank)
      some (entry :: entries, rest)
    | '\x7d' :: rest => some ([entry], rest)
    | _ => none

/-- A key with its value. -/
def keyed? : Nat → List Char → Option ((List String × Toml) × List Char)
  | 0, _ => none
  | fuel + 1, input => do
    let (key, rest) ← key? fuel input
    match rest with
    | '=' :: rest =>
      let (value, rest) ← value? fuel (rest.dropWhile isBlank)
      some ((key, value), rest)
    | _ => none

end

/-! ## Lines -/

/-- What is behind the rest of a line on which only blanks and a comment may still stand. -/
def lineEnd? (inComment : Bool) : List Char → Option (List Char)
  | [] => some []
  | c :: rest =>
    match newLine? (c :: rest) with
    | some behind => some behind
    | none =>
      if inComment then if isControl c then none else lineEnd? true rest
      else if c == '#' then lineEnd? true rest
      else if isBlank c then lineEnd? false rest
      else none

/-- A line of a document. -/
inductive Line where
  /-- A line without anything but a comment. -/
  | idle
  /-- A header, in double brackets if it begins a further table of a list. -/
  | header (isItem : Bool) (header : List String)
  | entry (entry : List String × Toml)

/-- A header behind its first bracket. -/
def header? (fuel : Nat) : List Char → Option (Line × List Char)
  | '[' :: rest => do
    match ← key? fuel (rest.dropWhile isBlank) with
    | (header, ']' :: ']' :: rest) => some (.header true header, rest)
    | _ => none
  | rest => do
    match ← key? fuel (rest.dropWhile isBlank) with
    | (header, ']' :: rest) => some (.header false header, rest)
    | _ => none

/-- The line that a document begins with, and the document behind it. -/
def line? (fuel : Nat) (input : List Char) : Option (Line × List Char) :=
  match lineEnd? false input with
  | some rest => some (.idle, rest)
  | none =>
    match input.dropWhile isBlank with
    | '[' :: rest => do
      let (header, rest) ← header? fuel rest
      some (header, ← lineEnd? false rest)
    | input => do
      let (entry, rest) ← keyed? fuel input
      some (.entry entry, ← lineEnd? false rest)

/-- The sections of a document, the first of which is begun already. -/
def sections? : Nat → Section → List Char → Option Document
  | _, current, [] => some [current]
  | 0, _, _ :: _ => none
  | fuel + 1, current, c :: input => do
    let (line, rest) ← line? fuel (c :: input)
    match line with
    | .idle => sections? fuel current rest
    | .header isItem header => return current :: (← sections? fuel ⟨isItem, header, []⟩ rest)
    | .entry entry => sections? fuel { current with entries := current.entries ++ [entry] } rest

/-- The document that a text writes, if it is well formed and its keys may stand together. -/
def read? (input : String) : Option Document :=
  (sections? input.toList.length ⟨false, [], []⟩ input.toList).filter Document.isSound

end ServiceTree.Toml
