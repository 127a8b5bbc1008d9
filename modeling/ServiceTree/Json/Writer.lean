import ServiceTree.Json.Basic
import ServiceTree.Number.Shortest

/-!
# Writing the object notation

The compact form has no blanks at all. The indented form puts every member on a line of its own, two
blanks deeper than its container, and keeps empty containers closed up.
-/

namespace ServiceTree.Json

/-- A digit of base sixteen. -/
def hexDigit (value : Nat) : Char :=
  if value < 10 then Char.ofNat ('0'.toNat + value) else Char.ofNat ('a'.toNat + (value - 10))

/-- A character as it stands inside quotes. -/
def quotedChar (c : Char) : List Char :=
  if c == '"' then ['\\', '"']
  else if c == '\\' then ['\\', '\\']
  else if c == '\x08' then ['\\', 'b']
  else if c == '\x0c' then ['\\', 'f']
  else if c == '\n' then ['\\', 'n']
  else if c == '\r' then ['\\', 'r']
  else if c == '\t' then ['\\', 't']
  else if c.toNat < 0x20 then
    ['\\', 'u', '0', '0', hexDigit (c.toNat / 16), hexDigit (c.toNat % 16)]
  else [c]

/-- A text in quotes. -/
def quoted (text : String) : List Char :=
  '"' :: (text.toList.flatMap quotedChar ++ ['"'])

/-- The text of an integer. -/
def integerText (value : Int) : List Char :=
  let digits := Nat.toDigits 10 value.natAbs
  if value < 0 then '-' :: digits else digits

/-- The text of a number. -/
def numberText : Number → List Char
  | .integer value => integerText value
  | .decimal value => (value.text Double.documentLayout).toList

mutual

/-- The compact text of a document. -/
def compact : Json → List Char
  | .null => ['n', 'u', 'l', 'l']
  | .bool true => ['t', 'r', 'u', 'e']
  | .bool false => ['f', 'a', 'l', 's', 'e']
  | .number value => numberText value
  | .text value => quoted value
  | .list items => '[' :: (compactItems items ++ [']'])
  | .record members => '\x7b' :: (compactMembers members ++ ['\x7d'])
  termination_by structural json => json

/-- The items of a list, separated by commas. -/
def compactItems : List Json → List Char
  | [] => []
  | item :: rest => compact item ++ compactMoreItems rest
  termination_by structural items => items

/-- The items after the first, each behind a comma. -/
def compactMoreItems : List Json → List Char
  | [] => []
  | item :: rest => ',' :: (compact item ++ compactMoreItems rest)
  termination_by structural items => items

/-- The members of a record, separated by commas. -/
def compactMembers : List (String × Json) → List Char
  | [] => []
  | (key, member) :: rest => quoted key ++ ':' :: (compact member ++ compactMoreMembers rest)
  termination_by structural members => members

/-- The members after the first, each behind a comma. -/
def compactMoreMembers : List (String × Json) → List Char
  | [] => []
  | (key, member) :: rest =>
    ',' :: (quoted key ++ ':' :: (compact member ++ compactMoreMembers rest))
  termination_by structural members => members

end

/-- A new line at an indentation. -/
def newLine (depth : Nat) : List Char := '\n' :: List.replicate (2 * depth) ' '

mutual

/-- The indented text of a document inside `depth` containers. -/
def indented : Nat → Json → List Char
  | _, .null => ['n', 'u', 'l', 'l']
  | _, .bool true => ['t', 'r', 'u', 'e']
  | _, .bool false => ['f', 'a', 'l', 's', 'e']
  | _, .number value => numberText value
  | _, .text value => quoted value
  | _, .list [] => ['[', ']']
  | depth, .list (item :: rest) =>
    '[' :: (newLine (depth + 1) ++ indented (depth + 1) item ++
      (indentedMoreItems (depth + 1) rest ++ (newLine depth ++ [']'])))
  | _, .record [] => ['\x7b', '\x7d']
  | depth, .record ((key, member) :: rest) =>
    '\x7b' :: (newLine (depth + 1) ++ (quoted key ++ ':' :: ' ' :: indented (depth + 1) member) ++
      (indentedMoreMembers (depth + 1) rest ++ (newLine depth ++ ['\x7d'])))
  termination_by structural _ json => json

/-- The items after the first, each behind a comma and on a line of its own. -/
def indentedMoreItems : Nat → List Json → List Char
  | _, [] => []
  | depth, item :: rest =>
    ',' :: (newLine depth ++ indented depth item ++ indentedMoreItems depth rest)
  termination_by structural _ items => items

/-- The members after the first, each behind a comma and on a line of its own. -/
def indentedMoreMembers : Nat → List (String × Json) → List Char
  | _, [] => []
  | depth, (key, member) :: rest =>
    ',' :: (newLine depth ++ (quoted key ++ ':' :: ' ' :: indented depth member) ++
      indentedMoreMembers depth rest)
  termination_by structural _ members => members

end

/-- The compact text of a document. -/
def render (json : Json) : String := String.ofList (compact json)

/-- The indented text of a document. -/
def renderIndented (json : Json) : String := String.ofList (indented 0 json)

end ServiceTree.Json
