import ServiceTree.Outline.Decode
import ServiceTree.Yaml.Token

/-!
# Reading indented text

A text holds one document. Containers are written in lines at a depth, or in brackets; an item or member
that is not written is an empty word. A list may stand at the depth of the record that it is a member of.
-/

namespace ServiceTree.Yaml

/-- A part of a document with the tokens that follow it. -/
abbrev Part := Outline × List Token

/-- What is not written. -/
def unwritten : Outline := .plain ""

/-- Whether an item with a dash is not written. -/
def lacksItem : List Token → Bool
  | .dash :: _ => true
  | .blockEnd :: _ => true
  | _ => false

/-- Whether an item with a dash is not written in a list that has no depth of its own. -/
def lacksLooseItem : List Token → Bool
  | .dash :: _ => true
  | .key :: _ => true
  | .colon :: _ => true
  | .blockEnd :: _ => true
  | _ => false

/-- Whether a key or value is not written in a record at a depth. -/
def lacksBlockMember : List Token → Bool
  | .key :: _ => true
  | .colon :: _ => true
  | .blockEnd :: _ => true
  | _ => false

/-- Whether a key is not written in a record in brackets. -/
def lacksCompactKey : List Token → Bool
  | .colon :: _ => true
  | .separator :: _ => true
  | .closeRecord :: _ => true
  | _ => false

/-- What follows the mark of a key in a list in brackets, if the key is not written. The token that shows it
is passed over. -/
def behindUnwrittenKey? : List Token → Option (List Token)
  | .colon :: rest => some rest
  | .separator :: rest => some rest
  | .closeList :: rest => some rest
  | _ => none

/-- Whether a value is not written in brackets. -/
def lacksCompactValue : List Token → Bool
  | .separator :: _ => true
  | .closeRecord :: _ => true
  | .closeList :: _ => true
  | _ => false

mutual

/-- The part at the head of the tokens. The first argument bounds the number of calls. -/
def part? : Nat → List Token → Option Part
  | _ + 1, .scalar value :: rest => some (value, rest)
  | calls + 1, .blockList :: rest => blockItems? calls [] rest
  | calls + 1, .blockRecord :: rest => blockMembers? calls [] rest
  | calls + 1, .openList :: rest => compactItems? calls [] rest
  | calls + 1, .openRecord :: rest => compactMembers? calls [] rest
  | _, _ => none

/-- The items of a list at a depth, after some items in reverse. -/
def blockItems? : Nat → List Outline → List Token → Option Part
  | calls + 1, done, .dash :: rest => do
    let (item, rest) ← if lacksItem rest then some (unwritten, rest) else part? calls rest
    blockItems? calls (item :: done) rest
  | _, done, .blockEnd :: rest => some (.list done.reverse, rest)
  | _, _, _ => none

/-- The items of a list at the depth of the record around it, after some items in reverse. -/
def looseItems? : Nat → List Outline → List Token → Option Part
  | calls + 1, done, .dash :: rest => do
    let (item, rest) ← if lacksLooseItem rest then some (unwritten, rest) else part? calls rest
    looseItems? calls (item :: done) rest
  | _, done, rest => some (.list done.reverse, rest)

/-- A key or value of a record at a depth. -/
def blockMember? : Nat → List Token → Option Part
  | calls + 1, .dash :: rest => looseItems? calls [] (.dash :: rest)
  | calls + 1, rest => if lacksBlockMember rest then some (unwritten, rest) else part? calls rest
  | 0, _ => none

/-- The members of a record at a depth, after some members in reverse. -/
def blockMembers? : Nat → List (Outline × Outline) → List Token → Option Part
  | calls + 1, done, .key :: rest => do
    let (key, rest) ← blockMember? calls rest
    let (value, rest) ← match rest with
      | .colon :: rest => blockMember? calls rest
      | rest => some (unwritten, rest)
    blockMembers? calls ((key, value) :: done) rest
  | _, done, .blockEnd :: rest => some (.record done.reverse, rest)
  | _, _, _ => none

/-- A value in brackets, behind the key. -/
def compactValue? : Nat → List Token → Option Part
  | calls + 1, .colon :: rest =>
    if lacksCompactValue rest then some (unwritten, rest) else part? calls rest
  | _, rest => some (unwritten, rest)

/-- An item of a list in brackets: a part, or a record of one member without brackets. -/
def compactItem? : Nat → List Token → Option Part
  | calls + 1, .key :: rest => do
    let (key, rest) ← match behindUnwrittenKey? rest with
      | some rest => some (unwritten, rest)
      | none => part? calls rest
    let (value, rest) ← compactValue? calls rest
    return (.record [(key, value)], rest)
  | calls + 1, rest => part? calls rest
  | 0, _ => none

/-- The items of a list in brackets, after some items in reverse and a separator. -/
def compactItems? : Nat → List Outline → List Token → Option Part
  | _, done, .closeList :: rest => some (.list done.reverse, rest)
  | calls + 1, done, rest => do
    let (item, rest) ← compactItem? calls rest
    match rest with
    | .separator :: rest => compactItems? calls (item :: done) rest
    | .closeList :: rest => return (.list (item :: done).reverse, rest)
    | _ => none
  | 0, _, _ => none

/-- A member of a record in brackets, which may be a key alone. -/
def compactMember? : Nat → List Token → Option ((Outline × Outline) × List Token)
  | calls + 1, .key :: rest => do
    let (key, rest) ← if lacksCompactKey rest then some (unwritten, rest) else part? calls rest
    let (value, rest) ← compactValue? calls rest
    return ((key, value), rest)
  | calls + 1, rest => do
    let (key, rest) ← part? calls rest
    return ((key, unwritten), rest)
  | 0, _ => none

/-- The members of a record in brackets, after some members in reverse and a separator. -/
def compactMembers? : Nat → List (Outline × Outline) → List Token → Option Part
  | _, done, .closeRecord :: rest => some (.record done.reverse, rest)
  | calls + 1, done, rest => do
    let (member, rest) ← compactMember? calls rest
    match rest with
    | .separator :: rest => compactMembers? calls (member :: done) rest
    | .closeRecord :: rest => return (.record (member :: done).reverse, rest)
    | _ => none
  | 0, _, _ => none

end

/-- The part at the head of the tokens; each token takes part in fewer than four calls. -/
def headPart? (tokens : List Token) : Option Part := part? (4 * tokens.length + 1) tokens

/-- Whether nothing is written between the lines that divide documents. -/
def lacksContent : List Token → Bool
  | [] => true
  | .documentStart :: _ => true
  | .documentEnd :: _ => true
  | _ => false

/-- The document that opens the tokens. -/
def firstDocument? : List Token → Option Part
  | [] => some (unwritten, [])
  | .documentStart :: rest => if lacksContent rest then some (unwritten, rest) else headPart? rest
  | tokens => headPart? tokens

/-- Whether no further document follows. -/
def endsText : List Token → Bool
  | [] => true
  | .documentEnd :: rest => endsText rest
  | _ => false

/-- The outline of a text that holds one document. -/
def outline? (text : List Char) : Option Outline := do
  let (document, rest) ← firstDocument? (← tokens? text)
  if endsText rest then some document else none

end ServiceTree.Yaml
