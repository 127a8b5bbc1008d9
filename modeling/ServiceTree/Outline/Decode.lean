import ServiceTree.Outline.Word

/-!
# Reading outlines

What readers ask of the places of an outline. A record may have members that no one asks for; a key
that is asked for may occur only once. Where one of several forms is chosen by a tag and the content
stands in front of its tag, the content is taken as a free document first.
-/

namespace ServiceTree.Outline

/-- The text at a place. -/
def text? : Outline → Option String
  | .text value => value
  | .plain word => some word
  | _ => none

/-- The truth value at a place. -/
def truth? : Outline → Option Bool
  | .bool value => some value
  | .plain word => truthOfWord? word
  | _ => none

/-- The natural below a limit at a place. -/
def naturalBelow? (limit : Nat) : Outline → Option Nat
  | .number (some (.integer value)) =>
    if 0 ≤ value && value < limit then some value.toNat else none
  | _ => none

/-- Whether a place holds nothing. -/
def isAbsent : Outline → Bool
  | .null => true
  | .plain word => isNothing word
  | _ => false

/-- The items of a list; nothing written at all is an empty list. -/
def items? : Outline → Option (List Outline)
  | .list items => some items
  | .plain word => if word.isEmpty then some [] else none
  | _ => none

/-- The items of a list, each read in the same way. -/
def listOf? {A : Type} (read : Outline → Option A) (outline : Outline) : Option (List A) := do
  (← outline.items?).mapM read

/-- Which of the listed words is meant at a place; a word that is not listed is nobody's. In a free
document the place of the word in the list will do. -/
def listed? (format : Format) (words : List String) : Outline → Option (Option String)
  | .text value => value.map fun word => words.find? (· == word)
  | .plain word => some (words.find? (· == word))
  | .number (some (.integer place)) =>
    if format = .free ∧ 0 ≤ place then some words[place.toNat]? else none
  | _ => none

/-- The members with known keys, if every key can be told and no known key occurs twice. -/
def knownMembers? (format : Format) (known : List String) (members : List (Outline × Outline)) :
    Option (List (String × Outline)) := do
  let members ← members.mapM fun member =>
    (member.1.listed? format known).map fun key => key.map fun key => (key, member.2)
  let asked := members.filterMap id
  if (asked.map Prod.fst).Nodup then some asked else none

/-- The members of a record under the known keys. Where the format allows it, the record may be given by
the list of its members in the order of the known keys. -/
def members? (format : Format) (known : List String) : Outline → Option (List (String × Outline))
  | .record members => knownMembers? format known members
  | .list items =>
    if format ≠ .yaml ∧ items.length ≤ known.length then some (known.zip items) else none
  | .plain word => if word.isEmpty then some [] else none
  | _ => none

/-- A member that must be there. -/
def required? {A : Type} (members : List (String × Outline)) (key : String)
    (read : Outline → Option A) : Option A := do
  read (← members.lookup key)

/-- A member with a default. -/
def defaulted? {A : Type} (members : List (String × Outline)) (key : String) (default : A)
    (read : Outline → Option A) : Option A :=
  match members.lookup key with
  | some member => read member
  | none => some default

/-- A member that may be missing or hold nothing. -/
def optional? {A : Type} (members : List (String × Outline)) (key : String)
    (read : Outline → Option A) : Option (Option A) :=
  match members.lookup key with
  | some member => if member.isAbsent then some none else (read member).map some
  | none => some none

/-- Whether a free document says nothing at a place. -/
def saysNothing : Outline → Bool
  | .null => true
  | .record [] => true
  | _ => false

/-- The word chosen at a place, inside of which `room` more containers may nest. In place of the word
there may be a record of the word and nothing, unless words are written without quotes. -/
def word? (format : Format) (room : Nat) (words : List String) : Outline → Option String
  | .text value => value
  | .plain word => some word
  | .record [(key, value)] =>
    match format, value with
    | .json, .null => if 0 < room then key.text? else none
    | .free, value => if value.saysNothing then (key.listed? .free words).join else none
    | _, _ => none
  | _ => none

/-- One of several things that are told by their words. -/
def choice? {A : Type} (format : Format) (room : Nat) (all : List A) (word : A → String)
    (outline : Outline) : Option A := do
  let chosen ← outline.word? format room (all.map word)
  all.find? fun candidate => word candidate == chosen

/-- A tag and the content that it gives a form to, with the format in which the content is read on. -/
structure Tagged where
  tag : String
  content : Outline
  format : Format

/-- A content in front of its tag, taken as a free document. -/
def kept? (format : Format) (room : Nat) (content : Outline) : Option Outline :=
  if format = .free then some content
  else if content.settled.isSound room then some content.settled else none

/-- A record of a tag and its content, among members that no one asks for, inside of which `room`
more containers may nest. -/
def tagged? (format : Format) (room : Nat) (tagKey contentKey : String) (tags : List String) :
    Outline → Option Tagged
  | .record members => do
    match ← knownMembers? format [tagKey, contentKey] members with
    | [(first, a), (_, b)] =>
      if first == tagKey then return ⟨← a.word? format room tags, b, format⟩
      else return ⟨← b.word? format room tags, ← kept? format room a, .free⟩
    | _ => none
  | .list [tag, content] =>
    if format = .yaml then none
    else return ⟨← (← tag.listed? format tags), content, format⟩
  | _ => none

end ServiceTree.Outline
