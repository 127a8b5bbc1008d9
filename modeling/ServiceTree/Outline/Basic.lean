import ServiceTree.Number.Basic

/-!
# Outlines of structured text

What the grammar of a text format accepts, before anything is asked of its scalars. A number may lie
out of range, and a text may hold half a surrogate pair: neither matters until the place is read, and
a reader passes over the parts of a document that it has no use for. Unquoted words stand for texts,
truth values, numbers or nothing, as the reader asks.
-/

namespace ServiceTree

/-- A tree of lists and records as a text format writes it. -/
inductive Outline where
  | null
  | bool (value : Bool)
  | number (value : Option Number)
  | text (value : Option String)
  | plain (word : String)
  | list (items : List Outline)
  | record (members : List (Outline × Outline))
  deriving Inhabited

/-- The format a tree was written in, as far as readers have to know. -/
inductive Format where
  /-- Every scalar shows its kind, and a record may be given by the list of its fields. -/
  | json
  /-- Unquoted words take their kind from the reader, and records are always written with keys. -/
  | yaml
  /-- A document that was kept until its reader was known. Its scalars are told apart as they are, and a
  key or a word may be given by its place among those that are asked for. -/
  | free
  deriving DecidableEq, Repr

/-- How deeply lists and records may nest in a format. -/
def Format.nestingLimit : Format → Nat
  | .json => 127
  | .yaml => 128
  | .free => 128

namespace Outline

mutual

/-- Whether every scalar has a value and at most `room` containers nest. -/
def isSound : Nat → Outline → Bool
  | _, .null => true
  | _, .bool _ => true
  | _, .number value => value.isSome
  | _, .text value => value.isSome
  | _, .plain _ => true
  | room, .list items => decide (0 < room) && itemsSound (room - 1) items
  | room, .record members => decide (0 < room) && membersSound (room - 1) members
  termination_by structural _ outline => outline

/-- Whether every item is sound. -/
def itemsSound : Nat → List Outline → Bool
  | _, [] => true
  | room, item :: rest => isSound room item && itemsSound room rest
  termination_by structural _ items => items

/-- Whether every member is sound, and its key too. -/
def membersSound : Nat → List (Outline × Outline) → Bool
  | _, [] => true
  | room, (key, member) :: rest => isSound room key && isSound room member && membersSound room rest
  termination_by structural _ members => members

end

end Outline

end ServiceTree
