import ServiceTree.Unicode.Letter

/-!
# Structural names

A name is a sequence of lower-case words. Two spellings mean the same name when they have the same
words: `AddNic`, `add_nic` and `ADD NIC` are one name. This module holds names, their order and the
forms in which they appear in paths, identifiers and types.
-/

namespace ServiceTree

/-- A sequence of lower-case words. -/
structure Name where
  words : List String
  deriving DecidableEq, Repr, Inhabited

namespace Name

/-- Whether the name has no words. -/
def isEmpty (name : Name) : Bool := name.words.isEmpty

/-- The order of names: word by word, words by code point. -/
def le (a b : Name) : Bool := decide (¬ b.words < a.words)

/-- The words with a separator between them. -/
def join (separator : String) (name : Name) : String := separator.intercalate name.words

/-- A word with its first letter in upper case. -/
def capitalizeWord (word : String) : String := String.ofList (Unicode.capitalize word.toList)

/-- The words run together, each with a capital. -/
def camelCase (name : Name) : String := String.join (name.words.map capitalizeWord)

/-- The form used for identifiers and option keys. -/
def identifier (name : Name) : String := name.join "_"

/-- The form used as a path segment. -/
def segment (name : Name) : String := name.join ""

/-- The form used on the wire, for query keys and envelope fields. -/
def tag (name : Name) : String := name.join "_"

/-- The name of the type that represents a service of this name. -/
def serviceType (name : Name) : String := name.camelCase ++ "Service"

/-- The member that leads to a child service of this name. -/
def accessor (name : Name) : String := name.identifier ++ "_service"

/-- The name with the given words in lower case, empty words dropped. -/
def ofWords (words : List String) : Name :=
  ⟨(words.map Unicode.lowerText).filter fun word => !word.isEmpty⟩

end Name

end ServiceTree
