import ServiceTree.Name.Basic

/-!
# Spellings of names

A spelling is cut into words at separators and where capitals show that a word begins. A capital
begins a word after a small letter or a digit, and after another capital when a small letter
follows, so that an acronym keeps all its capitals but the last: `HTTPServer` has the words `http`
and `server`.
-/

namespace ServiceTree.Name

/-- Characters that stand between words. -/
def isSeparator (c : Char) : Bool := c == '_' || c == '-' || Unicode.isBlank c

/-- Whether a character begins a word after `previous` and before `next`. -/
def beginsWord (previous c : Char) (next : Option Char) : Bool :=
  Unicode.isUpper c &&
    (Unicode.isLower previous || previous.isDigit ||
      (Unicode.isUpper previous && next.any Unicode.isLower))

/-- The word whose letters are gathered in reverse, if there is one. -/
def flush (reversed : List Char) : List (List Char) :=
  if reversed.isEmpty then [] else [reversed.reverse]

/-- The words of a spelling, after the character `previous` and the letters of a word that is still
open, the last of them first. -/
def splitFrom (previous : Char) (reversed : List Char) : List Char → List (List Char)
  | [] => flush reversed
  | c :: rest =>
    if isSeparator c then flush reversed ++ splitFrom c [] rest
    else if !reversed.isEmpty && beginsWord previous c rest.head? then
      reversed.reverse :: splitFrom c (Unicode.lower c).reverse rest
    else splitFrom c ((Unicode.lower c).reverse ++ reversed) rest

/-- The words of a spelling. -/
def splitWords (spelling : List Char) : List (List Char) := splitFrom ' ' [] spelling

/-- The name that a spelling means; it may have no words. -/
def parse (spelling : String) : Name := ⟨(splitWords spelling.toList).map String.ofList⟩

/-- The name that a spelling means, if it has at least one word. -/
def parse? (spelling : String) : Option Name :=
  let name := parse spelling
  if name.isEmpty then none else some name

end ServiceTree.Name
