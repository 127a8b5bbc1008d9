/-!
# Pieces of a text

A text falls into pieces at every separator, or into two at the first one.
-/

namespace ServiceTree.Text

/-- The pieces of a text between separators, of whose first piece the given characters are read already,
the last of them first. -/
def piecesFrom (isSeparator : Char → Bool) (reversed : List Char) : List Char → List (List Char)
  | [] => [reversed.reverse]
  | c :: rest =>
    if isSeparator c then reversed.reverse :: piecesFrom isSeparator [] rest
    else piecesFrom isSeparator (c :: reversed) rest

/-- The pieces of a text between separators; a text without any is one piece. -/
def pieces (isSeparator : Char → Bool) (text : List Char) : List (List Char) :=
  piecesFrom isSeparator [] text

/-- The front of a text up to a character, and the text behind that character, if it occurs. -/
def cut (isEnd : Char → Bool) (text : List Char) : List Char × Option (List Char) :=
  let front := text.takeWhile fun c => !isEnd c
  match text.dropWhile fun c => !isEnd c with
  | [] => (front, none)
  | _ :: rest => (front, some rest)

end ServiceTree.Text
