import ServiceTree.Number.Numeral
import ServiceTree.Number.Power
import ServiceTree.Text.Split

/-!
# Hosts given by numbers

A short address has four bytes. It is written in at most four parts, the last of which stands for all
bytes that are left; a part is decimal, or octal behind a zero, or of base sixteen behind `0x`. A long
address has eight pieces of base sixteen between colons. One run of zeros in it may be left out, and its
last two pieces may be written as the four bytes of a short address.
-/

namespace ServiceTree.InternetAddress

/-- The base in which a part of a short address is written, and its digits. -/
def splitBase : List Char → Nat × List Char
  | '0' :: 'x' :: digits => (16, digits)
  | '0' :: 'X' :: digits => (16, digits)
  | '0' :: digit :: digits => (8, digit :: digits)
  | digits => (10, digits)

/-- The number that a part of a short address writes. -/
def part? (text : List Char) : Option Nat :=
  if text.isEmpty then none
  else
    let (base, digits) := splitBase text
    Numeral.natural? base digits

/-- Parts without an empty one at their end. -/
def closedParts (parts : List (List Char)) : List (List Char) :=
  if parts.getLast? = some [] then parts.dropLast else parts

/-- Whether a name ends in a number, so that it has to be a short address. -/
def endsInNumber (parts : List (List Char)) : Bool :=
  ((closedParts parts).getLast?).any fun last => Numeral.isDigits last || (part? last).isSome

/-- The bytes of a number, of which there are so many. -/
def bytes (count value : Nat) : List Nat :=
  (List.range count).reverse.map fun place => value / twoTo (8 * place) % 256

/-- The bytes of the short address that parts write. -/
def short? (parts : List (List Char)) : Option (List Nat) := do
  let values ← (closedParts parts).mapM part?
  let last ← values.getLast?
  let leading := values.dropLast
  if leading.length < 4 && leading.all (· < 256) && last < twoTo (8 * (4 - leading.length)) then
    some (leading ++ bytes (4 - leading.length) last)
  else none

/-- The text of a short address. -/
def shortText (bytes : List Nat) : List Char :=
  List.intercalate ['.'] (bytes.map fun byte => Nat.toDigits 10 byte)

/-- A piece of a long address: one to four digits. -/
def piece? (digits : List Char) : Option Nat :=
  if digits.isEmpty || 4 < digits.length then none else Numeral.natural? 16 digits

/-- A byte written in a long address, without idle zeros. -/
def byte? (digits : List Char) : Option Nat :=
  if Numeral.isDigits digits && (digits.head? ≠ some '0' || digits.length = 1) && readDigits digits < 256 then
    some (readDigits digits)
  else none

/-- The two pieces that four bytes stand for. -/
def bytePieces? (text : List Char) : Option (List Nat) := do
  match ← (Text.pieces (· == '.') text).mapM byte? with
  | [a, b, c, d] => some [256 * a + b, 256 * c + d]
  | _ => none

/-- The pieces at the end of a long address, where bytes may stand for the last two. -/
def closingPieces? : List (List Char) → Option (List Nat)
  | [] => some []
  | [last] => if last.contains '.' then bytePieces? last else (piece? last).map ([·])
  | piece :: rest => do return (← piece? piece) :: (← closingPieces? rest)

/-- The text between colons; an empty text has none. -/
def betweenColons (text : List Char) : List (List Char) :=
  if text.isEmpty then [] else Text.pieces (· == ':') text

/-- The text in front of the first two colons that touch, and the text behind them. -/
def splitGap : List Char → Option (List Char × List Char)
  | ':' :: ':' :: back => some ([], back)
  | c :: rest => (splitGap rest).map fun (front, back) => (c :: front, back)
  | [] => none

/-- The pieces of the long address that a text writes. -/
def long? (text : List Char) : Option (List Nat) := do
  match splitGap text with
  | some (front, back) =>
    let front ← (betweenColons front).mapM piece?
    let back ← closingPieces? (betweenColons back)
    let given := front.length + back.length
    if given < 8 then some (front ++ List.replicate (8 - given) 0 ++ back) else none
  | none =>
    let pieces ← closingPieces? (betweenColons text)
    if pieces.length = 8 then some pieces else none

/-- How many zeros stand in front. -/
def zerosInFront (pieces : List Nat) : Nat := (pieces.takeWhile (· == 0)).length

/-- The place and the length of the longest run of zeros, of several the first. -/
def longestRun (pieces : List Nat) : Nat × Nat :=
  (List.range pieces.length).foldl (fun best place =>
    let length := zerosInFront (pieces.drop place)
    if best.2 < length then (place, length) else best) (0, 0)

/-- Pieces between colons. -/
def colonText (pieces : List Nat) : List Char :=
  List.intercalate [':'] (pieces.map fun piece => Nat.toDigits 16 piece)

/-- The text of a long address; the longest run of several zeros is left out. -/
def longText (pieces : List Nat) : List Char :=
  let (place, length) := longestRun pieces
  if length < 2 then colonText pieces
  else colonText (pieces.take place) ++ ':' :: ':' :: colonText (pieces.drop (place + length))

end ServiceTree.InternetAddress
