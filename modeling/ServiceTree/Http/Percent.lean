import ServiceTree.Number.Numeral

/-!
# Percent encoding

A character that may not stand for itself is written byte by byte, each byte as a percent sign and two
digits of base sixteen. Which characters that are depends on the place in an address.
-/

namespace ServiceTree.Percent

/-- A digit of base sixteen, with capital letters. -/
def upperHexDigit (value : Nat) : Char :=
  if value < 10 then Char.ofNat ('0'.toNat + value) else Char.ofNat ('A'.toNat + (value - 10))

/-- A byte as a percent sign and two digits. -/
def encodeByte (byte : UInt8) : List Char :=
  ['%', upperHexDigit (byte.toNat / 16), upperHexDigit (byte.toNat % 16)]

/-- A character byte by byte. -/
def encodeChar (c : Char) : List Char := (String.utf8EncodeChar c).flatMap encodeByte

/-- A text with the characters of a set encoded. -/
def encode (isEncoded : Char → Bool) (text : List Char) : List Char :=
  text.flatMap fun c => if isEncoded c then encodeChar c else [c]

/-- The bytes of a text in which bytes may be encoded. -/
def decode : List Char → List UInt8
  | [] => []
  | '%' :: a :: b :: rest =>
    match Numeral.natural? 16 [a, b] with
    | some byte => UInt8.ofNat byte :: decode rest
    | none => '%'.toUInt8 :: decode (a :: b :: rest)
  | c :: rest => String.utf8EncodeChar c ++ decode rest

/-- Characters that never stand for themselves. -/
def isControl (c : Char) : Bool := c.toNat < 0x20 || 0x7f ≤ c.toNat

/-- Characters encoded in a fragment. -/
def inFragment (c : Char) : Bool := isControl c || [' ', '"', '<', '>', '\x60'].contains c

/-- Characters encoded in a path. -/
def inPath (c : Char) : Bool := inFragment c || ['#', '?', '\x7b', '\x7d'].contains c

/-- Characters encoded in one segment of a path, where a backslash also separates segments or not. -/
def inSegment (backslash : Bool) (c : Char) : Bool :=
  inPath c || c == '/' || c == '%' || (backslash && c == '\\')

/-- Characters encoded in a name before a host. -/
def inUserinfo (c : Char) : Bool :=
  inPath c || ['/', ':', ';', '=', '@', '[', '\\', ']', '^', '|'].contains c

/-- Characters encoded in a query, where an apostrophe is encoded or not. -/
def inQuery (apostrophe : Bool) (c : Char) : Bool :=
  isControl c || [' ', '"', '#', '<', '>'].contains c || (apostrophe && c == '\x27')

/-- Whether a character stands for itself in a form. -/
def isPlainInForm (c : Char) : Bool := c.isAlphanum || ['*', '-', '.', '_'].contains c

/-- A text as a name or value of a form; a blank becomes a plus sign. -/
def encodeForm (text : List Char) : List Char :=
  text.flatMap fun c => if c == ' ' then ['+'] else if isPlainInForm c then [c] else encodeChar c

end ServiceTree.Percent
