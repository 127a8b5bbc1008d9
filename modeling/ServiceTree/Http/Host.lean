import ServiceTree.Http.InternationalLabel
import ServiceTree.Http.InternetAddress
import ServiceTree.Http.Percent

/-!
# Hosts

The host of an address is a name or an address by number. On the web both are put into a normal form:
names are in small letters and in ASCII, and a name that ends in a number has to be a short address. A
host of any other scheme is text, unless it stands in brackets.
-/

namespace ServiceTree.Host

/-- The long address that a text in brackets writes. -/
def bracketed? (text : List Char) : Option (List Char) :=
  if text.getLast? = some ']' then
    (InternetAddress.long? text.dropLast).map fun pieces => '[' :: (InternetAddress.longText pieces ++ [']'])
  else none

/-- Characters that no host has. -/
def isForbidden (c : Char) : Bool :=
  ['\x00', '\t', '\n', '\r', ' ', '#', '/', ':', '<', '>', '?', '@', '[', '\\', ']', '^', '|'].contains c

/-- Characters that no name on the web has. -/
def isForbiddenInName (c : Char) : Bool :=
  isForbidden c || c.toNat < 0x20 || c == '%' || c.toNat == 0x7f

/-- The text of bytes, if they are one. -/
def textOf? (bytes : List UInt8) : Option (List Char) :=
  (String.fromUTF8? ⟨bytes.toArray⟩).map String.toList

/-- The normal form of a name on the web. -/
def name? (text : List Char) : Option (List Char) := do
  let plain := (← textOf? (Percent.decode text)).flatMap InternationalLabel.plainForm
  let labels ← (Text.pieces (· == '.') plain).mapM InternationalLabel.written?
  let name := List.intercalate ['.'] labels
  if name.isEmpty || name.any isForbiddenInName then none
  else if InternetAddress.endsInNumber labels then
    (InternetAddress.short? labels).map InternetAddress.shortText
  else some name

/-- The normal form of a host on the web. -/
def web? : List Char → Option (List Char)
  | '[' :: rest => bracketed? rest
  | text => name? text

/-- The normal form of a host that is only text, and may be empty. -/
def opaqueText? : List Char → Option (List Char)
  | '[' :: rest => bracketed? rest
  | text => if text.any isForbidden then none else some (Percent.encode Percent.isControl text)

/-- The host in front of a port, and the rest; a colon within brackets belongs to the host. -/
def split (isInside : Bool) : List Char → List Char × List Char
  | [] => ([], [])
  | c :: rest =>
    if c == ':' && !isInside then ([], c :: rest)
    else
      let (host, behind) := split (c == '[' || (isInside && c != ']')) rest
      (c :: host, behind)

end ServiceTree.Host
