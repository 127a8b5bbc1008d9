import ServiceTree.Unicode.Printable
import ServiceTree.Unicode.Letter

/-!
# Quoted text for display

Where a text is shown to a reader in quotes, quotes and backslashes are escaped, and a character that
would not be seen is shown by its number.
-/

namespace ServiceTree.Text

/-- Whether a character is shown by its number. -/
def isHidden (c : Char) : Bool :=
  if Unicode.isAscii c then c.toNat < 0x20 || c.toNat == 0x7f
  else Unicode.covered Unicode.joiningRuns c || Unicode.covered Unicode.unprintedRuns c

/-- A character as it is displayed inside quotes. -/
def displayedChar (c : Char) : List Char :=
  match c with
  | '\x00' => ['\\', '0']
  | '\t' => ['\\', 't']
  | '\r' => ['\\', 'r']
  | '\n' => ['\\', 'n']
  | '"' => ['\\', '"']
  | '\\' => ['\\', '\\']
  | _ =>
    if isHidden c then '\\' :: 'u' :: '\x7b' :: (Nat.toDigits 16 c.toNat ++ ['\x7d']) else [c]

/-- A text in quotes. -/
def quoted (text : String) : String :=
  String.ofList ('"' :: (text.toList.flatMap displayedChar ++ ['"']))

/-- A list of texts in quotes. -/
def quotedList (texts : List String) : String :=
  "[" ++ ", ".intercalate (texts.map quoted) ++ "]"

end ServiceTree.Text
