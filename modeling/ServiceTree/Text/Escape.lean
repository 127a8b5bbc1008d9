/-!
# Escapes

Inside a quoted text a backslash opens an escape, which is a single letter or a mark with hexadecimal
digits behind it.
-/

namespace ServiceTree

/-- Where an escape inside a text stands. -/
inductive Escape where
  | none
  | opened
  | digits (missing : Nat) (code : Nat)

end ServiceTree
