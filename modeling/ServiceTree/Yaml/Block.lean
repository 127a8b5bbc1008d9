import ServiceTree.Yaml.Glyph

/-!
# Blocks of lines

A block is a text of whole lines, indented to one depth. Its header says whether breaks are kept or
folded and what becomes of the breaks at its end, and may say the depth, which otherwise is that of the
first line with a text.
-/

namespace ServiceTree.Yaml

/-- What becomes of the breaks at the end of a block. -/
inductive Chomping where
  /-- None stays. -/
  | strip
  /-- The one behind the last line stays. -/
  | clip
  /-- All stay. -/
  | keep
  deriving DecidableEq

/-- What the header of a block says. -/
structure BlockHeader where
  chomping : Chomping
  /-- The depth below that of the surroundings. -/
  depth : Option Nat

/-- The meaning of a mark for the end of a block. -/
def Chomping.ofMark? (c : Char) : Option Chomping :=
  if c == '-' then some .strip else if c == '+' then some .keep else none

/-- The depth that a digit names. -/
def depthOfDigit? (c : Char) : Option Nat :=
  if '1' ≤ c && c ≤ '9' then some (c.toNat - '0'.toNat) else none

/-- The header that at most two marks make. -/
def BlockHeader.ofMarks? : List Char → Option BlockHeader
  | [] => some ⟨.clip, none⟩
  | [a] =>
    match Chomping.ofMark? a with
    | some chomping => some ⟨chomping, none⟩
    | none => (depthOfDigit? a).map fun depth => ⟨.clip, some depth⟩
  | [a, b] =>
    match Chomping.ofMark? a with
    | some chomping => (depthOfDigit? b).map fun depth => ⟨chomping, some depth⟩
    | none => do return ⟨← Chomping.ofMark? b, some (← depthOfDigit? a)⟩
  | _ => none

/-- The header in the rest of a line; a comment may follow the marks. -/
def BlockHeader.ofLine? (line : List Char) : Option BlockHeader :=
  let isMark := fun c : Char => c == '+' || c == '-' || c.isDigit
  match (line.dropWhile isMark).dropWhile isBlank with
  | [] => ofMarks? (line.takeWhile isMark)
  | c :: _ => if c == '#' then ofMarks? (line.takeWhile isMark) else none

/-- The number of spaces that a line starts with. -/
def indentation (line : List Glyph) : Nat := (line.takeWhile fun glyph => glyph.char == ' ').length

/-- The depth of a block whose header names none: that of its first line with a text or of the deepest
empty line before it, and at least the given one. A tab may not stand in its indentation. -/
def blockDepth? (least : Nat) : List (List Glyph) → Option Nat
  | [] => some least
  | line :: rest =>
    let depth := max least (indentation line)
    match line.drop (indentation line) with
    | [] => some depth
    | glyph :: _ =>
      if glyph.char == '\t' then none
      else if isBreak glyph.char then blockDepth? depth rest
      else some depth

/-- What a line is to a block. -/
inductive BlockLine where
  /-- It holds nothing but its break. -/
  | empty (ending : Char)
  /-- It holds characters, and a break unless the text ends. -/
  | filled (chars : List Char) (ending : Option Char)
  /-- It does not belong to the block. -/
  | outside

/-- What a line is to a block of some depth. A tab may not stand in the indentation. -/
def blockLine? (depth : Nat) (line : List Glyph) : Option BlockLine :=
  let indented := min depth (indentation line)
  match line.drop indented with
  | [] => some .outside
  | glyph :: rest =>
    if isBreak glyph.char then some (.empty glyph.char)
    else if indented < depth then (if glyph.char == '\t' then none else some .outside)
    else
      let chars := (glyph :: rest).map Glyph.char
      some (.filled (chars.filter fun c => !isBreak c) (chars.find? isBreak))

/-- A block as far as it has been read. -/
structure Block where
  /-- The lines so far without the last break, in reverse. -/
  chars : List Char
  /-- The break behind the last line. -/
  ending : Option Char
  /-- Whether the last line starts with a blank. -/
  startsBlank : Bool
  /-- The breaks of the empty lines since, in reverse. -/
  empties : List Char

namespace Block

/-- A block of no lines. -/
def start : Block := ⟨[], none, false, []⟩

/-- The block with one more line. Between two lines that start with no blank a folded block has a space
for a single break, and one break less otherwise. -/
def push (block : Block) (isFolded : Bool) (chars : List Char) (ending : Option Char) : Block :=
  let startsBlank := chars.head?.any isBlank
  let joint :=
    if isFolded && block.ending == some '\n' && !block.startsBlank && !startsBlank then
      if block.empties.isEmpty then [' '] else []
    else block.ending.toList
  ⟨chars.reverse ++ block.empties ++ joint ++ block.chars, ending, startsBlank, []⟩

/-- The text of a block. -/
def text (block : Block) (chomping : Chomping) : String :=
  let endings := match chomping with
    | .strip => []
    | .clip => block.ending.toList
    | .keep => block.empties ++ block.ending.toList
  String.ofList (endings ++ block.chars).reverse

/-- Read lines as long as they belong to a block of some depth. -/
def read? (isFolded : Bool) (depth : Nat) (block : Block) :
    List (List Glyph) → Option (Block × List Glyph)
  | [] => some (block, [])
  | line :: rest =>
    match blockLine? depth line with
    | none => none
    | some .outside => some (block, (line :: rest).flatten)
    | some (.empty ending) => read? isFolded depth { block with empties := ending :: block.empties } rest
    | some (.filled chars ending) => read? isFolded depth (block.push isFolded chars ending) rest

end Block

/-- Read a block behind its mark, inside of surroundings of some depth. -/
def readBlock? (isFolded : Bool) (surroundings : Option Nat) (text : List Glyph) :
    Option (String × List Glyph) := do
  let inLine := fun glyph : Glyph => !isBreak glyph.char
  let header ← BlockHeader.ofLine? ((text.takeWhile inLine).map Glyph.char)
  let body := lines ((text.dropWhile inLine).drop 1)
  let depth ← match header.depth with
    | some depth => some (surroundings.getD 0 + depth)
    | none => blockDepth? ((surroundings.map (· + 1)).getD 1) body
  let (block, rest) ← Block.start.read? isFolded depth body
  return (block.text header.chomping, rest)

end ServiceTree.Yaml
