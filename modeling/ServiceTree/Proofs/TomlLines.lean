import ServiceTree.Proofs.TomlTexts
import ServiceTree.Toml.Reader
import ServiceTree.Unicode.Letter

/-!
# Reading back plain TOML

Plain documents have keys without quotes, and texts between double quotes in which nothing is escaped. Every line of
one is read off the front of the document, whatever follows it, and then all lines are, by induction.
-/

namespace ServiceTree.Toml

/-! ## Keys and values -/

/-- Keys that need no quotes. -/
def IsBareKey (key : String) : Prop := key.toList ≠ [] ∧ ∀ c ∈ key.toList, isBare c

/-- Texts that need no escapes. -/
def IsQuotable (value : String) : Prop := ∀ c ∈ value.toList, isQuotable c

/-- Keys are checked character by character. -/
instance (key : String) : Decidable (IsBareKey key) :=
  decidable_of_iff ((!key.toList.isEmpty && key.toList.all isBare) = true) (by simp [IsBareKey])

/-- So are texts. -/
instance (value : String) : Decidable (IsQuotable value) :=
  decidable_of_iff (value.toList.all isQuotable = true) List.all_eq_true

/-- A key with a text, in front of what follows them. -/
def writeEntry (key value : String) (rest : List Char) : List Char :=
  key.toList ++ ' ' :: '=' :: ' ' :: '"' :: (value.toList ++ '"' :: rest)

/-- Keys with texts up to the brace that closes their table, in front of what follows it. -/
def writeFields : List (String × String) → List Char → List Char
  | [], rest => '\x7d' :: rest
  | [(key, value)], rest => writeEntry key value (' ' :: '\x7d' :: rest)
  | (key, value) :: field :: fields, rest =>
    writeEntry key value (',' :: ' ' :: writeFields (field :: fields) rest)

/-- What is read where a key with a text is written. -/
def textEntry (field : String × String) : List String × Toml := ([field.1], .text field.2)

section Keys

variable {key value : String} {fields : List (String × String)} {rest : List Char} {fuel : Nat}

/-- A key begins with a character of its own. -/
theorem IsBareKey.exists_cons (hkey : IsBareKey key) : ∃ c tail, key.toList = c :: tail ∧ isBare c := by
  obtain ⟨c, tail, heq⟩ := List.exists_cons_of_ne_nil hkey.1
  exact ⟨c, tail, heq, hkey.2 c (heq ▸ List.mem_cons_self)⟩

/-- Characters of keys are none of the marks around them. -/
theorem ne_of_isBare {c : Char} (hc : isBare c) (mark : Char) (hmark : isBare mark = false) : c ≠ mark :=
  fun heq => Bool.false_ne_true (hmark.symm.trans (heq ▸ hc))

/-- No text that begins with a key begins with a mark of another kind. -/
theorem IsBareKey.append_ne_cons (hkey : IsBareKey key) {mark : Char} (hmark : isBare mark = false)
    (rest behind : List Char) : key.toList ++ rest ≠ mark :: behind := by
  obtain ⟨c, tail, hchars, hc⟩ := hkey.exists_cons
  rw [hchars]
  exact fun heq => ne_of_isBare hc mark hmark (List.cons.inj heq).1

/-- Keys that need no quotes are texts that need no escapes. -/
theorem IsBareKey.isQuotable (hkey : IsBareKey key) : IsQuotable key := by
  intro c hc
  have hbare := hkey.2 c hc
  have hascii : Unicode.isAscii c := by
    rcases Bool.or_eq_true_iff.mp hbare with hdash | hlow
    · rcases Bool.or_eq_true_iff.mp hdash with halnum | hdash
      · exact Unicode.isAscii_of_isAlphanum halnum
      · exact eq_of_beq hdash ▸ rfl
    · exact eq_of_beq hlow ▸ rfl
  revert hbare
  exact Unicode.ascii_induction (by decide) hascii

/-- A bare key does not begin like a quoted one. -/
theorem quoted?_key (hkey : IsBareKey key) : quoted? (key.toList ++ rest) = none := by
  unfold quoted?
  split
  next heq => exact absurd heq (hkey.append_ne_cons rfl _ _)
  next heq => exact absurd heq (hkey.append_ne_cons rfl _ _)
  next => rfl

/-- A bare key is read up to the first character that is not of its kind. -/
theorem keyPart?_written (hkey : IsBareKey key) (hrest : rest.head?.all (!isBare ·)) :
    keyPart? (key.toList ++ rest) = some (key, rest) := by
  have htake : (key.toList ++ rest).takeWhile isBare = key.toList := by
    rw [List.takeWhile_append_of_pos hkey.2]
    cases rest <;> simp_all
  have hdrop : (key.toList ++ rest).dropWhile isBare = rest := by
    rw [List.dropWhile_append_of_pos hkey.2]
    cases rest <;> simp_all
  simp [keyPart?, quoted?_key hkey, htake, hdrop, hkey.1]

/-- A bare key without a dot behind it is a whole key, and the blanks behind it are passed over. -/
theorem key?_written (hkey : IsBareKey key) (hrest : rest.head?.all (!isBare ·))
    (hdot : (rest.dropWhile isBlank).head? ≠ some '.') :
    key? (fuel + 1) (key.toList ++ rest) = some ([key], rest.dropWhile isBlank) := by
  simp only [key?, keyPart?_written hkey hrest, Option.bind_eq_bind, Option.bind_some]
  split
  next heq => simp [heq] at hdot
  next => rfl

/-- A value that begins with a double quote is a text. -/
theorem value?_quote (input : List Char) :
    value? (fuel + 1) ('"' :: input) =
      (text? ('"' :: input)).map fun read => (.text (String.ofList read.1), read.2) := by
  cases hread : text? ('"' :: input) with
  | some read => simp [value?, hread]
  | none =>
    have hword : word? ('"' :: input) = none := rfl
    simp [value?, hread, hword]

/-- A text that needs no escapes is read back as a value. -/
theorem value?_text (hvalue : IsQuotable value) (hrest : rest.head? ≠ some '"') :
    value? (fuel + 1) ('"' :: (value.toList ++ '"' :: rest)) = some (.text value, rest) := by
  simp [value?_quote, text?_written hvalue hrest]

/-- A key with the sign behind it is read in front of any value. -/
theorem keyed?_key (hkey : IsBareKey key) :
    keyed? (fuel + 2) (key.toList ++ ' ' :: '=' :: rest) =
      (value? (fuel + 1) (rest.dropWhile isBlank)).map fun read => (([key], read.1), read.2) := by
  have hsign : (' ' :: '=' :: rest).dropWhile isBlank = '=' :: rest := rfl
  rw [keyed?, key?_written hkey rfl (by simp [hsign]), hsign]
  exact Option.map_eq_bind.symm

/-- A key with a text is read back in front of what follows it. -/
theorem keyed?_written (hkey : IsBareKey key) (hvalue : IsQuotable value) (hrest : rest.head? ≠ some '"') :
    keyed? (fuel + 2) (writeEntry key value rest) = some (textEntry (key, value), rest) := by
  have hquote : (' ' :: '"' :: (value.toList ++ '"' :: rest)).dropWhile isBlank =
      '"' :: (value.toList ++ '"' :: rest) := rfl
  simp [writeEntry, keyed?_key hkey, hquote, value?_text hvalue hrest, textEntry]

/-- No blanks stand in front of a key. -/
theorem dropWhile_isBlank_key (hkey : IsBareKey key) :
    (key.toList ++ rest).dropWhile isBlank = key.toList ++ rest := by
  obtain ⟨c, tail, heq, hc⟩ := hkey.exists_cons
  have hblank : isBlank c = false := by
    simp [isBlank, ne_of_isBare hc ' ' rfl, ne_of_isBare hc '\t' rfl]
  simp [heq, hblank]

/-- The first of some keys with texts stands in front of the others and of the brace. -/
theorem exists_writeFields_cons (field : String × String) (fields : List (String × String)) (rest : List Char) :
    ∃ behind, writeFields (field :: fields) rest = writeEntry field.1 field.2 behind := by
  cases fields with
  | nil => exact ⟨_, rfl⟩
  | cons next fields => exact ⟨_, rfl⟩

/-- Every field takes a character at least, and so does the brace. -/
theorem length_writeFields (fields : List (String × String)) (rest : List Char) :
    fields.length + rest.length < (writeFields fields rest).length := by
  fun_induction writeFields fields rest with
  | case1 rest => simp
  | case2 rest key value => simp [writeEntry]; omega
  | case3 rest key value field fields ih =>
    simp only [writeEntry, List.length_append, List.length_cons] at ih ⊢
    omega

/-- The blank in front of the first field is passed over, and nothing else is. -/
theorem dropWhile_isBlank_writeFields {field : String × String} (hkey : IsBareKey field.1) :
    (' ' :: writeFields (field :: fields) rest).dropWhile isBlank = writeFields (field :: fields) rest := by
  obtain ⟨behind, heq⟩ := exists_writeFields_cons field fields rest
  rw [heq]
  exact dropWhile_isBlank_key hkey

/-- The first field is read off the front of the others. -/
theorem entries?_cons {field next : String × String} (hkey : IsBareKey field.1) (hvalue : IsQuotable field.2)
    (hnext : IsBareKey next.1) :
    entries? (fuel + 3) (writeFields (field :: next :: fields) rest) =
      (entries? (fuel + 2) (writeFields (next :: fields) rest)).map fun read =>
        (textEntry field :: read.1, read.2) := by
  have hblank : (',' :: ' ' :: writeFields (next :: fields) rest).dropWhile isBlank =
      ',' :: ' ' :: writeFields (next :: fields) rest := rfl
  rw [writeFields, entries?, keyed?_written hkey hvalue (by simp)]
  simp only [Option.bind_eq_bind, Option.bind_some, hblank]
  rw [dropWhile_isBlank_writeFields hnext]
  exact Option.map_eq_bind.symm

/-- Keys with texts are read one after the other, the last one with the brace behind it. -/
theorem entries?_written (hfields : ∀ field ∈ fields, IsBareKey field.1 ∧ IsQuotable field.2)
    (hsome : fields ≠ []) (hfuel : fields.length + 2 ≤ fuel) :
    entries? fuel (writeFields fields rest) = some (fields.map textEntry, rest) := by
  induction fields generalizing fuel with
  | nil => exact absurd rfl hsome
  | cons field fields ih =>
    obtain ⟨fuel, rfl⟩ : ∃ left, fuel = left + 3 := ⟨fuel - 3, by simp at hfuel; omega⟩
    obtain ⟨⟨hkey, hvalue⟩, hfields⟩ := List.forall_mem_cons.mp hfields
    cases fields with
    | nil =>
      rw [writeFields, entries?, keyed?_written hkey hvalue (by simp)]
      rfl
    | cons next fields =>
      have hfuel : (next :: fields).length + 2 ≤ fuel + 2 := by simpa using hfuel
      rw [entries?_cons hkey hvalue (List.forall_mem_cons.mp hfields).1.1,
        ih hfields (List.cons_ne_nil _ _) hfuel]
      rfl

/-- A value that begins with a brace is a table of the fields behind it. -/
theorem value?_brace {field : String × String} (hkey : IsBareKey field.1) :
    value? (fuel + 1) ('\x7b' :: ' ' :: writeFields (field :: fields) rest) =
      (entries? fuel (writeFields (field :: fields) rest)).map fun read => (.table read.1, read.2) := by
  simp only [value?, dropWhile_isBlank_writeFields hkey]
  split
  next behind heq =>
    obtain ⟨_, hwritten⟩ := exists_writeFields_cons field fields rest
    exact absurd (hwritten.symm.trans heq) (hkey.append_ne_cons rfl _ _)
  next => exact Option.map_eq_bind.symm

/-- A table of fields that need no quotes and no escapes is read back as a value. -/
theorem value?_table (hfields : ∀ field ∈ fields, IsBareKey field.1 ∧ IsQuotable field.2)
    (hfuel : fields.length + 2 ≤ fuel) :
    value? (fuel + 1) ('\x7b' :: ' ' :: writeFields fields rest) =
      some (.table (fields.map textEntry), rest) := by
  cases fields with
  | nil => rfl
  | cons field fields =>
    rw [value?_brace (List.forall_mem_cons.mp hfields).1.1,
      entries?_written hfields (List.cons_ne_nil _ _) hfuel]
    rfl

end Keys

/-! ## Lines -/

/-- A line in its plainest form. -/
inductive WrittenLine where
  | blank
  | comment (words : String)
  | header (name : String)
  | entry (key value : String)
  /-- A table of texts, in braces. -/
  | table (key : String) (fields : List (String × String))

namespace WrittenLine

/-- A line in front of what follows it. -/
def write : WrittenLine → List Char → List Char
  | blank, rest => '\n' :: rest
  | comment words, rest => '#' :: (words.toList ++ '\n' :: rest)
  | header name, rest => '[' :: (name.toList ++ ']' :: '\n' :: rest)
  | entry key value, rest => writeEntry key value ('\n' :: rest)
  | table key fields, rest =>
    key.toList ++ ' ' :: '=' :: ' ' :: '\x7b' :: ' ' :: writeFields fields ('\n' :: rest)

/-- What is read where a line is written. -/
def line : WrittenLine → Line
  | blank => .idle
  | comment _ => .idle
  | header name => .header false [name]
  | entry key value => .entry (textEntry (key, value))
  | table key fields => .entry ([key], .table (fields.map textEntry))

/-- Lines that are read as they are meant: all keys are bare and all texts need no escapes. -/
def IsPlain : WrittenLine → Prop
  | blank => True
  | comment words => ∀ c ∈ words.toList, isControl c = false
  | header name => IsBareKey name
  | entry key value => IsBareKey key ∧ IsQuotable value
  | table key fields => IsBareKey key ∧ ∀ field ∈ fields, IsBareKey field.1 ∧ IsQuotable field.2

/-- Lines are checked by their keys and their texts. -/
instance : DecidablePred IsPlain
  | blank => .isTrue trivial
  | comment words => decidable_of_iff (words.toList.all (!isControl ·) = true) (by simp [IsPlain])
  | header name => inferInstanceAs (Decidable (IsBareKey name))
  | entry key value => inferInstanceAs (Decidable (IsBareKey key ∧ IsQuotable value))
  | table key fields =>
    inferInstanceAs (Decidable (IsBareKey key ∧ ∀ field ∈ fields, IsBareKey field.1 ∧ IsQuotable field.2))

/-- Every line takes a character at least. -/
theorem length_write (written : WrittenLine) (rest : List Char) :
    rest.length < (written.write rest).length := by
  cases written with
  | blank => simp [write]
  | comment words => simp [write]; omega
  | header name => simp [write]; omega
  | entry key value => simp [write, writeEntry]; omega
  | table key fields =>
    have hfields := length_writeFields fields ('\n' :: rest)
    simp only [write, List.length_append, List.length_cons] at hfields ⊢
    omega

/-- Lines take one character each at least. -/
theorem length_foldr_write (lines : List WrittenLine) (rest : List Char) :
    lines.length + rest.length ≤ (lines.foldr write rest).length := by
  induction lines with
  | nil => simp
  | cons written lines ih =>
    have := written.length_write (lines.foldr write rest)
    simp only [List.length_cons, List.foldr_cons]
    omega

end WrittenLine

section Lines

variable {written : WrittenLine} {lines : List WrittenLine} {rest : List Char} {fuel : Nat}

/-- A comment is passed over up to the end of its line. -/
theorem lineEnd?_comment {words : List Char} (hwords : ∀ c ∈ words, isControl c = false) :
    lineEnd? true (words ++ '\n' :: rest) = some rest := by
  induction words with
  | nil => rfl
  | cons c words ih =>
    obtain ⟨hc, hwords⟩ := List.forall_mem_cons.mp hwords
    have hline : newLine? (c :: (words ++ '\n' :: rest)) = none := by
      unfold newLine?
      split
      next heq => simp_all [isControl]
      next heq => simp_all [isControl]
      next => rfl
    simp [lineEnd?, hline, hc, ih hwords]

/-- No line ends where a key begins. -/
theorem newLine?_key {key : String} (hkey : IsBareKey key) : newLine? (key.toList ++ rest) = none := by
  unfold newLine?
  split
  next heq => exact absurd heq (hkey.append_ne_cons rfl _ _)
  next heq => exact absurd heq (hkey.append_ne_cons rfl _ _)
  next => rfl

/-- Where a key begins, a line does not come to its end. -/
theorem lineEnd?_key {key : String} (hkey : IsBareKey key) : lineEnd? false (key.toList ++ rest) = none := by
  have hline : newLine? (key.toList ++ rest) = none := newLine?_key hkey
  obtain ⟨c, tail, hchars, hc⟩ := hkey.exists_cons
  rw [hchars, List.cons_append] at hline ⊢
  simp [lineEnd?, hline, isBlank, ne_of_isBare hc '#' rfl, ne_of_isBare hc ' ' rfl, ne_of_isBare hc '\t' rfl]

/-- A line that begins with a key is read as an entry. -/
theorem line?_key {key : String} (hkey : IsBareKey key) :
    line? fuel (key.toList ++ rest) =
      (keyed? fuel (key.toList ++ rest)).bind fun read =>
        (lineEnd? false read.2).map fun behind => (.entry read.1, behind) := by
  simp only [line?, lineEnd?_key hkey, dropWhile_isBlank_key hkey]
  split
  next heq => exact absurd heq (hkey.append_ne_cons rfl _ _)
  next =>
    simp only [Option.map_eq_bind]
    rfl

/-- A bare name with a bracket behind it is read as the header of a table. -/
theorem header?_written {name : String} (hname : IsBareKey name) :
    header? (fuel + 1) (name.toList ++ ']' :: rest) = some (.header false [name], rest) := by
  have hkey : key? (fuel + 1) (name.toList ++ ']' :: rest) = some ([name], ']' :: rest) :=
    key?_written hname rfl (by simp [isBlank])
  unfold header?
  split
  next heq => exact absurd heq (hname.append_ne_cons rfl _ _)
  next =>
    rw [dropWhile_isBlank_key hname, hkey]
    rfl

/-- A plain line is read as it is meant, in front of whatever follows it. -/
theorem line?_written (hplain : written.IsPlain) (hfuel : (written.write rest).length ≤ fuel + 1) :
    line? fuel (written.write rest) = some (written.line, rest) := by
  cases written with
  | blank => rfl
  | comment words =>
    have hend : lineEnd? false ('#' :: (words.toList ++ '\n' :: rest)) = some rest :=
      lineEnd?_comment hplain
    simp [WrittenLine.write, line?, hend, WrittenLine.line]
  | header name =>
    obtain ⟨fuel, rfl⟩ : ∃ left, fuel = left + 1 := ⟨fuel - 1, by simp [WrittenLine.write] at hfuel; omega⟩
    have hidle : lineEnd? false ('[' :: (name.toList ++ ']' :: '\n' :: rest)) = none := rfl
    have hopening : ('[' :: (name.toList ++ ']' :: '\n' :: rest)).dropWhile isBlank =
        '[' :: (name.toList ++ ']' :: '\n' :: rest) := rfl
    simp only [WrittenLine.write, line?, hidle, hopening, header?_written hplain]
    rfl
  | entry key value =>
    obtain ⟨hkey, hvalue⟩ := hplain
    obtain ⟨fuel, rfl⟩ : ∃ left, fuel = left + 2 :=
      ⟨fuel - 2, by simp [WrittenLine.write, writeEntry] at hfuel; omega⟩
    have hentry : keyed? (fuel + 2) (writeEntry key value ('\n' :: rest)) = _ :=
      keyed?_written hkey hvalue (by simp)
    rw [WrittenLine.write, writeEntry, line?_key hkey, ← writeEntry, hentry]
    rfl
  | table key fields =>
    obtain ⟨hkey, hfields⟩ := hplain
    have hlength := length_writeFields fields ('\n' :: rest)
    have hsome := List.length_pos_iff.mpr hkey.1
    obtain ⟨fuel, rfl⟩ : ∃ left, fuel = left + 2 := ⟨fuel - 2, by simp [WrittenLine.write] at hfuel; omega⟩
    simp only [WrittenLine.write, List.length_append, List.length_cons] at hfuel hlength
    have hblank : (' ' :: '\x7b' :: ' ' :: writeFields fields ('\n' :: rest)).dropWhile isBlank =
        '\x7b' :: ' ' :: writeFields fields ('\n' :: rest) := rfl
    rw [WrittenLine.write, line?_key hkey, keyed?_key hkey, hblank, value?_table hfields (by omega)]
    rfl

/-! ## Documents -/

/-- The sections that a line closes, and the one that it leaves open. -/
def advance (current : Section) : Line → Document × Section
  | .idle => ([], current)
  | .header isItem header => ([current], ⟨isItem, header, []⟩)
  | .entry entry => ([], { current with entries := current.entries ++ [entry] })

/-- The sections that lines close, and the one that they leave open. -/
def collect (current : Section) : List Line → Document × Section
  | [] => ([], current)
  | line :: lines =>
    let (closed, current) := advance current line
    let (later, last) := collect current lines
    (closed ++ later, last)

/-- A line that is read goes to the section that is open, or closes it. -/
theorem sections?_line {current : Section} {line : Line} {input : List Char}
    (hline : line? fuel input = some (line, rest)) (hsome : input ≠ []) :
    sections? (fuel + 1) current input =
      (sections? fuel (advance current line).2 rest).map ((advance current line).1 ++ ·) := by
  cases input with
  | nil => exact absurd rfl hsome
  | cons c input =>
    rw [sections?, hline]
    cases line with
    | idle => simp [advance]
    | header isItem header => exact Option.map_eq_bind.symm
    | entry entry => simp [advance]

/-- Plain lines are read in front of whatever follows them. -/
theorem sections?_written (current : Section) (hplain : ∀ written ∈ lines, written.IsPlain)
    (hfuel : (lines.foldr WrittenLine.write rest).length ≤ fuel) :
    sections? fuel current (lines.foldr WrittenLine.write rest) =
      (sections? (fuel - lines.length) (collect current (lines.map WrittenLine.line)).2 rest).map
        ((collect current (lines.map WrittenLine.line)).1 ++ ·) := by
  induction lines generalizing current fuel with
  | nil => simp [collect]
  | cons written lines ih =>
    obtain ⟨hwritten, hplain⟩ := List.forall_mem_cons.mp hplain
    have hshorter := written.length_write (lines.foldr WrittenLine.write rest)
    rw [List.foldr_cons] at hfuel ⊢
    obtain ⟨fuel, rfl⟩ : ∃ left, fuel = left + 1 := ⟨fuel - 1, by omega⟩
    rw [sections?_line (line?_written hwritten hfuel) (List.ne_nil_of_length_pos (by omega)),
      ih _ hplain (by omega), Option.map_map]
    simp [collect, Function.comp_def, List.append_assoc]

/-- The document that plain lines write. -/
def documentOf (lines : List WrittenLine) : Document :=
  let (closed, last) := collect ⟨false, [], []⟩ (lines.map WrittenLine.line)
  closed ++ [last]

/-- Plain lines are read as the document that they write, if that is sound. -/
theorem read?_written (hplain : ∀ written ∈ lines, written.IsPlain) (hsound : (documentOf lines).isSound) :
    read? (String.ofList (lines.foldr WrittenLine.write [])) = some (documentOf lines) := by
  have hread := sections?_written ⟨false, [], []⟩ hplain (Nat.le_refl (lines.foldr WrittenLine.write []).length)
  rw [read?, String.toList_ofList, hread, sections?]
  simpa [documentOf] using hsound

/-! ## Texts that end early -/

/-- Reading on only adds to the section that is open, and sections behind it. -/
theorem sections?_grows {current : Section} {input : List Char} {document : Document}
    (hread : sections? fuel current input = some document) :
    ∃ more later, document = ⟨current.isItem, current.header, current.entries ++ more⟩ :: later := by
  induction fuel generalizing current input document with
  | zero =>
    cases input with
    | nil => exact ⟨[], [], by simpa [sections?, eq_comm] using hread⟩
    | cons c input => simp [sections?] at hread
  | succ fuel ih =>
    cases input with
    | nil => exact ⟨[], [], by simpa [sections?, eq_comm] using hread⟩
    | cons c input =>
      cases hline : line? fuel (c :: input) with
      | none => simp [sections?, hline] at hread
      | some read =>
        obtain ⟨line, rest⟩ := read
        rw [sections?_line hline (List.cons_ne_nil _ _), Option.map_eq_some_iff] at hread
        obtain ⟨behind, hread, rfl⟩ := hread
        obtain ⟨more, later, rfl⟩ := ih hread
        cases line with
        | idle => exact ⟨more, later, rfl⟩
        | header isItem header => exact ⟨[], ⟨isItem, header, more⟩ :: later, by simp [advance]⟩
        | entry entry => exact ⟨entry :: more, later, by simp [advance]⟩

/-- What is read at the front of a table is its first entry. -/
theorem exists_entries_cons {entry : List String × Toml} {entries : List (List String × Toml)}
    {input behind : List Char} (hentry : keyed? fuel input = some (entry, rest))
    (hread : entries? (fuel + 1) input = some (entries, behind)) : ∃ more, entries = entry :: more := by
  simp only [entries?, hentry, Option.bind_eq_bind, Option.bind_some] at hread
  split at hread
  next =>
    simp only [Option.bind_eq_some_iff, Option.some.injEq, Prod.mk.injEq] at hread
    obtain ⟨⟨more, _⟩, -, rfl, -⟩ := hread
    exact ⟨more, rfl⟩
  next => cases hread; exact ⟨[], rfl⟩
  next => cases hread

section LastText

variable {name value : String} {fields : List (String × String)}

/-- A text that cannot stand between double quotes as it is, is read as another one near the end of a document. -/
theorem keyed?_ne_written (hname : IsBareKey name) (hslash : '\\' ∉ value.toList) (hvalue : ¬ IsQuotable value)
    (hrest : rest.length ≤ 3) {entry : List String × Toml} {behind : List Char}
    (hread : keyed? (fuel + 2) (writeEntry name value rest) = some (entry, behind)) :
    ∃ text ≠ value, entry = textEntry (name, text) := by
  rw [writeEntry, keyed?_key hname, Option.map_eq_some_iff] at hread
  obtain ⟨⟨found, behind⟩, hfound, heq⟩ := hread
  cases heq
  have hquote : (' ' :: '"' :: (value.toList ++ '"' :: rest)).dropWhile isBlank =
      '"' :: (value.toList ++ '"' :: rest) := rfl
  rw [hquote, value?_quote, Option.map_eq_some_iff] at hfound
  obtain ⟨⟨read, behind⟩, hread, heq⟩ := hfound
  cases heq
  refine ⟨String.ofList read, ?_, rfl⟩
  rintro rfl
  rw [String.toList_ofList] at hslash hread
  exact text?_ne_written hslash (by simpa [IsQuotable] using hvalue) hrest hread rfl

/-- Fields with one more behind them begin with one whose key is bare. -/
theorem exists_cons_of_append (hfields : ∀ field ∈ fields, IsBareKey field.1 ∧ IsQuotable field.2)
    (hname : IsBareKey name) (value : String) :
    ∃ next others, fields ++ [(name, value)] = next :: others ∧ IsBareKey next.1 := by
  cases fields with
  | nil => exact ⟨_, _, rfl, hname⟩
  | cons next fields => exact ⟨_, _, rfl, (List.forall_mem_cons.mp hfields).1.1⟩

/-- If the last text of a table cannot stand between double quotes as it is, another is read in its place. -/
theorem entries?_ne_written (hfields : ∀ field ∈ fields, IsBareKey field.1 ∧ IsQuotable field.2)
    (hname : IsBareKey name) (hslash : '\\' ∉ value.toList) (hvalue : ¬ IsQuotable value)
    (hrest : rest.length ≤ 1) (hfuel : fields.length + 3 ≤ fuel)
    {entries : List (List String × Toml)} {behind : List Char}
    (hread : entries? fuel (writeFields (fields ++ [(name, value)]) rest) = some (entries, behind)) :
    ∃ text ≠ value, ∃ more, entries = fields.map textEntry ++ textEntry (name, text) :: more := by
  induction fields generalizing fuel entries behind with
  | nil =>
    obtain ⟨fuel, rfl⟩ : ∃ left, fuel = left + 3 := ⟨fuel - 3, by omega⟩
    rw [List.nil_append, writeFields] at hread
    cases hentry : keyed? (fuel + 2) (writeEntry name value (' ' :: '\x7d' :: rest)) with
    | none => simp [entries?, hentry] at hread
    | some read =>
      have hrest : (' ' :: '\x7d' :: rest).length ≤ 3 := Nat.add_le_add_right hrest 2
      obtain ⟨text, hne, heq⟩ := keyed?_ne_written hname hslash hvalue hrest hentry
      obtain ⟨more, rfl⟩ := exists_entries_cons hentry hread
      exact ⟨text, hne, more, by rw [heq]; rfl⟩
  | cons field fields ih =>
    obtain ⟨fuel, rfl⟩ : ∃ left, fuel = left + 3 := ⟨fuel - 3, by omega⟩
    obtain ⟨⟨hkey, hfield⟩, hfields⟩ := List.forall_mem_cons.mp hfields
    obtain ⟨next, others, hothers, hnext⟩ := exists_cons_of_append hfields hname value
    rw [List.cons_append, hothers, entries?_cons hkey hfield hnext, Option.map_eq_some_iff] at hread
    obtain ⟨⟨entries, behind⟩, hread, heq⟩ := hread
    cases heq
    obtain ⟨text, hne, more, rfl⟩ := ih hfields (by simpa using hfuel) (hothers ▸ hread)
    exact ⟨text, hne, more, rfl⟩

/-- A line is misread if the last text of its table is. -/
theorem line?_ne_written {key : String} (hkey : IsBareKey key)
    (hfields : ∀ field ∈ fields, IsBareKey field.1 ∧ IsQuotable field.2)
    (hname : IsBareKey name) (hslash : '\\' ∉ value.toList) (hvalue : ¬ IsQuotable value)
    (hfuel : fields.length + 5 ≤ fuel) {line : Line} {behind : List Char}
    (hread : line? fuel ((WrittenLine.table key (fields ++ [(name, value)])).write []) = some (line, behind)) :
    ∃ text ≠ value, ∃ more,
      line = .entry ([key], .table (fields.map textEntry ++ textEntry (name, text) :: more)) := by
  obtain ⟨fuel, rfl⟩ : ∃ left, fuel = left + 2 := ⟨fuel - 2, by omega⟩
  obtain ⟨next, others, hothers, hnext⟩ := exists_cons_of_append hfields hname value
  have hblank : (' ' :: '\x7b' :: ' ' :: writeFields (next :: others) ['\n']).dropWhile isBlank =
      '\x7b' :: ' ' :: writeFields (next :: others) ['\n'] := rfl
  rw [WrittenLine.write, line?_key hkey, keyed?_key hkey, hothers, hblank, value?_brace hnext] at hread
  simp only [Option.bind_eq_some_iff, Option.map_eq_some_iff] at hread
  obtain ⟨_, ⟨_, ⟨⟨entries, left⟩, hentries, rfl⟩, rfl⟩, _, -, heq⟩ := hread
  cases heq
  obtain ⟨text, hne, more, rfl⟩ :=
    entries?_ne_written hfields hname hslash hvalue (by simp) (by omega) (hothers ▸ hentries)
  exact ⟨text, hne, more, rfl⟩

/-- If the last text of a table at the end of a document cannot stand between double quotes as it is, another is read
in its place. -/
theorem read?_ne_written {key : String} {closed : Document} {last : Section}
    (hplain : ∀ written ∈ lines, written.IsPlain)
    (hlines : collect ⟨false, [], []⟩ (lines.map WrittenLine.line) = (closed, last)) (hkey : IsBareKey key)
    (hfields : ∀ field ∈ fields, IsBareKey field.1 ∧ IsQuotable field.2)
    (hname : IsBareKey name) (hslash : '\\' ∉ value.toList) (hvalue : ¬ IsQuotable value) {document : Document}
    (hread : read? (String.ofList ((lines ++ [WrittenLine.table key (fields ++ [(name, value)])]).foldr
      WrittenLine.write [])) = some document) :
    ∃ text ≠ value, ∃ more entries later,
      document = closed ++ ⟨last.isItem, last.header, last.entries ++
        ([key], .table (fields.map textEntry ++ textEntry (name, text) :: more)) :: entries⟩ :: later := by
  let table := WrittenLine.table key (fields ++ [(name, value)])
  have hroom := WrittenLine.length_foldr_write lines (table.write [])
  have htable : fields.length + 6 ≤ (table.write []).length := by
    have hfields := length_writeFields (fields ++ [(name, value)]) ['\n']
    simp only [table, WrittenLine.write, List.length_append, List.length_cons] at hfields ⊢
    omega
  obtain ⟨fuel, hfuel⟩ :
      ∃ left, (lines.foldr WrittenLine.write (table.write [])).length - lines.length = left + 1 :=
    Nat.exists_eq_succ_of_ne_zero (by omega)
  rw [read?, Option.filter_eq_some_iff, String.toList_ofList, List.foldr_append,
    sections?_written _ hplain (Nat.le_refl _), hlines, Option.map_eq_some_iff] at hread
  obtain ⟨⟨document, hread, rfl⟩, -⟩ := hread
  change sections? ((lines.foldr WrittenLine.write (table.write [])).length - lines.length) last
    (table.write []) = some document at hread
  rw [hfuel] at hread
  cases hline : line? fuel (table.write []) with
  | none =>
    obtain ⟨c, input, heq⟩ := List.exists_cons_of_length_pos (l := table.write []) (by omega)
    simp [heq, sections?, heq ▸ hline] at hread
  | some read =>
    obtain ⟨text, hne, more, hentry⟩ :=
      line?_ne_written hkey hfields hname hslash hvalue (by omega) hline
    rw [sections?_line hline (List.ne_nil_of_length_pos (by omega)), hentry, Option.map_eq_some_iff] at hread
    obtain ⟨document, hread, rfl⟩ := hread
    obtain ⟨entries, later, rfl⟩ := sections?_grows hread
    exact ⟨text, hne, more, entries, later, by simp [advance]⟩

end LastText

end Lines

end ServiceTree.Toml
