import ServiceTree.Plan.Strategy
import ServiceTree.Proofs.WordBoundaries

/-!
# Spellings of words

A word of small letters with digits behind them may be written as it is, in capitals or with one capital in front,
and any separators may stand around it. However it is written, no word is split and no two are run together: within
a word no capital stands behind a small letter or a digit, nor between a capital and a small letter. So a spelling
means its words, and a method that is spelled by it is reserved exactly if they are one reserved word.
-/

namespace ServiceTree

/-- How the letters of a word are written. -/
inductive LetterStyle where
  | small
  | capitals
  | capitalized
  deriving DecidableEq, Repr

/-- Small letters written in a style. -/
def LetterStyle.write : LetterStyle → List Char → List Char
  | .small, letters => letters
  | .capitals, letters => letters.map Char.toUpper
  | .capitalized, [] => []
  | .capitalized, c :: letters => c.toUpper :: letters

/-- A word of small letters with digits behind them, the style it is written in, and the separators that are
written behind it. -/
structure WrittenWord where
  letters : List Char
  digits : List Char
  style : LetterStyle
  gap : List Char
  nonempty : letters ≠ []
  small : ∀ c ∈ letters, c.isLower = true
  numeric : ∀ c ∈ digits, c.isDigit = true
  separates : ∀ c ∈ gap, Name.isSeparator c = true

namespace WrittenWord

/-- The word itself. -/
def word (written : WrittenWord) : List Char := written.letters ++ written.digits

/-- The word as it is written, without the separators. -/
def text (written : WrittenWord) : List Char := written.style.write written.letters ++ written.digits

end WrittenWord

/-- Words as they are written, with separators in front and behind and at least one between any two words. -/
structure Spelling where
  lead : List Char
  writtenWords : List WrittenWord
  separates : ∀ c ∈ lead, Name.isSeparator c = true
  apart : ∀ written ∈ writtenWords.dropLast, written.gap ≠ []

namespace Spelling

/-- The text that is written. -/
def text (spelling : Spelling) : String :=
  String.ofList (spelling.lead ++ spelling.writtenWords.flatMap fun written => written.text ++ written.gap)

/-- The words that are written. -/
def words (spelling : Spelling) : List String :=
  spelling.writtenWords.map fun written => String.ofList written.word

end Spelling

namespace Name

/-! ## Separators -/

/-- The code points of blanks beyond ASCII. -/
def wideBlanks : List Nat :=
  [0x85, 0xa0, 0x1680] ++ List.range' 0x2000 11 ++ [0x2028, 0x2029, 0x202f, 0x205f, 0x3000]

/-- Separators beyond ASCII are blanks. -/
theorem mem_wideBlanks {c : Char} (h : isSeparator c = true) (hascii : Unicode.isAscii c = false) :
    c.toNat ∈ wideBlanks := by
  have hwide : 128 ≤ c.toNat := by simpa [Unicode.isAscii] using hascii
  have hle (a b : Char) : a ≤ b ↔ a.toNat ≤ b.toNat := UInt32.le_iff_toNat_le
  simp only [isSeparator, Unicode.isBlank, Bool.or_eq_true, beq_iff_eq, Bool.and_eq_true,
    decide_eq_true_eq, hle] at h
  rcases h with (rfl | rfl) |
    (((((((((rfl | ⟨_, hcontrol⟩) | rfl) | rfl) | rfl) | ⟨hfirst, hlast⟩) | rfl) | rfl) | rfl) | rfl) | rfl
  any_goals decide
  any_goals cases hascii
  · exact absurd (hwide.trans hcontrol) (by decide)
  · have hrange : c.toNat ∈ List.range' 0x2000 11 := List.mem_range'_1.mpr ⟨hfirst, Nat.lt_succ_of_le hlast⟩
    exact List.mem_append_left _ (List.mem_append_right _ hrange)

/-- No separator is a small letter. -/
theorem isLower_of_isSeparator {c : Char} (h : isSeparator c = true) : Unicode.isLower c = false := by
  cases hascii : Unicode.isAscii c with
  | true =>
    revert h
    exact Unicode.ascii_induction (by decide) hascii
  | false =>
    have hcodes : ∀ code ∈ wideBlanks, Unicode.isLower (Char.ofNat code) = false := by decide +kernel
    rw [← Char.ofNat_toNat c]
    exact hcodes _ (mem_wideBlanks h hascii)

/-! ## Reading a word -/

variable {text run letters digits reversed : List Char} {previous : Char}

/-- Where no word is open, the character before does not matter. -/
theorem splitFrom_closed : splitFrom previous [] text = splitWords text := by
  cases text with
  | nil => rfl
  | cons c text => simp [splitWords, splitFrom]

/-- Separators in front are passed over. -/
theorem splitWords_separators (hrun : ∀ c ∈ run, isSeparator c = true) :
    splitWords (run ++ text) = splitWords text := by
  induction run with
  | nil => rfl
  | cons c run ih =>
    rw [List.forall_mem_cons] at hrun
    rw [List.cons_append, splitWords, splitFrom, if_pos hrun.1, splitFrom_closed, ih hrun.2]
    rfl

/-- The open word is closed by a separator and by the end of the text. -/
theorem splitFrom_end (htext : ∀ c ∈ text.head?, isSeparator c = true) :
    splitFrom previous reversed text = flush reversed ++ splitWords text := by
  cases text with
  | nil => exact (List.append_nil _).symm
  | cons c text =>
    have hc : isSeparator c = true := htext c rfl
    rw [splitWords, splitFrom, splitFrom, if_pos hc, if_pos hc]
    rfl

/-- Small letters are plain. -/
theorem isPlain_of_isLower (hletters : ∀ c ∈ letters, c.isLower = true) :
    ∀ c ∈ letters, isPlain c = true :=
  fun c hc => Bool.or_eq_true_iff.mpr (.inl (hletters c hc))

/-- Digits are plain. -/
theorem isPlain_of_isDigit (hdigits : ∀ c ∈ digits, c.isDigit = true) :
    ∀ c ∈ digits, isPlain c = true :=
  fun c hc => Bool.or_eq_true_iff.mpr (.inr (hdigits c hc))

/-- A small letter is no digit. -/
theorem not_isDigit_of_isLower {c : Char} (h : c.isLower = true) : c.isDigit = false := by
  have hascii := isAscii_of_isPlain (Bool.or_eq_true_iff.mpr (.inl h) : isPlain c = true)
  revert h
  exact Unicode.ascii_induction (by decide) hascii

/-- A digit is no small letter. -/
theorem isLower_of_isDigit {c : Char} (h : c.isDigit = true) : Unicode.isLower c = false := by
  have hascii := isAscii_of_isPlain (Bool.or_eq_true_iff.mpr (.inr h) : isPlain c = true)
  revert h
  exact Unicode.ascii_induction (by decide) hascii

/-- Capitals behind a capital are added to the open word, if no small letter follows them. The induction is on the
letters; what follows a capital is the next one or what stands behind all of them. -/
theorem splitFrom_capitalLetters (hletters : ∀ c ∈ letters, c.isLower = true)
    (hprevious : Unicode.isLower previous = false ∧ previous.isDigit = false)
    (htext : text.head?.any Unicode.isLower = false) :
    splitFrom previous reversed (letters.map Char.toUpper ++ text) =
      splitFrom ((letters.map Char.toUpper).getLastD previous) (letters.reverse ++ reversed) text := by
  induction letters generalizing previous reversed with
  | nil => rfl
  | cons c letters ih =>
    rw [List.forall_mem_cons] at hletters
    obtain ⟨hwithin, _, hlower, hsmall, hdigit, _⟩ :=
      capital_spec (Bool.or_eq_true_iff.mpr (.inl hletters.1) : isPlain c = true)
    have hletter : c.isDigit = false := not_isDigit_of_isLower hletters.1
    have hnext : (letters.map Char.toUpper ++ text).head?.any Unicode.isLower = false := by
      cases letters with
      | nil => exact htext
      | cons next letters =>
        exact (capital_spec (isPlain_of_isLower hletters.2 next List.mem_cons_self)).2.2.2.1
    have hgoes : beginsWord previous c.toUpper (letters.map Char.toUpper ++ text).head? = false := by
      rw [beginsWord, hprevious.1, hprevious.2, hnext, Bool.and_false, Bool.or_self, Bool.or_self,
        Bool.and_false]
    rw [List.map_cons, List.cons_append, splitFrom, hwithin, hgoes, Bool.and_false, hlower,
      if_neg Bool.false_ne_true, if_neg Bool.false_ne_true, ih hletters.2 ⟨hsmall, hdigit.trans hletter⟩,
      List.getLastD_cons]
    simp

/-- A character that is none of the separators opens a word with its small form. -/
theorem splitWords_opened {shown first : Char} (hwithin : isSeparator shown = false)
    (hlower : Unicode.lower shown = [first]) :
    splitWords (shown :: text) = splitFrom shown [first] text := by
  rw [splitWords, splitFrom, hwithin, hlower]
  rfl

/-- An open word is read with the characters behind it that are read as themselves, where a separator or the end of
the text follows. -/
theorem splitFrom_rest (hletters : ∀ c ∈ letters, IsNormal c) (hopen : reversed ≠ [])
    (htext : ∀ c ∈ text.head?, isSeparator c = true) :
    splitFrom previous reversed (letters ++ text) = (reversed.reverse ++ letters) :: splitWords text := by
  have hword : (letters.reverse ++ reversed).isEmpty = false := by simpa using fun _ => hopen
  rw [splitFrom_normal _ _ hletters, splitFrom_end htext, flush, hword]
  simp

end Name

namespace WrittenWord

/-- A written word is read as itself where a separator or the end of the text stands behind it. -/
theorem splitWords_append (written : WrittenWord) {text : List Char}
    (htext : ∀ c ∈ text.head?, Name.isSeparator c = true) :
    Name.splitWords (written.text ++ text) = written.word :: Name.splitWords text := by
  obtain ⟨letters, digits, style, gap, hne, hletters, hdigits, _⟩ := written
  obtain ⟨first, tail, rfl⟩ := List.exists_cons_of_ne_nil hne
  have hplain := Name.isPlain_of_isLower hletters
  have hnumeric : ∀ c ∈ digits, Name.IsNormal c :=
    fun c hc => Name.isNormal_of_isPlain (Name.isPlain_of_isDigit hdigits c hc)
  rw [List.forall_mem_cons] at hletters hplain
  obtain ⟨hwithin, _, hlower, _⟩ := Name.plain_spec hplain.1
  obtain ⟨hcapital, _, hsmaller, hnotSmall, hnotDigit, _⟩ := Name.capital_spec hplain.1
  have hrest : ∀ c ∈ tail ++ digits, Name.IsNormal c := by
    simpa [or_imp, forall_and] using
      ⟨fun c hc => Name.isNormal_of_isPlain (hplain.2 c hc), hnumeric⟩
  cases style with
  | small =>
    change Name.splitWords (first :: (tail ++ digits ++ text)) = (first :: (tail ++ digits)) :: _
    rw [Name.splitWords_opened hwithin hlower, Name.splitFrom_rest hrest (by simp) htext]
    rfl
  | capitalized =>
    change Name.splitWords (first.toUpper :: (tail ++ digits ++ text)) = (first :: (tail ++ digits)) :: _
    rw [Name.splitWords_opened hcapital hsmaller, Name.splitFrom_rest hrest (by simp) htext]
    rfl
  | capitals =>
    have hbehind : (digits ++ text).head?.any Unicode.isLower = false := by
      cases digits with
      | cons digit digits => exact Name.isLower_of_isDigit (hdigits digit List.mem_cons_self)
      | nil =>
        cases text with
        | nil => rfl
        | cons c text => exact Name.isLower_of_isSeparator (htext c rfl)
    change Name.splitWords (first.toUpper :: (tail.map Char.toUpper ++ digits ++ text)) =
      (first :: (tail ++ digits)) :: _
    rw [Name.splitWords_opened hcapital hsmaller, List.append_assoc,
      Name.splitFrom_capitalLetters hletters.2
        ⟨hnotSmall, hnotDigit.trans (Name.not_isDigit_of_isLower hletters.1)⟩ hbehind,
      Name.splitFrom_rest hnumeric (by simp) htext]
    simp

end WrittenWord

namespace Spelling

/-- Written words are read as they are meant, with the separators behind them passed over. The induction is on the
words; only the last one may have no separator behind it, and then the text ends there. -/
theorem splitWords_written {writtenWords : List WrittenWord}
    (hapart : ∀ written ∈ writtenWords.dropLast, written.gap ≠ []) :
    Name.splitWords (writtenWords.flatMap fun written => written.text ++ written.gap) =
      writtenWords.map WrittenWord.word := by
  induction writtenWords with
  | nil => rfl
  | cons written rest ih =>
    have hbehind : ∀ c ∈ (written.gap ++ rest.flatMap fun written => written.text ++ written.gap).head?,
        Name.isSeparator c = true := by
      cases hgap : written.gap with
      | cons c gap => simpa using written.separates c (hgap ▸ List.mem_cons_self)
      | nil =>
        cases rest with
        | nil => simp
        | cons next rest => exact absurd hgap (hapart written List.mem_cons_self)
    have hrest : ∀ written ∈ rest.dropLast, written.gap ≠ [] := by
      cases rest with
      | nil => simp
      | cons next rest => exact fun other hother => hapart other (List.mem_cons_of_mem _ hother)
    rw [List.flatMap_cons, List.append_assoc, written.splitWords_append hbehind,
      Name.splitWords_separators written.separates, ih hrest, List.map_cons]

end Spelling

/-- A reserved strategy is that of the methods whose name is its word. -/
theorem Strategy.ofName_eq_iff {name : Name} {strategy : Strategy} (hreserved : strategy ≠ .action) :
    ofName name = strategy ↔ name.words = [strategy.word] := by
  constructor
  · rintro rfl
    unfold ofName at hreserved ⊢
    split at hreserved
    case h_6 => exact absurd rfl hreserved
    all_goals assumption
  · intro hwords
    unfold ofName
    rw [hwords]
    cases strategy with
    | action => exact absurd rfl hreserved
    | _ => rfl

/-- A spelling means its words, and no other words are spelled by the same text. A method that is spelled so has a
reserved strategy exactly if the words are its one word, and else is an action. -/
theorem parse_spelling (spelling : Spelling) :
    Name.parse spelling.text = ⟨spelling.words⟩ ∧
    (∀ other : Spelling,
      Name.parse spelling.text = Name.parse other.text ↔ spelling.words = other.words) ∧
    ∀ method : Method, method.name = Name.parse spelling.text →
      (∀ strategy : Strategy, strategy ≠ .action →
        (method.strategy = strategy ↔ spelling.words = [strategy.word])) ∧
      (method.strategy = .action ↔
        ∀ strategy : Strategy, strategy ≠ .action → spelling.words ≠ [strategy.word]) := by
  have hparse (spelling : Spelling) : Name.parse spelling.text = ⟨spelling.words⟩ := by
    rw [Name.parse, Spelling.text, String.toList_ofList, Name.splitWords_separators spelling.separates,
      Spelling.splitWords_written spelling.apart, List.map_map]
    rfl
  refine ⟨hparse spelling, fun other => ?_, fun method hname => ?_⟩
  · rw [hparse, hparse, Name.mk.injEq]
  · have hreserved (strategy : Strategy) (hne : strategy ≠ .action) :
        method.strategy = strategy ↔ spelling.words = [strategy.word] := by
      rw [Method.strategy, Strategy.ofName_eq_iff hne, hname, hparse]
    refine ⟨hreserved, fun haction strategy hne hwords => ?_, fun hother => ?_⟩
    · exact hne (((hreserved strategy hne).mpr hwords).symm.trans haction)
    · by_contra hne
      exact hother _ hne ((hreserved _ hne).mp rfl)

/-- Two words in different styles, with separators around them. -/
def shoutedSpelling : Spelling where
  lead := ['\t', '_']
  writtenWords := [
    { letters := ['a', 'd', 'd'], digits := [], style := .capitals, gap := ['-', ' '],
      nonempty := by decide
      small := List.all_eq_true.mp (by decide)
      numeric := List.all_eq_true.mp (by decide)
      separates := List.all_eq_true.mp (by decide) },
    { letters := ['n', 'i', 'c'], digits := ['2'], style := .capitalized, gap := ['\n'],
      nonempty := by decide
      small := List.all_eq_true.mp (by decide)
      numeric := List.all_eq_true.mp (by decide)
      separates := List.all_eq_true.mp (by decide) }]
  separates := List.all_eq_true.mp (by decide)
  apart := by decide

/-- The first of these words by itself, with nothing around it. -/
def reservedSpelling : Spelling where
  lead := []
  writtenWords := [
    { letters := ['a', 'd', 'd'], digits := [], style := .capitalized, gap := [],
      nonempty := by decide
      small := List.all_eq_true.mp (by decide)
      numeric := List.all_eq_true.mp (by decide)
      separates := List.all_eq_true.mp (by decide) }]
  separates := List.all_eq_true.mp (by decide)
  apart := by decide

/-- A method with a name and nothing else. -/
def namedMethod (name : Name) : Method := ⟨name, [], none⟩

/-- The reserved word by itself makes a method add; with another word behind it, the method is an action. -/
theorem shoutedSpelling_parse :
    shoutedSpelling.text = "\t_ADD- Nic2\n" ∧ reservedSpelling.text = "Add" ∧
    Name.parse shoutedSpelling.text = ⟨["add", "nic2"]⟩ ∧
    Name.parse shoutedSpelling.text ≠ Name.parse reservedSpelling.text ∧
    (namedMethod ⟨["add", "nic2"]⟩).strategy = .action ∧ (namedMethod ⟨["add"]⟩).strategy = .add := by
  obtain ⟨hshouted, hsame, haction⟩ := parse_spelling shoutedSpelling
  obtain ⟨hreserved, _, hadd⟩ := parse_spelling reservedSpelling
  have hwords : shoutedSpelling.words = ["add", "nic2"] := by decide
  have hword : reservedSpelling.words = ["add"] := by decide
  rw [hwords] at hshouted haction
  rw [hword] at hreserved hadd
  refine ⟨by decide, by decide, hshouted, ?_, ?_, ?_⟩
  · rw [ne_eq, hsame, hwords, hword]
    decide
  · refine (haction (namedMethod ⟨["add", "nic2"]⟩) hshouted.symm).2.mpr ?_
    intro strategy _ hreserved
    simp at hreserved
  · exact ((hadd (namedMethod ⟨["add"]⟩) hreserved.symm).1 .add (by decide)).mpr rfl

end ServiceTree
