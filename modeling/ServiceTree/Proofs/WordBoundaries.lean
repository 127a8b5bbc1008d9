import Mathlib.Data.List.Chain
import ServiceTree.Name.Spelling
import ServiceTree.Proofs.TypeNames

/-!
# Boundaries between words run together

The camel case of a name has nothing between its words but their capitals. Reading it finds a boundary
again exactly if the word behind it begins with a letter and something tells its capital from those of an
acronym: a small letter or a digit in front of the capital, or a small letter behind it. So the reader
gives back the words in groups, run together where a boundary does not show, and the name comes back
exactly if every boundary shows.
-/

namespace ServiceTree.Name

/-! ## Words and groups of words -/

/-- Whether a character is a small letter or a digit of ASCII. -/
def isPlain (c : Char) : Bool := c.isLower || c.isDigit

/-- Whether a word is made of small letters and digits, and is not empty. -/
def isPlainWord (word : List Char) : Bool := !word.isEmpty && word.all isPlain

/-- Whether the boundary between two words shows in camel case: the second begins with a letter, and the
first has several characters or is a digit, or the second has a letter at its second place. -/
def showsBoundary (word next : List Char) : Bool :=
  (next[0]?).any Char.isLower &&
    (2 ≤ word.length || (word.length == 1 && word.all Char.isDigit) || (next[1]?).any Char.isLower)

/-- The groups in which words are read that are run together behind a word. The letters of the open group
are those of that word, with the words in front of it whose boundaries do not show. -/
def groups (word opened : List Char) : List (List Char) → List (List Char)
  | [] => [opened]
  | next :: rest =>
    if showsBoundary word next then opened :: groups next next rest
    else groups next (opened ++ next) rest

/-- There are at most as many groups as words, the open one included. -/
theorem length_groups (word opened : List Char) (words : List (List Char)) :
    (groups word opened words).length ≤ words.length + 1 := by
  induction words generalizing word opened with
  | nil => rfl
  | cons next rest ih =>
    rw [groups]
    split
    · exact Nat.succ_le_succ (ih next next)
    · exact (ih next (opened ++ next)).trans (Nat.le_succ _)

/-- The groups are the words exactly if every boundary shows. -/
theorem groups_eq_iff (word opened : List Char) (words : List (List Char)) :
    groups word opened words = opened :: words ↔
      (word :: words).IsChain fun word next => showsBoundary word next = true := by
  induction words generalizing word opened with
  | nil => simp [groups]
  | cons next rest ih =>
    rw [groups, List.isChain_cons_cons]
    split
    case isTrue hshows => rw [List.cons.injEq, eq_self, true_and, ih, and_iff_right hshows]
    case isFalse hhidden =>
      refine iff_of_false (fun heq => ?_) fun hchain => hhidden hchain.1
      -- the open group has taken the next word in, so that one group is missing
      have hlength := length_groups next (opened ++ next) rest
      rw [heq, List.length_cons, List.length_cons] at hlength
      omega

/-! ## Characters -/

/-- Plain characters lie in ASCII. -/
theorem isAscii_of_isPlain {c : Char} (h : isPlain c = true) : Unicode.isAscii c = true := by
  have halnum : ((c.isUpper || c.isLower) || c.isDigit) = true := by
    rw [isPlain] at h
    rw [Bool.or_assoc, h, Bool.or_true]
  exact Unicode.isAscii_of_isAlphanum halnum

/-- A plain character stands within a word, is not a capital and has no smaller form. -/
theorem plain_spec {c : Char} (h : isPlain c = true) :
    isSeparator c = false ∧ Unicode.isUpper c = false ∧ Unicode.lower c = [c] ∧
      Unicode.isLower c = c.isLower := by
  have hascii := isAscii_of_isPlain h
  revert h
  exact Unicode.ascii_induction (by decide) hascii

/-- The capital of a plain character stands within a word, is a capital if the character is a letter, and
has the character as its smaller form. -/
theorem capital_spec {c : Char} (h : isPlain c = true) :
    isSeparator c.toUpper = false ∧ Unicode.isUpper c.toUpper = c.isLower ∧
      Unicode.lower c.toUpper = [c] ∧ Unicode.isLower c.toUpper = false ∧ c.toUpper.isDigit = c.isDigit ∧
        Unicode.upper c = [c.toUpper] := by
  have hascii := isAscii_of_isPlain h
  revert h
  exact Unicode.ascii_induction (by decide) hascii

/-! ## Reading words run together -/

/-- The character that the capitalized form of a word ends in. -/
def lastOf (word : List Char) : Char := (Unicode.capitalize word).getLastD ' '

/-- A character that is read as itself: it stands within words, is no capital and has no smaller form. -/
structure IsNormal (c : Char) : Prop where
  within : isSeparator c = false
  notCapital : Unicode.isUpper c = false
  small : Unicode.lower c = [c]

/-- Plain characters are read as themselves. -/
theorem isNormal_of_isPlain {c : Char} (h : isPlain c = true) : IsNormal c :=
  ⟨(plain_spec h).1, (plain_spec h).2.1, (plain_spec h).2.2.1⟩

/-- Characters that are read as themselves are added to the open word. -/
theorem splitFrom_normal (previous : Char) (reversed : List Char) {tail : List Char}
    (htail : ∀ c ∈ tail, IsNormal c) (text : List Char) :
    splitFrom previous reversed (tail ++ text) =
      splitFrom (tail.getLastD previous) (tail.reverse ++ reversed) text := by
  induction tail generalizing previous reversed with
  | nil => rfl
  | cons c tail ih =>
    rw [List.forall_mem_cons] at htail
    obtain ⟨hword, hsmall, hlower⟩ := htail.1
    have hgoes : (!reversed.isEmpty && beginsWord previous c (tail ++ text).head?) = false := by
      rw [beginsWord, hsmall, Bool.false_and, Bool.and_false]
    rw [List.cons_append, splitFrom, hword, hgoes, hlower, if_neg Bool.false_ne_true,
      if_neg Bool.false_ne_true, ih c _ htail.2, List.getLastD_cons]
    simp

/-- Plain characters within a word are added to the open one. -/
theorem splitFrom_plain (previous : Char) (reversed : List Char) {tail : List Char}
    (htail : ∀ c ∈ tail, isPlain c = true) (text : List Char) :
    splitFrom previous reversed (tail ++ text) =
      splitFrom (tail.getLastD previous) (tail.reverse ++ reversed) text :=
  splitFrom_normal previous reversed (fun c hc => isNormal_of_isPlain (htail c hc)) text

/-- A plain word is a plain character with plain characters behind it. -/
theorem isPlainWord_iff {word : List Char} :
    isPlainWord word = true ↔ ∃ first tail, word = first :: tail ∧ isPlain first = true ∧
      ∀ c ∈ tail, isPlain c = true := by
  cases word <;> simp [isPlainWord]

/-- The capitalized form of a plain word has the capital of its first character in front. -/
theorem capitalize_cons {first : Char} (h : isPlain first = true) (tail : List Char) :
    Unicode.capitalize (first :: tail) = first.toUpper :: tail := by
  rw [Unicode.capitalize, (capital_spec h).2.2.2.2.2, List.singleton_append]

/-- Words run together do not begin with a small letter. -/
theorem head_capitals {words : List (List Char)} (hwords : ∀ word ∈ words, isPlainWord word = true) :
    (((words.map Unicode.capitalize).flatten).head?).any Unicode.isLower = false := by
  cases words with
  | nil => rfl
  | cons word rest =>
    obtain ⟨first, tail, rfl, hfirst, _⟩ := isPlainWord_iff.mp (hwords word List.mem_cons_self)
    rw [List.map_cons, List.flatten_cons, capitalize_cons hfirst]
    exact (capital_spec hfirst).2.2.2.1

/-- A plain word of several characters ends in a small letter or a digit also where it is capitalized, and
a word of one character ends in its capital. -/
theorem lastOf_cases {word : List Char} (h : isPlainWord word = true) :
    (2 ≤ word.length ∧ isPlain (lastOf word) = true) ∨
      ∃ only, word = [only] ∧ isPlain only = true ∧ lastOf word = only.toUpper := by
  obtain ⟨first, tail, rfl, hfirst, htail⟩ := isPlainWord_iff.mp h
  rw [lastOf, capitalize_cons hfirst]
  cases tail with
  | nil => exact .inr ⟨first, rfl, hfirst, rfl⟩
  | cons second rest =>
    refine .inl ⟨by simp, htail _ ?_⟩
    rw [List.getLastD_cons, List.getLastD_cons]
    exact List.getLastD_mem_cons

/-- The capital of a word begins a word exactly if the boundary in front of it shows. -/
theorem beginsWord_eq {word tail : List Char} {first : Char} (hword : isPlainWord word = true)
    (hfirst : isPlain first = true) (htail : ∀ c ∈ tail, isPlain c = true) {words : List (List Char)}
    (hwords : ∀ word ∈ words, isPlainWord word = true) :
    beginsWord (lastOf word) first.toUpper
        (tail ++ (words.map Unicode.capitalize).flatten).head? =
      showsBoundary word (first :: tail) := by
  obtain ⟨_, hupper, _⟩ := capital_spec hfirst
  have hbehind : ((tail ++ (words.map Unicode.capitalize).flatten).head?).any Unicode.isLower =
      (tail[0]?).any Char.isLower := by
    cases tail with
    | nil => exact head_capitals hwords
    | cons second rest => exact (plain_spec (htail second List.mem_cons_self)).2.2.2
  rw [beginsWord, showsBoundary, hupper, hbehind]
  change _ = (first.isLower && _)
  congr 1
  rcases lastOf_cases hword with ⟨hlong, hlast⟩ | ⟨only, rfl, honly, hlast⟩
  · have hshows : (Unicode.isLower (lastOf word) || (lastOf word).isDigit) = true := by
      rwa [(plain_spec hlast).2.2.2]
    rw [hshows, decide_eq_true hlong, Bool.true_or, Bool.true_or, Bool.true_or]
  · obtain ⟨_, hcapital, _, hsmall, hdigit, _⟩ := capital_spec honly
    rw [hlast, hsmall, hdigit, hcapital]
    rw [isPlain, Bool.or_eq_true] at honly
    rcases honly with hletter | honly
    · simp [hletter]
    · simp [honly]

/-- Behind an open word, words run together are read in their groups. The induction is on the words; the
reader comes to each of them with the character in mind that the word before it ends in. -/
theorem splitFrom_capitals {word : List Char} (hword : isPlainWord word = true) {reversed : List Char}
    (hopen : reversed ≠ []) {words : List (List Char)}
    (hwords : ∀ word ∈ words, isPlainWord word = true) :
    splitFrom (lastOf word) reversed (words.map Unicode.capitalize).flatten =
      groups word reversed.reverse words := by
  induction words generalizing word reversed with
  | nil =>
    change flush reversed = [reversed.reverse]
    rw [flush, if_neg (by simpa using hopen)]
  | cons next rest ih =>
    rw [List.forall_mem_cons] at hwords
    obtain ⟨hnext, hrest⟩ := hwords
    obtain ⟨first, tail, rfl, hfirst, htail⟩ := isPlainWord_iff.mp hnext
    obtain ⟨hwithin, _, hlower, _⟩ := capital_spec hfirst
    have hlast : tail.getLastD first.toUpper = lastOf (first :: tail) := by
      rw [lastOf, capitalize_cons hfirst, List.getLastD_cons]
    rw [List.map_cons, List.flatten_cons, capitalize_cons hfirst, List.cons_append, splitFrom, groups,
      hwithin, if_neg Bool.false_ne_true, beginsWord_eq hword hfirst htail hrest, hlower,
      splitFrom_plain _ _ htail, splitFrom_plain _ _ htail, hlast]
    cases hshows : showsBoundary word (first :: tail) with
    | true =>
      rw [if_pos (by simpa using hopen), if_pos rfl, ih hnext (by simp) hrest]
      simp
    | false =>
      rw [if_neg (by simp), if_neg Bool.false_ne_true, ih hnext (by simp) hrest]
      simp

/-- Plain words run together are read in their groups. -/
theorem splitWords_capitals {word : List Char} (hword : isPlainWord word = true)
    {words : List (List Char)} (hwords : ∀ word ∈ words, isPlainWord word = true) :
    splitWords ((word :: words).map Unicode.capitalize).flatten = groups word word words := by
  obtain ⟨first, tail, rfl, hfirst, htail⟩ := isPlainWord_iff.mp hword
  obtain ⟨hwithin, _, hlower, _⟩ := capital_spec hfirst
  have hlast : tail.getLastD first.toUpper = lastOf (first :: tail) := by
    rw [lastOf, capitalize_cons hfirst, List.getLastD_cons]
  rw [splitWords, List.map_cons, List.flatten_cons, capitalize_cons hfirst, List.cons_append, splitFrom,
    hwithin, if_neg Bool.false_ne_true, if_neg (by simp), hlower, splitFrom_plain _ _ htail, hlast,
    splitFrom_capitals hword (by simp) hwords]
  simp

/-- A name of plain words is read back from its camel case exactly if every boundary between its words
shows there. -/
theorem parse_camelCase_iff {name : Name}
    (hwords : ∀ word ∈ name.words, isPlainWord word.toList = true) :
    parse name.camelCase = name ↔
      name.words.IsChain fun word next => showsBoundary word.toList next.toList = true := by
  obtain ⟨words⟩ := name
  cases words with
  | nil => exact iff_of_true rfl .nil
  | cons word words =>
    rw [List.forall_mem_cons] at hwords
    have hplain : ∀ other ∈ words.map String.toList, isPlainWord other = true := by
      simpa using hwords.2
    have hread : splitWords (Name.camelCase ⟨word :: words⟩).toList =
        groups word.toList word.toList (words.map String.toList) := by
      rw [camelCase_toList, capitals, ← splitWords_capitals hwords.1 hplain, List.map_cons,
        List.map_cons, List.map_map]
      rfl
    have hself : word :: words = ((word :: words).map String.toList).map String.ofList := by simp
    rw [parse, hread, Name.mk.injEq, hself, List.map_inj_right fun _ _ => String.ofList_inj.mp,
      List.map_cons, groups_eq_iff, ← List.map_cons, List.isChain_map, ← hself]

/-- Words with a digit at their end or by themselves, and a single letter in front of a longer word, are
told apart in camel case; a word that begins with a digit is not. -/
theorem parse_camelCase_of_shown :
    (∀ word ∈ ["ipv6", "a", "box", "7", "q"], isPlainWord word.toList = true) ∧
      parse (Name.camelCase ⟨["ipv6", "a", "box", "7"]⟩) ≠ ⟨["ipv6", "a", "box", "7"]⟩ ∧
      parse (Name.camelCase ⟨["7", "q", "box", "ipv6", "a"]⟩) = ⟨["7", "q", "box", "ipv6", "a"]⟩ := by
  have hplain : ∀ word ∈ ["ipv6", "a", "box", "7", "q"], isPlainWord word.toList = true := by
    decide
  refine ⟨hplain, ?_, ?_⟩
  · rw [ne_eq, parse_camelCase_iff fun word hword => hplain word (by grind)]
    decide
  · rw [parse_camelCase_iff fun word hword => hplain word (by grind)]
    decide

end ServiceTree.Name
