import ServiceTree.Proofs.ParsedNames
import ServiceTree.Proofs.Spellings

/-!
# Normal forms of names

Reading a spelling neither loses nor adds a character: run together, the words are the small forms of all that
stands between its separators. What is read of a spelling in ASCII is a normal form, for each of its characters is
read as itself. So its words may be written with any separator between them, and the name is read again.
-/

namespace ServiceTree.Name

variable {letters text : List Char} {words : List (List Char)}

/-! ## Words of normal characters -/

/-- A word of characters that are read as themselves is read as itself where a separator or the end of the text
stands behind it. -/
theorem splitWords_normal (hne : letters ≠ []) (hletters : ∀ c ∈ letters, IsNormal c)
    (htext : ∀ c ∈ text.head?, isSeparator c = true) :
    splitWords (letters ++ text) = letters :: splitWords text := by
  obtain ⟨first, tail, rfl⟩ := List.exists_cons_of_ne_nil hne
  rw [List.forall_mem_cons] at hletters
  rw [List.cons_append, splitWords_opened hletters.1.within hletters.1.small,
    splitFrom_rest hletters.2 (List.cons_ne_nil _ _) htext]
  rfl

/-- Words of characters that are read as themselves are found again between separators. -/
theorem splitWords_intercalate {separator : Char} (hseparator : isSeparator separator = true)
    (hwords : ∀ word ∈ words, word ≠ [] ∧ ∀ c ∈ word, IsNormal c) :
    splitWords ([separator].intercalate words) = words := by
  induction words with
  | nil => rfl
  | cons word rest ih =>
    rw [List.forall_mem_cons] at hwords
    obtain ⟨⟨hne, hword⟩, hrest⟩ := hwords
    cases rest with
    | nil =>
      have hread : splitWords (word ++ []) = word :: splitWords [] := splitWords_normal hne hword (by simp)
      rw [List.append_nil] at hread
      rw [List.intercalate_singleton, hread]
      rfl
    | cons next rest =>
      rw [List.intercalate_cons_cons, List.append_assoc,
        splitWords_normal hne hword (by simpa using hseparator),
        splitWords_separators (by simpa using hseparator), ih hrest]

/-- A name whose words are made of characters that are read as themselves is read again from its words with a
separator between them. -/
theorem parse_join {name : Name} (separator : Char) (hseparator : isSeparator separator = true)
    (hwords : ∀ word ∈ name.words.map String.toList, word ≠ [] ∧ ∀ c ∈ word, IsNormal c) :
    parse (name.join (String.singleton separator)) = name := by
  obtain ⟨words⟩ := name
  rw [parse, join, String.toList_intercalate, String.toList_singleton,
    splitWords_intercalate hseparator hwords, List.map_map]
  simp

/-! ## What a spelling is made of -/

/-- Run together, the words of a spelling are the letters of the open word and the small forms of all characters
that are no separators. The induction is on the spelling. -/
theorem flatten_splitFrom (previous : Char) (reversed text : List Char) :
    (splitFrom previous reversed text).flatten =
      reversed.reverse ++ (text.filter fun c => !isSeparator c).flatMap Unicode.lower := by
  have hflush (reversed : List Char) : (flush reversed).flatten = reversed.reverse := by
    cases reversed <;> simp [flush]
  induction text generalizing previous reversed with
  | nil => simpa [splitFrom] using hflush reversed
  | cons c text ih =>
    rw [splitFrom]
    split
    case isTrue hseparator => simp [hflush, ih, hseparator]
    case isFalse hwithin =>
      split
      · simp [ih, hwithin]
      · simp [ih, hwithin]

/-- The small form of a character of ASCII lies in ASCII, and it is a separator exactly if the character is one. Else
it is read as itself. -/
theorem toLower_spec {c : Char} (hascii : Unicode.isAscii c = true) :
    Unicode.lower c = [c.toLower] ∧ Unicode.isAscii c.toLower = true ∧
      isSeparator c.toLower = isSeparator c ∧ (isSeparator c = false → IsNormal c.toLower) := by
  have hcode : Unicode.isAscii c.toLower = true ∧ isSeparator c.toLower = isSeparator c ∧
      Unicode.isUpper c.toLower = false ∧ Unicode.lower c.toLower = [c.toLower] :=
    Unicode.ascii_induction (by decide) hascii
  obtain ⟨hsmall, hseparator, hcapital, hlower⟩ := hcode
  exact ⟨if_pos hascii, hsmall, hseparator, fun hwithin => ⟨hseparator.trans hwithin, hcapital, hlower⟩⟩

/-- The small form of a text in ASCII is made of the small forms of its characters. -/
theorem lowerText_of_ascii {spelling : String} (hascii : ∀ c ∈ spelling.toList, Unicode.isAscii c = true) :
    Unicode.lowerText spelling = String.ofList (spelling.toList.map Char.toLower) := by
  have hfrom (before text : List Char) (htext : ∀ c ∈ text, Unicode.isAscii c = true) :
      Unicode.lowerTextFrom before text = text.map Char.toLower := by
    induction text generalizing before with
    | nil => rfl
    | cons c text ih =>
      rw [List.forall_mem_cons] at htext
      have hsigma : (c == 'Σ') = false := by
        rw [beq_eq_false_iff_ne]
        rintro rfl
        exact absurd htext.1 (by decide)
      rw [Unicode.lowerTextFrom, hsigma, if_neg Bool.false_ne_true, (toLower_spec htext.1).1, ih _ htext.2]
      rfl
  rw [Unicode.lowerText, hfrom [] _ hascii]

/-- The words of a spelling in ASCII are not empty, and their characters lie in ASCII and are read as themselves. -/
theorem words_of_ascii {spelling : String} (hascii : ∀ c ∈ spelling.toList, Unicode.isAscii c = true) :
    ∀ word ∈ (parse spelling).words.map String.toList, word ≠ [] ∧
      ∀ c ∈ word, Unicode.isAscii c = true ∧ IsNormal c := by
  have hsmall : ∀ c ∈ spelling.toList, isSeparator c = false →
      ∀ d ∈ Unicode.lower c, Unicode.isAscii d = true ∧ IsNormal d := by
    intro c hc hwithin d hd
    obtain ⟨hlower, hsmall, _, hnormal⟩ := toLower_spec (hascii c hc)
    rw [hlower, List.mem_singleton] at hd
    subst hd
    exact ⟨hsmall, hnormal hwithin⟩
  intro word hword
  have hsplit : word ∈ splitWords spelling.toList := by simpa [parse] using hword
  exact splitFrom_words _ (by simp) hsmall word hsplit

/-- The words of a spelling in ASCII, run together, are its small form without the separators. -/
theorem join_words_of_ascii {spelling : String} (hascii : ∀ c ∈ spelling.toList, Unicode.isAscii c = true) :
    String.join (parse spelling).words =
      String.ofList ((Unicode.lowerText spelling).toList.filter fun c => !isSeparator c) := by
  have hsmall : ∀ c ∈ spelling.toList.filter fun c => !isSeparator c, Unicode.lower c = [c.toLower] :=
    fun c hc => (toLower_spec (hascii c (List.mem_of_mem_filter hc))).1
  have hkept : (spelling.toList.map Char.toLower).filter (fun c => !isSeparator c) =
      (spelling.toList.filter fun c => !isSeparator c).map Char.toLower := by
    rw [List.filter_map]
    congr 1
    refine List.filter_congr fun c hc => ?_
    rw [Function.comp_apply, (toLower_spec (hascii c hc)).2.2.1]
  have hwords : (String.join (parse spelling).words).toList = (splitWords spelling.toList).flatten := by
    simp [parse, String.toList_join, List.flatMap_map]
  rw [← String.toList_inj, hwords, splitWords, flatten_splitFrom, List.reverse_nil, List.nil_append,
    List.flatMap_congr hsmall, lowerText_of_ascii hascii, String.toList_ofList, String.toList_ofList, hkept,
    List.map_eq_flatMap]

/-- What is read of a spelling in ASCII is a normal form: its words are not empty, in lower case and without
separators, and its identifier, tag and accessor are those of no other name. -/
theorem parse_normal {spelling : String} (hascii : ∀ c ∈ spelling.toList, Unicode.isAscii c = true) :
    (∀ word ∈ (parse spelling).words, word ≠ "" ∧ Unicode.lowerText word = word ∧
      ∀ c ∈ word.toList, Unicode.isUpper c = false ∧ isSeparator c = false) ∧
    (parse (parse spelling).identifier = parse spelling ∧
      parse ((parse spelling).join "-") = parse spelling ∧
      parse ((parse spelling).join " ") = parse spelling) ∧
    String.join (parse spelling).words =
      String.ofList ((Unicode.lowerText spelling).toList.filter fun c => !isSeparator c) ∧
    ∀ other : String,
      ((parse spelling).identifier = (parse other).identifier ↔ parse spelling = parse other) ∧
      ((parse spelling).tag = (parse other).tag ↔ parse spelling = parse other) ∧
      ((parse spelling).accessor = (parse other).accessor ↔ parse spelling = parse other) := by
  have hwords := words_of_ascii hascii
  have hnormal : ∀ word ∈ (parse spelling).words.map String.toList, word ≠ [] ∧ ∀ c ∈ word, IsNormal c :=
    fun word hword => ⟨(hwords word hword).1, fun c hc => ((hwords word hword).2 c hc).2⟩
  refine ⟨fun word hword => ?_, ⟨?_, ?_, ?_⟩, join_words_of_ascii hascii, fun other => ?_⟩
  · obtain ⟨hne, hletters⟩ := hwords word.toList (List.mem_map_of_mem hword)
    refine ⟨?_, ?_, fun c hc => ⟨(hletters c hc).2.notCapital, (hletters c hc).2.within⟩⟩
    · rintro rfl
      exact hne rfl
    · have hsame : word.toList.map Char.toLower = word.toList := by
        refine (List.map_congr_left fun c hc => ?_).trans (List.map_id _)
        have hlower := (toLower_spec (hletters c hc).1).1
        rwa [(hletters c hc).2.small, List.singleton_inj, eq_comm] at hlower
      rw [lowerText_of_ascii fun c hc => (hletters c hc).1, hsame, String.ofList_toList]
  · exact parse_join '_' rfl hnormal
  · exact parse_join '-' rfl hnormal
  · exact parse_join ' ' rfl hnormal
  · have hparsed : (parse spelling).IsParsed := ⟨spelling, rfl⟩
    have hother : (parse other).IsParsed := ⟨other, rfl⟩
    exact ⟨hparsed.identifier_inj hother, hparsed.identifier_inj hother, hparsed.accessor_inj hother⟩

/-- A spelling with an acronym, digits, a dot and separators of all kinds is read again from its identifier, and
nothing of it is lost. -/
theorem parse_normal_of_noisy :
    (∀ c ∈ "\t_HTTPServer--v2.1 aB ".toList, Unicode.isAscii c = true) ∧
      (parse "\t_HTTPServer--v2.1 aB ").words = ["http", "server", "v2.1", "a", "b"] ∧
      parse (parse "\t_HTTPServer--v2.1 aB ").identifier = parse "\t_HTTPServer--v2.1 aB " ∧
      String.join (parse "\t_HTTPServer--v2.1 aB ").words = "httpserverv2.1ab" := by
  have hascii : ∀ c ∈ "\t_HTTPServer--v2.1 aB ".toList, Unicode.isAscii c = true :=
    List.all_eq_true.mp (by decide)
  refine ⟨hascii, by decide, (parse_normal hascii).2.1.1, (parse_normal hascii).2.2.1.trans ?_⟩
  decide

end ServiceTree.Name
