import Mathlib.Data.List.Basic
import ServiceTree.Name.Spelling

/-!
# Parsed names

The words of a parsed name are not empty and have no underscore in them, for the underscore separates and
no other character has it in its small form. So the words are found again in the identifier, between its
underscores, and names of one identifier, one tag or one accessor are the same.
-/

namespace ServiceTree

/-! ## Small forms -/

namespace Unicode

/-- A shifted character is no underscore if every run of the shifts is moved to places behind it. -/
theorem shifted_ne_underscore {shifts : List Shift} {c partner : Char}
    (hbehind : ∀ shift ∈ shifts, ('_'.toNat : Int) < shift.run.first + shift.distance)
    (h : shifted shifts c = some partner) : partner ≠ '_' := by
  obtain ⟨shift, hfound, rfl⟩ := Option.map_eq_some_iff.mp h
  have hmoved := hbehind shift (List.mem_of_find?_eq_some hfound)
  have hfirst : shift.run.first ≤ c.toNat := by
    have hcontains := List.find?_some hfound
    rw [Run.contains, Bool.and_eq_true, Bool.and_eq_true] at hcontains
    exact of_decide_eq_true hcontains.1.1
  intro hpartner
  by_cases hvalid : ((c.toNat : Int) + shift.distance).toNat.isValidChar
  · rw [Char.ofNat, dif_pos hvalid] at hpartner
    have hcode : ((c.toNat : Int) + shift.distance).toNat = '_'.toNat := congrArg Char.toNat hpartner
    omega
  · -- a place without a character is taken by the null character
    rw [Char.ofNat, dif_neg hvalid] at hpartner
    cases hpartner

/-- No other character has an underscore in its small form. -/
theorem underscore_not_mem_lower {c : Char} (hc : c ≠ '_') : '_' ∉ lower c := by
  cases hascii : isAscii c with
  | true =>
    revert hc
    exact ascii_induction (by decide) hascii
  | false =>
    have hexpansions : ∀ expansion ∈ lowerExpansions, '_' ∉ expansion.2.map Char.ofNat := by decide
    have hshifts : ∀ shift ∈ lowerShifts, ('_'.toNat : Int) < shift.run.first + shift.distance := by
      decide +kernel
    rw [lower, hascii, if_neg Bool.false_ne_true]
    split
    case h_1 form hform =>
      obtain ⟨codes, hcodes, rfl⟩ := Option.map_eq_some_iff.mp hform
      obtain ⟨before, after, hlisted, _⟩ := List.lookup_eq_some_iff.mp hcodes
      have hmem : (c.toNat, codes) ∈ lowerExpansions := by
        rw [hlisted]
        exact List.mem_append_right _ List.mem_cons_self
      exact hexpansions _ hmem
    case h_2 =>
      rw [List.mem_singleton, eq_comm]
      cases hshifted : shifted lowerShifts c with
      | none => exact hc
      | some partner => exact shifted_ne_underscore hshifts hshifted

end Unicode

namespace Name

/-! ## Words -/

/-- The words of a spelling are not empty, and what holds of the small forms of its characters within words
holds of all their letters. -/
theorem splitFrom_words (holds : Char → Prop) {previous : Char} {reversed text : List Char}
    (hopen : ∀ d ∈ reversed, holds d)
    (hsmall : ∀ c ∈ text, isSeparator c = false → ∀ d ∈ Unicode.lower c, holds d) :
    ∀ word ∈ splitFrom previous reversed text, word ≠ [] ∧ ∀ d ∈ word, holds d := by
  have hflush {reversed : List Char} (hopen : ∀ d ∈ reversed, holds d) :
      ∀ word ∈ flush reversed, word ≠ [] ∧ ∀ d ∈ word, holds d := by
    intro word hword
    rw [flush] at hword
    split at hword
    · cases hword
    · rw [List.mem_singleton.mp hword]
      simp_all
  induction text generalizing previous reversed with
  | nil => exact hflush hopen
  | cons c text ih =>
    rw [List.forall_mem_cons] at hsmall
    intro word hword
    rw [splitFrom] at hword
    split at hword
    case isTrue =>
      rcases List.mem_append.mp hword with hword | hword
      · exact hflush hopen word hword
      · exact ih (by simp) hsmall.2 word hword
    case isFalse hwithin =>
      have hletters := hsmall.1 (Bool.not_eq_true _ ▸ hwithin)
      split at hword
      case isTrue hbegins =>
        rcases List.mem_cons.mp hword with rfl | hword
        · simp_all
        · exact ih (by simpa using hletters) hsmall.2 word hword
      case isFalse =>
        refine ih (fun d hd => ?_) hsmall.2 word hword
        rcases List.mem_append.mp hd with hd | hd
        · exact hletters d (List.mem_reverse.mp hd)
        · exact hopen d hd

/-- Whether a name is what some spelling means. -/
def IsParsed (name : Name) : Prop := ∃ spelling, parse spelling = name

/-- The words of a parsed name are not empty and have no underscore in them. -/
theorem IsParsed.words {name : Name} (h : name.IsParsed) :
    ∀ word ∈ name.words.map String.toList, word ≠ [] ∧ '_' ∉ word := by
  obtain ⟨spelling, rfl⟩ := h
  have hsmall : ∀ c ∈ spelling.toList, isSeparator c = false → ∀ d ∈ Unicode.lower c, d ≠ '_' := by
    intro c _ hwithin d hd hunderscore
    have hc : c ≠ '_' := by
      rintro rfl
      cases hwithin
    exact Unicode.underscore_not_mem_lower hc (hunderscore ▸ hd)
  intro word hword
  have hsplit : word ∈ splitWords spelling.toList := by simpa [parse] using hword
  obtain ⟨hne, hletters⟩ := splitFrom_words (· ≠ '_') (by simp) hsmall word hsplit
  exact ⟨hne, fun hmem => hletters '_' hmem rfl⟩

/-! ## Identifiers -/

/-- The identifier of a name has underscores between its words. -/
theorem identifier_toList (name : Name) :
    name.identifier.toList = ['_'].intercalate (name.words.map String.toList) := by
  rw [identifier, join, String.toList_intercalate]
  rfl

/-- The words of a parsed name are the pieces of its identifier. -/
theorem IsParsed.pieces {name : Name} (h : name.IsParsed) :
    (name.identifier.toList.splitOn '_').filter (!·.isEmpty) = name.words.map String.toList := by
  rw [identifier_toList]
  by_cases hnone : name.words.map String.toList = []
  · rw [hnone]
    rfl
  · rw [List.splitOn_intercalate '_' (fun word hword => (h.words word hword).2) hnone,
      List.filter_eq_self]
    simpa using fun word hword => (h.words word hword).1

/-- Parsed names of one identifier are the same. -/
theorem IsParsed.identifier_inj {a b : Name} (ha : a.IsParsed) (hb : b.IsParsed) :
    a.identifier = b.identifier ↔ a = b := by
  refine ⟨fun h => ?_, congrArg identifier⟩
  have hpieces := ha.pieces
  rw [h, hb.pieces] at hpieces
  obtain ⟨words⟩ := a
  obtain ⟨others⟩ := b
  exact congrArg Name.mk ((List.map_inj_right fun _ _ => String.toList_inj.mp).mp hpieces.symm)

/-- Parsed names of one accessor are the same. -/
theorem IsParsed.accessor_inj {a b : Name} (ha : a.IsParsed) (hb : b.IsParsed) :
    a.accessor = b.accessor ↔ a = b := by
  rw [accessor, accessor, String.append_left_inj, ha.identifier_inj hb]

/-- Words with an underscore between them end in the last letter of a word, if none of them is empty. -/
theorem getLast_intercalate {words : List (List Char)} (hne : ∀ word ∈ words, word ≠ []) :
    ∀ c ∈ (['_'].intercalate words).getLast?, ∃ word ∈ words, c ∈ word := by
  induction words with
  | nil => simp
  | cons word rest ih =>
    rw [List.forall_mem_cons] at hne
    cases rest with
    | nil =>
      intro c hc
      rw [List.intercalate_singleton] at hc
      exact ⟨word, List.mem_cons_self, List.mem_of_getLast? hc⟩
    | cons next rest =>
      intro c hc
      obtain ⟨first, tail, rfl⟩ := List.exists_cons_of_ne_nil (hne.2 next List.mem_cons_self)
      rw [List.intercalate_cons_cons, List.intercalate_cons_cons_left, List.getLast?_append_cons,
        ← List.intercalate_cons_cons_left] at hc
      obtain ⟨other, hother, hmem⟩ := ih hne.2 c hc
      exact ⟨other, List.mem_cons_of_mem _ hother, hmem⟩

/-- The identifier of a parsed name does not end in an underscore. -/
theorem IsParsed.getLast_identifier {name : Name} (h : name.IsParsed) :
    name.identifier.toList.getLast? ≠ some '_' := by
  intro hlast
  rw [identifier_toList] at hlast
  obtain ⟨word, hword, hmem⟩ := getLast_intercalate (fun word hword => (h.words word hword).1) _ hlast
  exact (h.words word hword).2 hmem

end Name

end ServiceTree
