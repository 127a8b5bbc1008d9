import ServiceTree.Toml.Quoted
import Mathlib.Data.List.Basic

/-!
# Texts between double quotes

A text without backslashes between double quotes is read back iff it holds no double quote and no control character
but tabs. This needs little room behind it: a text that begins with two double quotes opens a text on several lines,
which could end far behind it.
-/

namespace ServiceTree.Toml

/-! ## Texts between double quotes -/

/-- Whether a character can stand for itself between double quotes. -/
def isQuotable (c : Char) : Bool := c != '"' && c != '\\' && !isControl c

section Texts

variable {value read rest behind input : List Char} {fuel : Nat} {c : Char}

/-- A text of characters that can stand for themselves is read up to its closing quote, whatever stands behind it. -/
theorem basic?_written (hvalue : ∀ c ∈ value, isQuotable c) (hfuel : value.length < fuel) :
    basic? fuel (value ++ '"' :: rest) = some (value, rest) := by
  induction value generalizing fuel with
  | nil =>
    obtain _ | fuel := fuel
    · exact absurd hfuel (Nat.not_lt_zero _)
    · simp [basic?]
  | cons c value ih =>
    obtain _ | fuel := fuel
    · exact absurd hfuel (Nat.not_lt_zero _)
    · obtain ⟨hc, hvalue⟩ := List.forall_mem_cons.mp hvalue
      simp only [isQuotable, Bool.and_eq_true, bne_iff_ne, ne_eq, Bool.not_eq_true'] at hc
      simp [basic?, hc, ih hvalue (Nat.lt_of_succ_lt_succ hfuel), push]

/-- A text that is read just as it is written has no character that would have ended it or barred it. -/
theorem isQuotable_of_basic? (hslash : '\\' ∉ value)
    (hread : basic? fuel (value ++ '"' :: rest) = some (value, behind)) :
    ∀ c ∈ value, isQuotable c := by
  induction value generalizing fuel with
  | nil => simp
  | cons c value ih =>
    obtain ⟨hc, hslash⟩ : c ≠ '\\' ∧ '\\' ∉ value := by simpa [eq_comm] using hslash
    obtain _ | fuel := fuel
    · simp [basic?] at hread
    · simp only [basic?, List.cons_append] at hread
      split_ifs at hread with hquote hback hcontrol
      · simp at hread
      · simp_all
      · simp only [push, Option.map_eq_some_iff, Prod.mk.injEq, List.cons.injEq] at hread
        obtain ⟨⟨read, behind⟩, hread, ⟨-, rfl⟩, rfl⟩ := hread
        refine List.forall_mem_cons.mpr ⟨?_, ih hslash hread⟩
        simp_all [isQuotable]

/-! ### Texts on several lines -/

/-- Closing quotes take three characters, besides those that belong to the text. -/
theorem length_closing? (hread : closing? '"' input = some (read, behind)) :
    read.length + 3 + behind.length ≤ input.length := by
  have hkept := (List.takeWhile_sublist (l := input) (· == '"')).length_le
  simp only [closing?] at hread
  split_ifs at hread with hfew
  cases hread
  simp only [List.length_replicate, List.length_drop]
  omega

/-- The end of a line takes a character. -/
theorem length_newLine? (hread : newLine? input = some behind) : behind.length < input.length := by
  unfold newLine? at hread
  split at hread <;> cases hread
  · exact Nat.lt_succ_self _
  · exact Nat.lt_add_of_pos_right Nat.two_pos

/-- A folded line takes the end of the line at least. -/
theorem length_folded? (hread : folded? input = some behind) : behind.length < input.length := by
  have hblanks := (List.dropWhile_sublist (l := input) isBlank).length_le
  simp only [folded?] at hread
  split at hread
  next lines hline =>
    cases hread
    have hline := length_newLine? hline
    have hlines := (List.dropWhile_sublist (l := lines) fun c => isBlank c || c == '\r' || c == '\n').length_le
    omega
  next => cases hread

/-- An escape takes a character behind its backslash. -/
theorem length_escape? (hread : escape? input = some (c, behind)) : behind.length < input.length := by
  have hnumbered (count : Nat) (rest : List Char) (hread : numbered? count rest = some (c, behind)) :
      behind.length ≤ rest.length := by
    simp only [numbered?] at hread
    split at hread
    next =>
      split_ifs at hread
      cases hread
      simp
    next => cases hread
  fun_cases escape? input with
  | case1 => simp [escape?] at hread
  | case2 c rest hshort =>
    rw [escape?, if_pos hshort] at hread
    exact Nat.lt_succ_of_le (hnumbered 4 rest hread)
  | case3 c rest hshort hlong =>
    rw [escape?, if_neg hshort, if_pos hlong] at hread
    exact Nat.lt_succ_of_le (hnumbered 8 rest hread)
  | case4 c rest hshort hlong =>
    rw [escape?, if_neg hshort, if_neg hlong] at hread
    simp only [Option.map_eq_some_iff, Prod.mk.injEq] at hread
    obtain ⟨_, _, _, rfl⟩ := hread
    simp

/-- A text on several lines is shorter than what writes it, by its closing quotes at least. -/
theorem length_longBasic? (hread : longBasic? fuel input = some (read, behind)) :
    read.length + 3 ≤ input.length := by
  induction fuel generalizing input read behind with
  | zero => simp [longBasic?] at hread
  | succ fuel ih =>
    have hpush {c : Char} {rest : List Char} (hread : push c (longBasic? fuel rest) = some (read, behind)) :
        read.length + 2 ≤ rest.length := by
      simp only [push, Option.map_eq_some_iff, Prod.mk.injEq] at hread
      obtain ⟨⟨tail, _⟩, htail, rfl, rfl⟩ := hread
      simpa using ih htail
    cases input with
    | nil => simp [longBasic?] at hread
    | cons c rest =>
      simp only [longBasic?] at hread
      split at hread
      next closed hclosed =>
        cases hread
        have := length_closing? hclosed
        omega
      next =>
        split_ifs at hread
        · split at hread
          next lines hfolded =>
            have := length_folded? hfolded
            have := ih hread
            simp only [List.length_cons]
            omega
          next =>
            split at hread
            next meant escaped hescaped =>
              have := length_escape? hescaped
              have := hpush hread
              simp only [List.length_cons]
              omega
            next => cases hread
        · have := hpush hread
          simp only [List.length_cons]
          omega

/-! ### Either way of writing -/

/-- A text is written on one line unless two more double quotes follow the first. -/
theorem text?_eq_basic? (hone : ∀ rest, input ≠ '"' :: '"' :: rest) :
    text? ('"' :: input) = basic? input.length input := by
  unfold text?
  split
  next rest heq => exact absurd (List.cons.inj heq).2 (hone rest)
  next rest heq => simp at heq
  next => rfl

/-- A text between double quotes is read back, unless another double quote follows it. -/
theorem text?_written (hvalue : ∀ c ∈ value, isQuotable c) (hrest : rest.head? ≠ some '"') :
    text? ('"' :: (value ++ '"' :: rest)) = some (value, rest) := by
  rw [text?_eq_basic?, basic?_written hvalue (by simp)]
  intro lines heq
  cases value with
  | nil => simp_all
  | cons c value => simp_all [isQuotable]

/-- A text that cannot stand between double quotes as it is, is not read back near the end of a document: three quotes
at its beginning open a text on several lines, for which there is no room. -/
theorem text?_ne_written (hslash : '\\' ∉ value) (hvalue : ¬ ∀ c ∈ value, isQuotable c)
    (hrest : rest.length ≤ 3) (hread : text? ('"' :: (value ++ '"' :: rest)) = some (read, behind)) :
    read ≠ value := by
  rintro rfl
  by_cases hone : ∀ lines, read ++ '"' :: rest ≠ '"' :: '"' :: lines
  · rw [text?_eq_basic? hone] at hread
    exact hvalue (isQuotable_of_basic? hslash hread)
  · push Not at hone
    obtain ⟨lines, hlines⟩ := hone
    rw [hlines, text?] at hread
    have hread := length_longBasic? hread
    have hopened : (opened lines).length ≤ lines.length := by
      cases hline : newLine? lines with
      | none => simp [opened, hline]
      | some behind => simpa [opened, hline] using Nat.le_of_lt (length_newLine? hline)
    have := congrArg List.length hlines
    simp only [List.length_append, List.length_cons] at this
    omega

end Texts

end ServiceTree.Toml
