import Mathlib.Data.List.TakeWhile
import ServiceTree.Text.Split

/-!
# Pieces between separators

The pieces of a text are what stands between its separators: none of them holds one, with separators
between them they are the text, and a separator parts the pieces in front of it from those behind it. A
text that is only cut once is cut at the first separator.
-/

namespace ServiceTree.Text

variable {isSeparator : Char → Bool}

/-- The pieces of two texts with a separator between them are those of both. -/
theorem piecesFrom_append {c : Char} (hc : isSeparator c = true) (reversed text rest : List Char) :
    piecesFrom isSeparator reversed (text ++ c :: rest) =
      piecesFrom isSeparator reversed text ++ pieces isSeparator rest := by
  induction text generalizing reversed with
  | nil => simp [piecesFrom, pieces, hc]
  | cons first text ih =>
    rw [List.cons_append, piecesFrom, piecesFrom]
    split
    · rw [ih, List.cons_append]
    · exact ih _

/-- A text without separators is one piece. -/
theorem piecesFrom_eq_singleton {text : List Char} (h : ∀ c ∈ text, isSeparator c = false)
    (reversed : List Char) : piecesFrom isSeparator reversed text = [reversed.reverse ++ text] := by
  induction text generalizing reversed with
  | nil => simp [piecesFrom]
  | cons c text ih =>
    rw [List.forall_mem_cons] at h
    rw [piecesFrom, if_neg (by simp [h.1]), ih h.2]
    simp

/-- The characters of a piece were read already, or are characters of the text and no separators. -/
theorem mem_of_mem_piecesFrom {reversed text piece : List Char}
    (hpiece : piece ∈ piecesFrom isSeparator reversed text) :
    ∀ c ∈ piece, c ∈ reversed ∨ c ∈ text ∧ isSeparator c = false := by
  induction text generalizing reversed with
  | nil =>
    rw [piecesFrom, List.mem_singleton] at hpiece
    subst hpiece
    simp
  | cons first text ih =>
    intro c hc
    rw [piecesFrom] at hpiece
    split at hpiece
    case isTrue =>
      rcases List.mem_cons.mp hpiece with rfl | hpiece
      · exact .inl (List.mem_reverse.mp hc)
      · rcases ih hpiece c hc with hnone | ⟨hmem, hplain⟩
        · cases hnone
        · exact .inr ⟨List.mem_cons_of_mem _ hmem, hplain⟩
    case isFalse hfirst =>
      rcases ih hpiece c hc with hmem | ⟨hmem, hplain⟩
      · rcases List.mem_cons.mp hmem with rfl | hmem
        · exact .inr ⟨List.mem_cons_self, Bool.eq_false_iff.mpr hfirst⟩
        · exact .inl hmem
      · exact .inr ⟨List.mem_cons_of_mem _ hmem, hplain⟩

/-- The characters of a piece are characters of the text and no separators. -/
theorem mem_of_mem_pieces {text piece : List Char} (hpiece : piece ∈ pieces isSeparator text) :
    ∀ c ∈ piece, c ∈ text ∧ isSeparator c = false :=
  fun c hc => (mem_of_mem_piecesFrom hpiece c hc).resolve_left List.not_mem_nil

/-- A text has pieces. -/
theorem piecesFrom_ne_nil (reversed text : List Char) : piecesFrom isSeparator reversed text ≠ [] := by
  induction text generalizing reversed with
  | nil => simp [piecesFrom]
  | cons c text ih =>
    rw [piecesFrom]
    split
    · exact List.cons_ne_nil _ _
    · exact ih _

/-- The pieces of a text with separators between them are the text. -/
theorem intercalate_piecesFrom (separator : Char) (reversed text : List Char) :
    List.intercalate [separator] (piecesFrom (· == separator) reversed text) =
      reversed.reverse ++ text := by
  induction text generalizing reversed with
  | nil => simp [piecesFrom]
  | cons c text ih =>
    rw [piecesFrom]
    split
    case isTrue hc =>
      rw [List.intercalate_cons_of_ne_nil (piecesFrom_ne_nil _ _), ih, beq_iff_eq.mp hc]
      simp
    case isFalse =>
      rw [ih]
      simp

/-- The pieces of a text with separators between them are the text. -/
theorem intercalate_pieces (separator : Char) (text : List Char) :
    List.intercalate [separator] (pieces (· == separator) text) = text :=
  intercalate_piecesFrom separator [] text

section Cut

variable {isEnd : Char → Bool} {front : List Char}

/-- A text is cut at the first character that ends its front. -/
theorem cut_append (hfront : ∀ c ∈ front, isEnd c = false) {mark : Char} (hmark : isEnd mark = true)
    (rest : List Char) : cut isEnd (front ++ mark :: rest) = (front, some rest) := by
  have hall : ∀ c ∈ front, (!isEnd c) = true := fun c hc => by rw [hfront c hc, Bool.not_false]
  simp only [cut, List.takeWhile_append_of_pos hall, List.dropWhile_append_of_pos hall,
    List.takeWhile_cons, List.dropWhile_cons, hmark, Bool.not_true, Bool.false_eq_true, if_false,
    List.append_nil]

/-- A text without a character that ends its front is not cut. -/
theorem cut_of_plain (hfront : ∀ c ∈ front, isEnd c = false) : cut isEnd front = (front, none) := by
  have hall : ∀ c ∈ front, (!isEnd c) = true := fun c hc => by rw [hfront c hc, Bool.not_false]
  simp only [cut, List.takeWhile_eq_self_iff.mpr hall, List.dropWhile_eq_nil_iff.mpr hall]

end Cut

end ServiceTree.Text
