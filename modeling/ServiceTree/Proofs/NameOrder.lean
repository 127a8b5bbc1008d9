import Mathlib.Data.List.Lex
import Mathlib.Data.List.Pairwise
import Mathlib.Data.String.Basic
import ServiceTree.Name.Basic

/-!
# The order of names

Names compare word by word. The comparison that sorting uses is a total order, so a list sorted by
it whose members all have different names increases strictly.
-/

namespace ServiceTree

namespace Name

/-- Names compare as their lists of words do. -/
instance : LT Name := ⟨fun a b => a.words < b.words⟩

/-- No name comes before itself. -/
theorem not_lt_self (a : Name) : ¬ a < a := lt_irrefl a.words

/-- The comparison used for sorting is the order of the words. -/
theorem le_iff_words_le {a b : Name} : a.le b = true ↔ a.words ≤ b.words := by
  simp only [le, decide_eq_true_eq]
  exact not_lt

/-- Of two names one comes first. -/
theorem le_connected (a b : Name) : (a.le b || b.le a) = true := by
  simp only [Bool.or_eq_true, le_iff_words_le]
  exact le_total a.words b.words

/-- The comparison used for sorting is transitive. -/
theorem le_transitive (a b c : Name) (hab : a.le b = true) (hbc : b.le c = true) :
    a.le c = true := by
  rw [le_iff_words_le] at hab hbc ⊢
  exact hab.trans hbc

/-- Of two different names in sorted order the first is strictly smaller. -/
theorem lt_of_le_ne {a b : Name} (hle : a.le b = true) (hne : a ≠ b) : a < b := by
  have hwords : a.words ≠ b.words := by
    intro h
    apply hne
    cases a
    cases b
    exact congrArg Name.mk h
  exact lt_of_le_of_ne (le_iff_words_le.mp hle) hwords

end Name

variable {M : Type}

/-- Members in the order of their names; members of one name stay in their order. -/
abbrev sortByName (name : M → Name) (members : List M) : List M :=
  members.mergeSort fun a b => (name a).le (name b)

/-- Sorting puts the names in order. -/
theorem sortByName_ordered (name : M → Name) (members : List M) :
    (sortByName name members).Pairwise fun a b => (name a).le (name b) = true :=
  List.pairwise_mergeSort (fun a b c => Name.le_transitive (name a) (name b) (name c))
    (fun a b => Name.le_connected (name a) (name b)) members

/-- Sorting members of different names makes the names increase strictly. -/
theorem sortByName_increasing (name : M → Name) (members : List M)
    (hnodup : (members.map name).Nodup) :
    (sortByName name members).Pairwise fun a b => name a < name b := by
  have hsorted : ((sortByName name members).map name).Nodup :=
    (((List.mergeSort_perm members _).map name).nodup_iff).mpr hnodup
  rw [List.Nodup, List.pairwise_map] at hsorted
  exact (sortByName_ordered name members).imp₂ (fun _ _ => Name.lt_of_le_ne) hsorted

/-- Names that increase strictly are all different. -/
theorem nodup_of_increasing {name : M → Name} {members : List M}
    (h : members.Pairwise fun a b => name a < name b) : (members.map name).Nodup := by
  rw [List.Nodup, List.pairwise_map]
  apply h.imp
  intro a b hlt heq
  rw [heq] at hlt
  exact Name.not_lt_self _ hlt

/-- Sorting members of different names does not depend on the order in which they come. -/
theorem sortByName_eq_of_perm {name : M → Name} {members others : List M}
    (hnodup : (members.map name).Nodup) (hperm : members.Perm others) :
    sortByName name members = sortByName name others := by
  have hothers : (others.map name).Nodup := (hperm.map name).nodup_iff.mp hnodup
  have hsorted : (sortByName name members).Perm (sortByName name others) :=
    (List.mergeSort_perm members _).trans (hperm.trans (List.mergeSort_perm others _).symm)
  have hasymm (a b : M) (hab : name a < name b) (hba : name b < name a) : a = b :=
    absurd (lt_trans (show (name a).words < _ from hab) hba) (Name.not_lt_self (name a))
  exact hsorted.eq_of_pairwise (fun a b _ _ => hasymm a b) (sortByName_increasing name members hnodup)
    (sortByName_increasing name others hothers)

/-- A rearrangement of members of different names that has the names in order is the sorted list. -/
theorem sortByName_eq_of_ordered {name : M → Name} {members sorted : List M}
    (hperm : members.Perm sorted) (hnodup : (sorted.map name).Nodup)
    (hordered : sorted.Pairwise fun a b => (name a).le (name b) = true) :
    sortByName name members = sorted := by
  rw [sortByName_eq_of_perm ((hperm.map name).nodup_iff.mpr hnodup) hperm]
  exact List.mergeSort_of_pairwise hordered

end ServiceTree
