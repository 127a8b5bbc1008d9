import Mathlib.Data.List.Nodup
import ServiceTree.Plan.Compile
import ServiceTree.Proofs.NameOrder

/-!
# Merging declared members into inherited ones

Members are kept in the order of their names, with one member for each name. Adding a member removes
the earlier ones of its name, so after several additions a name finds the last member added for it,
and the inherited one where none was added.
-/

namespace ServiceTree

variable {M : Type} {name : M → Name}

/-- Among members of different keys, a key finds exactly its member. -/
theorem find?_eq_some_iff_mem {K : Type} [DecidableEq K] {key : M → K} {members : List M}
    (hnodup : (members.map key).Nodup) (sought : K) (member : M) :
    (members.find? fun m => key m = sought) = some member ↔
      member ∈ members ∧ key member = sought := by
  constructor
  · intro h
    exact ⟨List.mem_of_find?_eq_some h, by simpa using List.find?_some h⟩
  · rintro ⟨hmem, rfl⟩
    have hsome : (members.find? fun m => key m = key member).isSome :=
      List.find?_isSome.mpr ⟨member, hmem, by simp⟩
    obtain ⟨found, hfound⟩ := Option.isSome_iff_exists.mp hsome
    have hkey : key found = key member := by simpa using List.find?_some hfound
    rw [hfound, List.inj_on_of_nodup_map hnodup (List.mem_of_find?_eq_some hfound) hmem hkey]

/-- Rearranging members of different names does not change what a name finds. -/
theorem find?_eq_of_perm {members others : List M} (hnodup : (members.map name).Nodup)
    (hperm : members.Perm others) (sought : Name) :
    (members.find? fun m => name m = sought) = others.find? fun m => name m = sought := by
  have hothers : (others.map name).Nodup := (hperm.map name).nodup_iff.mp hnodup
  apply Option.ext
  intro member
  rw [find?_eq_some_iff_mem hnodup, find?_eq_some_iff_mem hothers, hperm.mem_iff]

/-- Members of different names are determined, up to their order, by what the names find. -/
theorem perm_of_find?_eq {members others : List M} (hnodup : (members.map name).Nodup)
    (hothers : (others.map name).Nodup)
    (hfind : ∀ sought, (members.find? fun m => name m = sought) =
      others.find? fun m => name m = sought) : members.Perm others := by
  rw [List.perm_ext_iff_of_nodup (List.Nodup.of_map name hnodup) (List.Nodup.of_map name hothers)]
  intro member
  have hmembers := find?_eq_some_iff_mem hnodup (name member) member
  rw [hfind, find?_eq_some_iff_mem hothers] at hmembers
  simpa using hmembers.symm

/-- The last of several members of a name. -/
def latest? (name : M → Name) (members : List M) (sought : Name) : Option M :=
  members.reverse.find? fun m => name m = sought

/-- A member in front counts only if no later one has its name. -/
theorem latest?_cons (member : M) (rest : List M) (sought : Name) :
    latest? name (member :: rest) sought =
      (latest? name rest sought).or (if name member = sought then some member else none) := by
  simp only [latest?, List.reverse_cons, List.find?_append, List.find?_singleton, decide_eq_true_eq]

/-- Where every name is declared once, the last member of a name is the only one. -/
theorem latest?_eq_find? {members : List M} (hnodup : (members.map name).Nodup) (sought : Name) :
    latest? name members sought = members.find? fun m => name m = sought :=
  (find?_eq_of_perm hnodup (List.reverse_perm members).symm sought).symm

/-- A name has a last member exactly if it has a member. -/
theorem latest?_isSome_iff {members : List M} {sought : Name} :
    (latest? name members sought).isSome ↔ ∃ member ∈ members, name member = sought := by
  simp [latest?, List.find?_isSome]

/-- The last member of a name is a member, and it has the name. -/
theorem latest?_mem {members : List M} {sought : Name} {member : M}
    (h : latest? name members sought = some member) : member ∈ members ∧ name member = sought :=
  ⟨List.mem_reverse.mp (List.mem_of_find?_eq_some h), by simpa using List.find?_some h⟩

/-- Converting the members one by one converts the last member of a name. -/
theorem latest?_map {N : Type} {other : N → Name} (convert : M → N)
    (hname : ∀ m, other (convert m) = name m) (members : List M) (sought : Name) :
    latest? other (members.map convert) sought = (latest? name members sought).map convert := by
  simp only [latest?, ← List.map_reverse, List.find?_map, Function.comp_def, hname]

/-- Add a member in place of the earlier ones of its name. -/
def replaceMember (name : M → Name) (members : List M) (member : M) : List M :=
  members.filter (fun other => name other ≠ name member) ++ [member]

/-- Merging replaces members one after the other and sorts at the end. -/
theorem mergeMembers_eq_sort (inherited declared : List M) :
    mergeMembers name inherited declared =
      sortByName name (declared.foldl (replaceMember name) inherited) := rfl

/-- A replaced name finds the new member, every other name what it found before. -/
theorem replaceMember_find? (members : List M) (member : M) (sought : Name) :
    ((replaceMember name members member).find? fun m => name m = sought) =
      if name member = sought then some member else members.find? fun m => name m = sought := by
  rw [replaceMember, List.find?_append, List.find?_singleton, List.find?_filter]
  by_cases h : name member = sought
  · have hnone : (members.find? fun m => decide (decide (name m ≠ name member) = true ∧
        decide (name m = sought) = true)) = none := by
      rw [List.find?_eq_none]
      intro m _
      simp [h]
    rw [hnone, Option.none_or, if_pos h, if_pos (by simpa using h)]
  · have hsame (m : M) : decide (decide (name m ≠ name member) = true ∧
        decide (name m = sought) = true) = decide (name m = sought) := by
      by_cases hm : name m = sought
      · simp [hm, Ne.symm h]
      · simp [hm]
    simp_rw [hsame]
    simp [h]

/-- Replacing keeps all names different. -/
theorem replaceMember_nodup {members : List M} (hnodup : (members.map name).Nodup) (member : M) :
    ((replaceMember name members member).map name).Nodup := by
  rw [replaceMember, List.map_append, List.nodup_append]
  refine ⟨hnodup.sublist (List.filter_sublist.map name), List.nodup_singleton _, ?_⟩
  intro a ha b hb
  obtain ⟨m, hm, rfl⟩ := List.mem_map.mp ha
  rw [List.map_singleton, List.mem_singleton] at hb
  subst hb
  simpa using (List.mem_filter.mp hm).2

/-- After several replacements a name finds the last member added for it, or else the old one. -/
theorem replaceMembers_find? (inherited declared : List M) (sought : Name) :
    ((declared.foldl (replaceMember name) inherited).find? fun m => name m = sought) =
      (latest? name declared sought).or (inherited.find? fun m => name m = sought) := by
  induction declared generalizing inherited with
  | nil => rfl
  | cons member rest ih =>
    rw [List.foldl_cons, ih, replaceMember_find?, latest?_cons, Option.or_assoc]
    congr 1
    split <;> simp

/-- Several replacements keep all names different. -/
theorem replaceMembers_nodup {inherited : List M} (hnodup : (inherited.map name).Nodup)
    (declared : List M) : ((declared.foldl (replaceMember name) inherited).map name).Nodup := by
  induction declared generalizing inherited with
  | nil => exact hnodup
  | cons member rest ih => exact ih (replaceMember_nodup hnodup member)

/-- Merged members increase strictly by name. -/
theorem mergeMembers_increasing {inherited : List M} (hnodup : (inherited.map name).Nodup)
    (declared : List M) :
    (mergeMembers name inherited declared).Pairwise fun a b => name a < name b :=
  sortByName_increasing name _ (replaceMembers_nodup hnodup declared)

/-- In merged members a name finds its last declaration, or else the inherited member. -/
theorem mergeMembers_find? {inherited : List M} (hnodup : (inherited.map name).Nodup)
    (declared : List M) (sought : Name) :
    ((mergeMembers name inherited declared).find? fun m => name m = sought) =
      (latest? name declared sought).or (inherited.find? fun m => name m = sought) := by
  rw [mergeMembers_eq_sort, ← replaceMembers_find?]
  exact (find?_eq_of_perm (replaceMembers_nodup hnodup declared)
    (List.mergeSort_perm _ _).symm sought).symm

/-- Merging members of different names does not depend on the order in which they are declared. -/
theorem mergeMembers_eq_of_perm {inherited declared others : List M}
    (hinherited : (inherited.map name).Nodup) (hdeclared : (declared.map name).Nodup)
    (hperm : declared.Perm others) :
    mergeMembers name inherited declared = mergeMembers name inherited others := by
  have hothers : (others.map name).Nodup := (hperm.map name).nodup_iff.mp hdeclared
  rw [mergeMembers_eq_sort, mergeMembers_eq_sort]
  refine sortByName_eq_of_perm (replaceMembers_nodup hinherited declared) ?_
  refine perm_of_find?_eq (replaceMembers_nodup hinherited declared)
    (replaceMembers_nodup hinherited others) fun sought => ?_
  rw [replaceMembers_find?, replaceMembers_find?, latest?_eq_find? hdeclared,
    latest?_eq_find? hothers, find?_eq_of_perm hdeclared hperm]

end ServiceTree
