/-!
# Values under text keys

Finite maps from text to values, as lists of pairs in increasing order of the keys. Keys compare by
code point, which is also the order of their encoded bytes. Every operation that builds a map
keeps the order, so two maps with the same bindings are the same list.
-/

namespace ServiceTree

universe u

/-- Values under distinct text keys, in increasing order of the keys. -/
abbrev Fields (α : Type u) := List (String × α)

namespace Fields

variable {α : Type u}

/-- The value bound to a key. -/
def find? : Fields α → String → Option α
  | [], _ => none
  | (k, value) :: rest, key => if key = k then some value else find? rest key

/-- Bind a key, replacing an earlier binding of it. -/
def insert (key : String) (value : α) : Fields α → Fields α
  | [] => [(key, value)]
  | (k, v) :: rest =>
    if key = k then (key, value) :: rest
    else if key < k then (key, value) :: (k, v) :: rest
    else (k, v) :: insert key value rest

/-- Remove the binding of a key. -/
def erase (fields : Fields α) (key : String) : Fields α :=
  fields.filter fun entry => entry.1 ≠ key

/-- Bind every pair in turn, so that the last of several bindings of a key stays. -/
def extend (fields : Fields α) (entries : List (String × α)) : Fields α :=
  entries.foldl (fun built entry => insert entry.1 entry.2 built) fields

/-- The map that holds the given pairs, the last one for each key. -/
def ofList (entries : List (String × α)) : Fields α := extend [] entries

/-- The keys in order. -/
def keys (fields : Fields α) : List String := fields.map Prod.fst

/-- The keys increase strictly along the list. -/
def Ordered (fields : Fields α) : Prop := fields.Pairwise fun a b => a.1 < b.1

/-- A freshly bound key is found with its new value. -/
theorem find?_insert_self (key : String) (value : α) (fields : Fields α) :
    (insert key value fields).find? key = some value := by
  induction fields with
  | nil => simp [insert, find?]
  | cons entry rest ih =>
    obtain ⟨k, v⟩ := entry
    by_cases hk : key = k
    · simp [insert, find?, hk]
    · by_cases hlt : key < k
      · simp [insert, find?, hk, hlt]
      · simp [insert, find?, hk, hlt, ih]

/-- Binding one key leaves the others as they were. -/
theorem find?_insert_of_ne {key other : String} (hne : other ≠ key) (value : α)
    (fields : Fields α) : (insert key value fields).find? other = fields.find? other := by
  induction fields with
  | nil => simp [insert, find?, hne]
  | cons entry rest ih =>
    obtain ⟨k, v⟩ := entry
    by_cases hk : key = k
    · subst hk
      simp [insert, find?, hne]
    · by_cases hlt : key < k
      · simp [insert, find?, hk, hlt, hne]
      · simp [insert, find?, hk, hlt, ih]

end Fields

end ServiceTree
