import Mathlib.Data.String.Basic
import ServiceTree.Fields

/-!
# What maps hold

A map with keys in order is told by what it has under every key. Binding a key changes what is under that
key alone, merging another map in puts its entries first, and of several items bound one after the other
the last one with a key stays.
-/

namespace ServiceTree

universe u v

/-- The value of the last item with a key, among the items that have a value. -/
def lastUnder? {ι : Type u} {α : Type v} (key : ι → String) (value? : ι → Option α) (items : List ι)
    (sought : String) : Option α :=
  items.reverse.findSome? fun item => if key item = sought then value? item else none

/-- An item has its value under its key unless a later one with that key has a value. -/
theorem lastUnder?_cons {ι : Type u} {α : Type v} {key : ι → String} {value? : ι → Option α} {item : ι}
    {items : List ι} {sought : String} : lastUnder? key value? (item :: items) sought =
      (lastUnder? key value? items sought).or (if key item = sought then value? item else none) := by
  rw [lastUnder?, List.reverse_cons, List.findSome?_append, List.findSome?_singleton]
  rfl

namespace Fields

variable {α : Type u} {fields other : Fields α} {key : String} {value : α}

/-- What a map holds after binding a key is the binding or was there before. -/
theorem mem_insert {entry : String × α} (hentry : entry ∈ insert key value fields) :
    entry = (key, value) ∨ entry ∈ fields := by
  induction fields with
  | nil => exact .inl (List.mem_singleton.mp hentry)
  | cons first rest ih =>
    rw [insert] at hentry
    split at hentry
    · exact (List.mem_cons.mp hentry).imp_right (List.mem_cons_of_mem _)
    · split at hentry
      · exact List.mem_cons.mp hentry
      · rcases List.mem_cons.mp hentry with rfl | hentry
        · exact .inr List.mem_cons_self
        · exact (ih hentry).imp_right (List.mem_cons_of_mem _)

/-- Binding a key keeps the keys in order. -/
theorem Ordered.insert (hordered : fields.Ordered) (key : String) (value : α) :
    (fields.insert key value).Ordered := by
  induction fields with
  | nil => exact List.pairwise_singleton _ _
  | cons first rest ih =>
    obtain ⟨hfirst, hrest⟩ := List.pairwise_cons.mp hordered
    rw [Fields.insert]
    split
    case isTrue hsame =>
      subst hsame
      exact List.pairwise_cons.mpr ⟨hfirst, hrest⟩
    case isFalse hne =>
      split
      case isTrue hlt =>
        refine List.pairwise_cons.mpr ⟨fun entry hentry => ?_, hordered⟩
        rcases List.mem_cons.mp hentry with rfl | hentry
        · exact hlt
        · exact String.lt_trans hlt (hfirst entry hentry)
      case isFalse hge =>
        refine List.pairwise_cons.mpr ⟨fun entry hentry => ?_, ih hrest⟩
        rcases mem_insert hentry with rfl | hentry
        · exact lt_of_le_of_ne (not_lt.mp hge) (Ne.symm hne)
        · exact hfirst entry hentry

/-- A key in front of all others is not bound. -/
theorem find?_of_lt (hfirst : ∀ entry ∈ fields, key < entry.1) : fields.find? key = none := by
  induction fields with
  | nil => rfl
  | cons entry rest ih =>
    obtain ⟨hentry, hrest⟩ := List.forall_mem_cons.mp hfirst
    rw [find?, if_neg hentry.ne, ih hrest]

/-- A key behind all others is bound at the end. -/
theorem insert_of_lt {key : String} (hlast : ∀ entry ∈ fields, entry.1 < key) (value : α) :
    insert key value fields = fields ++ [(key, value)] := by
  induction fields with
  | nil => rfl
  | cons entry rest ih =>
    obtain ⟨hentry, hrest⟩ := List.forall_mem_cons.mp hlast
    have hne : key ≠ entry.1 := fun heq => String.lt_irrefl key (heq ▸ hentry)
    rw [insert, if_neg hne, if_neg (String.lt_asymm hentry), ih hrest, List.cons_append]

/-- Entries that continue a map in order are bound one behind the other. -/
theorem extend_of_ordered {entries : Fields α} (hordered : Ordered (fields ++ entries)) :
    fields.extend entries = fields ++ entries := by
  induction entries generalizing fields with
  | nil => rw [List.append_nil]; rfl
  | cons entry rest ih =>
    obtain ⟨-, -, hbefore⟩ := List.pairwise_append.mp hordered
    have hlast : ∀ other ∈ fields, other.1 < entry.1 :=
      fun other hother => hbefore other hother entry List.mem_cons_self
    rw [List.append_cons] at hordered ⊢
    change extend (insert entry.1 entry.2 fields) rest = _
    rw [insert_of_lt hlast, ih hordered]

/-- Entries in order are the map that holds them. -/
theorem ofList_of_ordered (hordered : Ordered fields) : ofList fields = fields :=
  extend_of_ordered hordered

/-- A map holds what a lookup gives: its keys increase, and each has the value that the lookup gives for
it. -/
structure Holds (fields : Fields α) (lookup : String → Option α) : Prop where
  ordered : fields.Ordered
  found : ∀ key, fields.find? key = lookup key

variable {lookup : String → Option α}

/-- The empty map holds nothing. -/
theorem holds_nil : Holds ([] : Fields α) fun _ => none :=
  ⟨List.Pairwise.nil, fun _ => rfl⟩

/-- A map holds what it finds. -/
theorem Ordered.holds (hordered : fields.Ordered) : fields.Holds fields.find? :=
  ⟨hordered, fun _ => rfl⟩

/-- What a map holds after binding a key. -/
theorem Holds.insert (h : fields.Holds lookup) (key : String) (value : α) :
    (fields.insert key value).Holds fun sought => if sought = key then some value else lookup sought := by
  refine ⟨h.ordered.insert key value, fun sought => ?_⟩
  split
  case isTrue hsame => rw [hsame, find?_insert_self]
  case isFalse hne => rw [find?_insert_of_ne hne, h.found]

/-- A map that others are merged into holds theirs first. The induction is on the merged map, whose first
key none of its others is. -/
theorem Holds.extend (h : fields.Holds lookup) {entries : Fields α} (hentries : entries.Ordered) :
    (fields.extend entries).Holds fun sought => (entries.find? sought).or (lookup sought) := by
  induction entries generalizing fields lookup with
  | nil => exact h
  | cons entry rest ih =>
    obtain ⟨hfirst, hrest⟩ := List.pairwise_cons.mp hentries
    obtain ⟨hordered, hfound⟩ := ih (h.insert entry.1 entry.2) hrest
    refine ⟨hordered, fun sought => (hfound sought).trans ?_⟩
    rw [find?]
    split
    case isTrue hsame =>
      rw [hsame, find?_of_lt hfirst]
      rfl
    case isFalse => rfl

/-- A map with keys in order has the entries that it finds. -/
theorem Ordered.mem_iff (hordered : fields.Ordered) {entry : String × α} :
    entry ∈ fields ↔ fields.find? entry.1 = some entry.2 := by
  induction fields with
  | nil => simp [find?]
  | cons first rest ih =>
    obtain ⟨hfirst, hrest⟩ := List.pairwise_cons.mp hordered
    rw [List.mem_cons, find?]
    split
    case isTrue hsame =>
      have hbehind : entry ∉ rest := fun hmem => (hfirst entry hmem).ne hsame.symm
      rw [or_iff_left hbehind, Option.some.injEq, Prod.ext_iff, eq_comm (a := entry.2),
        and_iff_right hsame]
    case isFalse hne =>
      rw [← ih hrest, or_iff_right]
      rintro rfl
      exact hne rfl

/-- Two maps that hold the same are the same. -/
theorem Holds.unique (h : fields.Holds lookup) (hother : other.Holds lookup) : fields = other := by
  have hnodup : ∀ {fields : Fields α}, fields.Ordered → fields.Nodup :=
    fun hordered => hordered.imp fun hlt => fun hsame => hlt.ne (congrArg Prod.fst hsame)
  have hperm : fields.Perm other := by
    rw [List.perm_ext_iff_of_nodup (hnodup h.ordered) (hnodup hother.ordered)]
    intro entry
    rw [h.ordered.mem_iff, hother.ordered.mem_iff, h.found, hother.found]
  exact hperm.eq_of_pairwise (fun a b _ _ hlt hgt => absurd hlt hgt.asymm) h.ordered hother.ordered

/-- What a map holds after binding, one after the other, the keys of those items that have a value. -/
theorem Holds.foldl {ι : Type v} {key : ι → String} {value? : ι → Option α}
    {step : Fields α → ι → Fields α}
    (hstep : ∀ fields item, step fields item =
      ((value? item).map fun value => fields.insert (key item) value).getD fields)
    {items : List ι} (h : fields.Holds lookup) :
    (items.foldl step fields).Holds fun sought =>
      (lastUnder? key value? items sought).or (lookup sought) := by
  induction items generalizing fields lookup with
  | nil => exact h
  | cons item rest ih =>
    have hfirst : (step fields item).Holds fun sought =>
        (if key item = sought then value? item else none).or (lookup sought) := by
      rw [hstep]
      cases value? item with
      | none => simpa using h
      | some value =>
        refine ⟨(h.insert (key item) value).ordered, fun sought => ?_⟩
        rw [Option.map_some, Option.getD_some, (h.insert (key item) value).found]
        by_cases hsame : sought = key item
        · rw [if_pos hsame, if_pos hsame.symm, Option.some_or]
        · rw [if_neg hsame, if_neg (Ne.symm hsame), Option.none_or]
    refine ⟨(ih hfirst).ordered, fun sought => ?_⟩
    rw [List.foldl_cons, (ih hfirst).found, lastUnder?_cons, Option.or_assoc]

end Fields

end ServiceTree
