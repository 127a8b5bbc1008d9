import ServiceTree.Proofs.CompactDocuments
import ServiceTree.Proofs.HeldEntries

/-!
# Reading free documents

A free document is one whose form is not known before it is read. Reading orders the members of its
records and refuses what nests too deeply, so a document whose keys increase and that stays within the
limit is read back from its compact text exactly as it was.
-/

namespace ServiceTree

namespace Json

mutual

/-- How many containers stand around the innermost value of a document. -/
def nesting : Json → Nat
  | .null => 0
  | .bool _ => 0
  | .number _ => 0
  | .text _ => 0
  | .list items => itemsNesting items + 1
  | .record members => membersNesting members + 1
  termination_by structural json => json

/-- How deeply the deepest of several documents nests. -/
def itemsNesting : List Json → Nat
  | [] => 0
  | item :: rest => max (nesting item) (itemsNesting rest)
  termination_by structural items => items

/-- How deeply the deepest member of a record nests. -/
def membersNesting : List (String × Json) → Nat
  | [] => 0
  | (_, member) :: rest => max (nesting member) (membersNesting rest)
  termination_by structural members => members

end

mutual

/-- Whether the keys of every record in a document increase. -/
def Sorted : Json → Prop
  | .null => True
  | .bool _ => True
  | .number _ => True
  | .text _ => True
  | .list items => ItemsSorted items
  | .record members => Fields.Ordered members ∧ MembersSorted members
  termination_by structural json => json

/-- Whether the keys of every record in a list of documents increase. -/
def ItemsSorted : List Json → Prop
  | [] => True
  | item :: rest => Sorted item ∧ ItemsSorted rest
  termination_by structural items => items

/-- Whether the keys of every record in the members of a record increase. -/
def MembersSorted : List (String × Json) → Prop
  | [] => True
  | (_, member) :: rest => Sorted member ∧ MembersSorted rest
  termination_by structural members => members

end

/-- The keys in a list of documents increase if they do in its items. -/
@[simp]
theorem sorted_list {items : List Json} : (list items).Sorted ↔ ∀ item ∈ items, item.Sorted := by
  change ItemsSorted items ↔ _
  induction items with
  | nil => simp [ItemsSorted]
  | cons item rest ih => simp [ItemsSorted, ih]

/-- The keys in a record increase if its own do and those in its members. -/
@[simp]
theorem sorted_record {members : List (String × Json)} :
    (record members).Sorted ↔ Fields.Ordered members ∧ ∀ member ∈ members, member.2.Sorted := by
  have hmembers : MembersSorted members ↔ ∀ member ∈ members, member.2.Sorted := by
    induction members with
    | nil => simp [MembersSorted]
    | cons member rest ih => simp [MembersSorted, ih]
  exact and_congr_right fun _ => hmembers

mutual

/-- The outline of a document is sound wherever there is room for its containers. -/
theorem isSound_toOutline : (json : Json) → ∀ {room : Nat}, json.nesting ≤ room →
    json.toOutline.isSound room = true
  | .null, _, _ => rfl
  | .bool _, _, _ => rfl
  | .number _, _, _ => rfl
  | .text _, _, _ => rfl
  | .list items, room, hroom => by
    rw [nesting] at hroom
    rw [toOutline, Outline.isSound, itemsSound_toOutline items (by omega), Bool.and_true,
      decide_eq_true_eq]
    omega
  | .record members, room, hroom => by
    rw [nesting] at hroom
    rw [toOutline, Outline.isSound, membersSound_toOutline members (by omega), Bool.and_true,
      decide_eq_true_eq]
    omega

/-- The outlines of several documents are sound wherever there is room for the deepest. -/
theorem itemsSound_toOutline : (items : List Json) → ∀ {room : Nat}, itemsNesting items ≤ room →
    Outline.itemsSound room (itemsToOutline items) = true
  | [], _, _ => rfl
  | item :: rest, room, hroom => by
    obtain ⟨hitem, hrest⟩ := max_le_iff.mp hroom
    rw [itemsToOutline, Outline.itemsSound, isSound_toOutline item hitem,
      itemsSound_toOutline rest hrest, Bool.and_true]

/-- The outlines of the members of a record are sound wherever there is room for the deepest. -/
theorem membersSound_toOutline : (members : List (String × Json)) → ∀ {room : Nat},
    membersNesting members ≤ room → Outline.membersSound room (membersToOutline members) = true
  | [], _, _ => rfl
  | (key, member) :: rest, room, hroom => by
    obtain ⟨hmember, hrest⟩ := max_le_iff.mp hroom
    rw [membersToOutline, Outline.membersSound, isSound_toOutline member hmember,
      membersSound_toOutline rest hrest]
    rfl

end

mutual

/-- The outline of a document with keys in order has the document as its value. -/
theorem valued_toOutline : (json : Json) → json.Sorted → json.toOutline.valued = json
  | .null, _ => rfl
  | .bool _, _ => rfl
  | .number _, _ => rfl
  | .text _, _ => rfl
  | .list items, hsorted => by
    rw [toOutline, Outline.valued, itemsValued_toOutline items hsorted]
  | .record members, ⟨hordered, hsorted⟩ => by
    rw [toOutline, Outline.valued, membersValued_toOutline members hsorted,
      Fields.ofList_of_ordered hordered]

/-- The outlines of several documents with keys in order have the documents as their values. -/
theorem itemsValued_toOutline : (items : List Json) → ItemsSorted items →
    Outline.itemsValued (itemsToOutline items) = items
  | [], _ => rfl
  | item :: rest, ⟨hitem, hrest⟩ => by
    rw [itemsToOutline, Outline.itemsValued, valued_toOutline item hitem,
      itemsValued_toOutline rest hrest]

/-- The outlines of the members of a record with keys in order have the members as their values. -/
theorem membersValued_toOutline : (members : List (String × Json)) → MembersSorted members →
    Outline.membersValued (membersToOutline members) = members
  | [], _ => rfl
  | (key, member) :: rest, ⟨hmember, hrest⟩ => by
    rw [membersToOutline, Outline.membersValued, valued_toOutline member hmember,
      membersValued_toOutline rest hrest]
    rfl

end

/-- A free document is read back from its compact text. -/
theorem read?_render {json : Json} (hwhole : json.Whole) (hsorted : json.Sorted)
    (hnesting : json.nesting ≤ Format.json.nestingLimit) : read? json.render = some json := by
  have hsound := isSound_toOutline json hnesting
  rw [read?, render, String.toList_ofList, outline?_compact hwhole]
  change json.toOutline.toJson? = some json
  rw [Outline.toJson?, if_pos hsound, valued_toOutline json hsorted]

end Json

end ServiceTree
