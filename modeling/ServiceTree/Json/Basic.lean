import ServiceTree.Fields
import ServiceTree.Outline.Basic

/-!
# Documents

Documents with all scalars valued. A record keeps its members in the order in which they are
written; reading a free document orders them by key, and the last of several members with one key
stays.
-/

namespace ServiceTree

/-- A document of the object notation. -/
inductive Json where
  | null
  | bool (value : Bool)
  | number (value : Number)
  | text (value : String)
  | list (items : List Json)
  | record (members : List (String × Json))
  deriving Inhabited

namespace Json

/-- A whole number as a document. -/
def integer (value : Int) : Json := .number (.integer value)

mutual

/-- The outline that writes a document. -/
def toOutline : Json → Outline
  | .null => .null
  | .bool value => .bool value
  | .number value => .number (some value)
  | .text value => .text (some value)
  | .list items => .list (itemsToOutline items)
  | .record members => .record (membersToOutline members)
  termination_by structural json => json

/-- The outlines of a list of documents. -/
def itemsToOutline : List Json → List Outline
  | [] => []
  | item :: rest => toOutline item :: itemsToOutline rest
  termination_by structural items => items

/-- The outlines of the members of a record. -/
def membersToOutline : List (String × Json) → List (Outline × Outline)
  | [] => []
  | (key, member) :: rest => (.text (some key), toOutline member) :: membersToOutline rest
  termination_by structural members => members

end

/-- The outlines of a list of documents are those of its items. -/
theorem itemsToOutline_eq_map (items : List Json) : itemsToOutline items = items.map toOutline := by
  induction items with
  | nil => rfl
  | cons item rest ih => rw [itemsToOutline, ih, List.map_cons]

/-- The outlines of the members of a record stand under the texts of their keys. -/
theorem membersToOutline_eq_map (members : List (String × Json)) :
    membersToOutline members = members.map fun member => (.text (some member.1), member.2.toOutline) := by
  induction members with
  | nil => rfl
  | cons member rest ih => rw [membersToOutline, ih, List.map_cons]

end Json

namespace Outline

/-- The text of a key. -/
def keyText : Outline → String
  | .text value => value.getD ""
  | .plain word => word
  | _ => ""

mutual

/-- The document that a sound outline writes. -/
def valued : Outline → Json
  | .null => .null
  | .bool value => .bool value
  | .number value => .number (value.getD default)
  | .text value => .text (value.getD "")
  | .plain word => .text word
  | .list items => .list (itemsValued items)
  | .record members => .record (Fields.ofList (membersValued members))
  termination_by structural outline => outline

/-- The documents of a list of outlines. -/
def itemsValued : List Outline → List Json
  | [] => []
  | item :: rest => valued item :: itemsValued rest
  termination_by structural items => items

/-- The documents under their keys, in the order of writing. -/
def membersValued : List (Outline × Outline) → List (String × Json)
  | [] => []
  | (key, member) :: rest => (keyText key, valued member) :: membersValued rest
  termination_by structural members => members

end

/-- The free document an outline writes, unless a scalar has no value or the nesting is too deep. -/
def toJson? (outline : Outline) : Option Json :=
  if outline.isSound Format.json.nestingLimit then some outline.valued else none

end Outline

end ServiceTree
