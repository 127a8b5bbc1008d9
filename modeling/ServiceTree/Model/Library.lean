import ServiceTree.Model.Declaration

/-!
# The model of a lending library

A small model that is complete all the same: it has a method of every strategy, locators with and
without argument, and a base shared by two collections. Books are found below `books`, authors below
`authors`.
-/

namespace ServiceTree.Library

/-- The root, from which the collections are reached. -/
def root : Service :=
  .declare "Library" none [] [.literal "Books" "Books", .literal "Authors" "Authors"]
    (some "Entry point of the lending library API.")

/-- What both collections have in common. -/
def catalog : Service :=
  .declare "Catalog" none
    [.declare "Reindex" [.input "full" (.primitive .boolean), .output "job" (.named "Job")]
      (some "Rebuilds the search index of the collection.")]
    [] (some "Behavior shared by every catalog collection.")

/-- The collection of books. -/
def books : Service :=
  .declare "Books" (some "Catalog")
    [.declare "Add" [.inOut "book" (.named "Book"), .input "notify" (.primitive .boolean)],
      .declare "List"
        [.output "books" (.list (.named "Book")), .input "search" (.primitive .string),
          .input "max" (.primitive .integer)]
        (some "Returns the books matching the given criteria.")]
    [.parameterized "Book" "Book" (.input "id" (.primitive .string))]
    (some "The books held by the library.")

/-- A book. -/
def book : Service :=
  .declare "Book" none
    [.declare "Get" [.output "book" (.named "Book")],
      .declare "Update" [.inOut "book" (.named "Book"), .input "notify" (.primitive .boolean)],
      .declare "Remove" [.input "force" (.primitive .boolean)],
      .declare "CheckOut"
        [.input "member" (.named "Member"), .input "due" (.primitive .date),
          .output "loan" (.named "Loan")]
        (some "Lends the book to a member."),
      .declare "Return" [.input "condition" (.primitive .string)]]
    []

/-- The collection of authors. -/
def authors : Service :=
  .declare "Authors" (some "Catalog")
    [.declare "Add" [.inOut "author" (.named "Author")],
      .declare "List" [.output "authors" (.list (.named "Author"))]]
    [.parameterized "Author" "Author" (.input "id" (.primitive .string))]

/-- An author. -/
def author : Service :=
  .declare "Author" none
    [.declare "Get" [.output "author" (.named "Author")], .declare "Remove" []] []

/-- The model of the library. -/
def model : Model :=
  .declare "Library" "Library" [root, catalog, books, book, authors, author]

end ServiceTree.Library

namespace ServiceTree.Model

/-- The models that are always at hand, by name. -/
def bundled : List (String × Model) := [("library", Library.model)]

/-- The names of the models that are always at hand. -/
def bundledNames : List String := bundled.map Prod.fst

/-- The model at hand under a name. -/
def bundled? (name : String) : Option Model := bundled.lookup name

end ServiceTree.Model
