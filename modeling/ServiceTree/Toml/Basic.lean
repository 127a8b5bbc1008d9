/-!
# Documents of keys and values

A TOML document is a list of sections, the first without a header. The header of a section leads to the table that
its entries belong to, which may be a further one of a list of tables. An entry has a key of one or more parts, all of
which but the last are tables too.
-/

namespace ServiceTree

/-- A value. Numbers, booleans and dates are kept as the words that write them. -/
inductive Toml where
  | text (value : String)
  | word (value : String)
  | list (items : List Toml)
  | table (entries : List (List String × Toml))

namespace Toml

/-- Some entries with the header above them. -/
structure Section where
  /-- Whether the header begins a further table of a list. -/
  isItem : Bool
  header : List String
  entries : List (List String × Toml)

/-- A document, section by section. -/
abbrev Document := List Section

/-! ## Places -/

/-- A step into a table, or into a list of tables. -/
inductive Step where
  | name (part : String)
  | item (position : Nat)
  deriving DecidableEq

/-- The last table of a list, if a list of tables is here. The lists that were begun are given, each once for every
table that it has. -/
def lastItem (lists : List (List Step)) (place : List Step) : List Step :=
  match lists.count place with
  | 0 => place
  | count + 1 => place ++ [.item count]

/-- Where a header leads. All its parts but the last lead into the last tables of lists. -/
def target (lists : List (List Step)) (reached : List Step) : List String → List Step
  | [] => reached
  | [part] => reached ++ [.name part]
  | part :: parts => target lists (lastItem lists (reached ++ [.name part])) parts

/-- All sections with the places of their tables, and the lists that are begun, once for every table. -/
def locate (lists : List (List Step)) : Document → List (Section × List Step) × List (List Step)
  | [] => ([], lists)
  | part :: rest =>
    let place := target lists [] part.header
    if part.isItem then
      let behind := locate (place :: lists) rest
      ((part, place ++ [.item (lists.count place)]) :: behind.1, behind.2)
    else
      let behind := locate lists rest
      ((part, place) :: behind.1, behind.2)

/-- All sections with the places of their tables. -/
def Document.located (document : Document) : List (Section × List Step) := (locate [] document).1

/-- All lists of tables, once for every table. -/
def Document.lists (document : Document) : List (List Step) := (locate [] document).2

/-! ## Finding values -/

mutual

/-- What a path leads to inside a value. -/
def find? : Toml → List String → Option Toml
  | value, [] => some value
  | .table entries, part :: parts => findIn? entries (part :: parts)
  | _, _ :: _ => none
  termination_by structural value => value

/-- What a path leads to among entries: into the value of the first entry whose key it begins with. -/
def findIn? : List (List String × Toml) → List String → Option Toml
  | [], _ => none
  | (key, value) :: rest, path =>
    match key.isPrefixOf? path with
    | some parts => find? value parts
    | none => findIn? rest path
  termination_by structural entries => entries

end

/-- The value that a path leads to in a document, past all lists of tables. -/
def Document.find? (document : Document) (path : List String) : Option Toml :=
  document.located.findSome? fun (part, place) =>
    if place = part.header.map .name then (part.header.isPrefixOf? path).bind (findIn? part.entries) else none

/-! ## Keys that may stand together -/

/-- Whether no key is given twice or leads into the value of another. -/
def areApart {α : Type} [BEq α] : List (List α) → Bool
  | [] => true
  | key :: rest =>
    (rest.all fun other => !key.isPrefixOf other && !other.isPrefixOf key) && areApart rest

mutual

/-- Whether all tables in a value have keys that may stand together. -/
def isSound : Toml → Bool
  | .text _ => true
  | .word _ => true
  | .list items => areSound items
  | .table entries => areApart (entries.map Prod.fst) && haveSoundValues entries
  termination_by structural value => value

/-- Whether all values are sound. -/
def areSound : List Toml → Bool
  | [] => true
  | value :: rest => isSound value && areSound rest
  termination_by structural values => values

/-- Whether all entries have sound values. -/
def haveSoundValues : List (List String × Toml) → Bool
  | [] => true
  | (_, value) :: rest => isSound value && haveSoundValues rest
  termination_by structural entries => entries

end

namespace Document

/-- The places of all values, from the top of the document. -/
def keys (document : Document) : List (List Step) :=
  document.located.flatMap fun (part, place) => part.entries.map fun entry => place ++ entry.1.map .name

/-- The places of the tables of all sections that have a header. -/
def headers (document : Document) : List (List Step) := (document.located.map Prod.snd).tail

/-- The places of the tables that keys of several parts make. -/
def dottedTables (document : Document) : List (List Step) :=
  document.located.flatMap fun (part, place) => part.entries.flatMap fun entry =>
    (List.range (entry.1.length - 1)).map fun last => place ++ (entry.1.take (last + 1)).map .name

/-- Whether no place is given twice. -/
def areDistinct : List (List Step) → Bool
  | [] => true
  | place :: rest => !rest.contains place && areDistinct rest

/-- Whether a place keeps clear of a list of tables, or leads into one of its tables. -/
def respects (list place : List Step) : Bool :=
  match list.isPrefixOf? place with
  | none => true
  | some (.item _ :: _) => true
  | some _ => false

/-- Whether keys and headers may stand together: none is given twice or leads into a value, no header is that of
a table which a key makes, and a list of tables holds nothing else. -/
def isSound (document : Document) : Bool :=
  areApart document.keys && areDistinct document.headers &&
    (document.headers.all fun header =>
      (document.keys.all fun key => !key.isPrefixOf header) && !document.dottedTables.contains header) &&
    (document.lists.all fun list => (document.keys ++ document.headers).all (respects list)) &&
    document.all fun part => haveSoundValues part.entries

end Document

end Toml

end ServiceTree
