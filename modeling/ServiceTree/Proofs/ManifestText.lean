import ServiceTree.Package.Manifest
import ServiceTree.Proofs.TomlLines
import Mathlib.Data.String.Basic

/-!
# What manifests say

A manifest is a plain document but for the path of the library, which is written between double quotes as it is,
with slashes for its backslashes. It says what it was asked to say iff that path holds no double quote and no control
character but tabs; with a double quote in it, the path can bring keys of its own.
-/

namespace ServiceTree.Manifest

open Toml

/-! ## A manifest as a plain document -/

/-- The lines in front of the one that names the package. -/
def openingLines : List WrittenLine :=
  [.comment " This file was automatically generated by arbor-gen.",
    .comment " Do not edit manually - changes will be overwritten.", .blank, .header "package"]

/-- The lines between the names of the package and of the library. -/
def middleLines : List WrittenLine :=
  [.entry "version" "0.1.0", .entry "edition" "2024", .entry "license" "AGPL-3.0-only",
    .entry "description" "Generated client for an arbor service model", .blank, .header "lib",
    .entry "path" "src/lib.rs", .blank, .header "dependencies"]

/-- The lines of a manifest in front of the one that names the library. -/
def leadingLines (packageName : String) : List WrittenLine :=
  openingLines ++ .entry "name" packageName :: middleLines

/-- The line that names the library. -/
def libraryLine : Option String → WrittenLine
  | some path => .table "arbor" ([("version", libraryVersion)] ++ [("path", withSlashes path)])
  | none => .entry "arbor" libraryVersion

/-- The library at a path, with its version. -/
theorem dependency_some (path : String) :
    dependency (some path) =
      "arbor = \x7b version = \"" ++ libraryVersion ++ "\", path = \"" ++ withSlashes path ++ "\" \x7d" := rfl

/-- The library by its version alone. -/
theorem dependency_none : dependency none = "arbor = \"" ++ libraryVersion ++ "\"" := rfl

/-- The line that names the library is what the manifest says of it. -/
theorem write_libraryLine (path : Option String) :
    (libraryLine path).write [] = (dependency path).toList ++ ['\n'] := by
  cases path with
  | none => simp [dependency_none, libraryLine, WrittenLine.write, writeEntry]
  | some path => simp [dependency_some, libraryLine, WrittenLine.write, writeFields, writeEntry]

/-- A manifest is written line by line. -/
theorem text_eq (manifest : Manifest) :
    manifest.text = String.ofList
      ((leadingLines manifest.packageName ++ [libraryLine manifest.libraryPath]).foldr WrittenLine.write []) := by
  apply String.toList_injective
  rw [String.toList_ofList, text, String.toList_intercalate, List.foldr_append, List.foldr_cons, List.foldr_nil,
    write_libraryLine]
  simp [List.intercalate, leadingLines, openingLines, middleLines, WrittenLine.write, writeEntry]

/-- Names of packages are keys that need no quotes. -/
theorem isBareKey_of_isPackageName {name : String} (hname : isPackageName name) : IsBareKey name := by
  obtain ⟨hfirst, hall⟩ := Bool.and_eq_true_iff.mp hname
  refine ⟨?_, List.all_eq_true.mp hall⟩
  intro heq
  simp [heq] at hfirst

/-- The lines in front of the library are plain, since the name of the package is. -/
theorem leadingLines_plain {name : String} (hname : isPackageName name) :
    ∀ written ∈ leadingLines name, written.IsPlain := by
  have hopening : ∀ written ∈ openingLines, written.IsPlain := by decide
  have hpackage : (WrittenLine.entry "name" name).IsPlain :=
    ⟨by decide, (isBareKey_of_isPackageName hname).isQuotable⟩
  have hmiddle : ∀ written ∈ middleLines, written.IsPlain := by decide
  exact List.forall_mem_append.mpr ⟨hopening, List.forall_mem_cons.mpr ⟨hpackage, hmiddle⟩⟩

/-! ## What is asked for -/

/-- What a manifest says of the library. -/
def library : Option String → Toml
  | some path => .table [(["version"], .text libraryVersion), (["path"], .text (withSlashes path))]
  | none => .text libraryVersion

/-- The document that a manifest is meant to be. -/
def document (manifest : Manifest) : Document :=
  [⟨false, [], []⟩,
    ⟨false, ["package"], [(["name"], .text manifest.packageName), (["version"], .text "0.1.0"),
      (["edition"], .text "2024"), (["license"], .text "AGPL-3.0-only"),
      (["description"], .text "Generated client for an arbor service model")]⟩,
    ⟨false, ["lib"], [(["path"], .text "src/lib.rs")]⟩,
    ⟨false, ["dependencies"], [(["arbor"], library manifest.libraryPath)]⟩]

/-- A document gives the package its name, and the library its version and its path if there is one. -/
structure IsSaidBy (manifest : Manifest) (document : Document) : Prop where
  name : document.find? ["package", "name"] = some (.text manifest.packageName)
  alone : manifest.libraryPath = none →
    document.find? ["dependencies", "arbor"] = some (.text libraryVersion)
  version : ∀ path ∈ manifest.libraryPath,
    document.find? ["dependencies", "arbor", "version"] = some (.text libraryVersion)
  path : ∀ path ∈ manifest.libraryPath,
    document.find? ["dependencies", "arbor", "path"] = some (.text (withSlashes path))

/-- Whether the path of the library, if there is one, can stand between double quotes but for its backslashes. -/
def HasPlainPath (manifest : Manifest) : Prop :=
  ∀ path ∈ manifest.libraryPath, ∀ c ∈ path.toList, c ≠ '"' ∧ isControl c = false

/-- The intended document says what is asked for. -/
theorem isSaidBy_document (manifest : Manifest) : manifest.IsSaidBy manifest.document := by
  obtain ⟨name, _ | path⟩ := manifest
  · exact ⟨rfl, fun _ => rfl, by simp, by simp⟩
  · exact ⟨rfl, by simp, fun _ _ => rfl, fun _ hpath => Option.some.inj hpath ▸ rfl⟩

/-- The lines of a manifest write the intended document. -/
theorem documentOf_lines (manifest : Manifest) :
    documentOf (leadingLines manifest.packageName ++ [libraryLine manifest.libraryPath]) = manifest.document := by
  obtain ⟨name, _ | path⟩ := manifest
  · rfl
  · rfl

/-- The keys of the intended document may stand together. -/
theorem isSound_document (manifest : Manifest) : manifest.document.isSound := by
  obtain ⟨name, _ | path⟩ := manifest
  · rfl
  · rfl

/-! ## What is said -/

/-- No backslashes are left among slashes. -/
theorem backslash_notMem_withSlashes (path : String) : '\\' ∉ (withSlashes path).toList := by
  rw [withSlashes, String.toList_ofList, List.mem_map]
  rintro ⟨c, -, heq⟩
  split_ifs at heq <;> simp_all

/-- With slashes, a path needs no escapes iff it holds no double quote and no control character but tabs. -/
theorem isQuotable_withSlashes (path : String) :
    IsQuotable (withSlashes path) ↔ ∀ c ∈ path.toList, c ≠ '"' ∧ isControl c = false := by
  have hchar (c : Char) :
      isQuotable (if c == '\\' then '/' else c) = true ↔ c ≠ '"' ∧ isControl c = false := by
    by_cases hc : c = '\\'
    · subst hc
      decide
    · simp [isQuotable, hc]
  rw [IsQuotable, withSlashes, String.toList_ofList, List.forall_mem_map]
  exact forall₂_congr fun c _ => hchar c

/-- The version of the library needs neither quotes nor escapes. -/
theorem version_plain : IsBareKey "version" ∧ IsQuotable libraryVersion := by decide

/-- The key of the path needs no quotes. -/
theorem isBareKey_path : IsBareKey "path" := by decide

/-- The name of the library needs no quotes. -/
theorem isBareKey_arbor : IsBareKey "arbor" := by decide

/-- The line of the library is plain if its path is. -/
theorem libraryLine_plain {manifest : Manifest} (hpath : manifest.HasPlainPath) :
    (libraryLine manifest.libraryPath).IsPlain := by
  obtain ⟨name, _ | path⟩ := manifest
  · exact ⟨isBareKey_arbor, version_plain.2⟩
  · have hpath : IsQuotable (withSlashes path) := (isQuotable_withSlashes path).mpr (hpath path rfl)
    exact ⟨isBareKey_arbor, List.forall_mem_cons.mpr ⟨version_plain,
      List.forall_mem_singleton.mpr ⟨isBareKey_path, hpath⟩⟩⟩

/-- A path that holds a double quote or a control character is read as another one, if the text is read at all. -/
theorem path_misread {manifest : Manifest} (hname : isPackageName manifest.packageName)
    (hpath : ¬ manifest.HasPlainPath) {document : Document} (hread : read? manifest.text = some document) :
    ¬ manifest.IsSaidBy document := by
  obtain ⟨name, _ | path⟩ := manifest
  · exact absurd (by simp [HasPlainPath]) hpath
  · have hvalue : ¬ IsQuotable (withSlashes path) := fun hvalue =>
      hpath fun _ heq => Option.some.inj heq ▸ (isQuotable_withSlashes path).mp hvalue
    rw [text_eq] at hread
    obtain ⟨text, hne, more, entries, later, rfl⟩ :=
      read?_ne_written (leadingLines_plain hname) rfl isBareKey_arbor (List.forall_mem_singleton.mpr version_plain)
        isBareKey_path (backslash_notMem_withSlashes path) hvalue hread
    intro hsaid
    have hpath := hsaid.path path rfl
    have hfound : some (Toml.text text) = some (.text (withSlashes path)) := hpath
    exact hne (Toml.text.inj (Option.some.inj hfound))

/-- A manifest says what it was asked to say iff the path of the library holds no double quote and no control
character but tabs, and then it says nothing else. -/
theorem text_says_iff (manifest : Manifest) (hname : isPackageName manifest.packageName) :
    manifest.IsSaidBy manifest.document ∧
      (read? manifest.text = some manifest.document ↔ manifest.HasPlainPath) ∧
      ((∃ document, read? manifest.text = some document ∧ manifest.IsSaidBy document) ↔ manifest.HasPlainPath) := by
  have hplain (hpath : manifest.HasPlainPath) : read? manifest.text = some manifest.document := by
    rw [text_eq, read?_written _ (documentOf_lines manifest ▸ isSound_document manifest), documentOf_lines]
    exact List.forall_mem_append.mpr
      ⟨leadingLines_plain hname, List.forall_mem_singleton.mpr (libraryLine_plain hpath)⟩
  have hmisread {document : Document} (hread : read? manifest.text = some document)
      (hsaid : manifest.IsSaidBy document) : manifest.HasPlainPath :=
    of_not_not fun hpath => path_misread hname hpath hread hsaid
  refine ⟨isSaidBy_document manifest, ⟨fun hread => hmisread hread (isSaidBy_document manifest), hplain⟩, ?_⟩
  exact ⟨fun ⟨_, hread, hsaid⟩ => hmisread hread hsaid,
    fun hpath => ⟨_, hplain hpath, isSaidBy_document manifest⟩⟩

/-- The library of a workspace, by a path with backslashes. -/
def workspaceManifest : Manifest := ⟨"client", some "..\\..\\arbor"⟩

/-- Such a path is read back with slashes, and the package and the version besides. -/
theorem workspaceManifest_says :
    isPackageName workspaceManifest.packageName ∧
      read? workspaceManifest.text = some workspaceManifest.document ∧
      workspaceManifest.document.find? ["package", "name"] = some (.text "client") ∧
      workspaceManifest.document.find? ["dependencies", "arbor", "version"] = some (.text "0.1.0") ∧
      workspaceManifest.document.find? ["dependencies", "arbor", "path"] = some (.text "../../arbor") := by
  have hname : isPackageName workspaceManifest.packageName := by decide
  have hpath : workspaceManifest.HasPlainPath := fun path heq =>
    Option.some.inj heq ▸ (isQuotable_withSlashes "..\\..\\arbor").mp (by decide)
  obtain ⟨⟨hpackage, -, hversion, hlibrary⟩, hread, -⟩ := text_says_iff workspaceManifest hname
  exact ⟨hname, hread.mpr hpath, hpackage, hversion _ rfl, hlibrary _ rfl⟩

/-! ## Keys that a path brings -/

/-- A text that needs no escapes has no backslash to replace. -/
theorem map_of_isQuotable {value : String} (hvalue : IsQuotable value) :
    (value.toList.map fun c => if c == '\\' then '/' else c) = value.toList := by
  refine (List.map_congr_left fun c hc => ?_).trans (List.map_id' _)
  have := hvalue c hc
  simp_all [isQuotable]

/-- The document of a manifest whose path brings a key. -/
def documentWith (name path key value : String) : Document :=
  (document ⟨name, none⟩).dropLast ++
    [⟨false, ["dependencies"], [(["arbor"], .table ([("version", libraryVersion), ("path", path), (key, value)].map
      textEntry))]⟩]

/-- A path with double quotes in it can bring any key. -/
theorem path_adds_key {name path key value : String} (hname : isPackageName name) (hpath : IsQuotable path)
    (hkey : IsBareKey key) (hnew : key ≠ "version" ∧ key ≠ "path") (hvalue : IsQuotable value) :
    read? (text ⟨name, some (path ++ "\", " ++ key ++ " = \"" ++ value)⟩) =
      some (documentWith name path key value) := by
  let line := WrittenLine.table "arbor" [("version", libraryVersion), ("path", path), (key, value)]
  have hline : line.IsPlain :=
    ⟨isBareKey_arbor, by simp [version_plain, isBareKey_path, hpath, hkey, hvalue]⟩
  have hwrite : (libraryLine (some (path ++ "\", " ++ key ++ " = \"" ++ value))).write [] = line.write [] := by
    simp [line, libraryLine, WrittenLine.write, writeFields, writeEntry, withSlashes, map_of_isQuotable hpath,
      map_of_isQuotable hkey.isQuotable, map_of_isQuotable hvalue, -beq_iff_eq]
  have hdocument : documentOf (leadingLines name ++ [line]) = documentWith name path key value := rfl
  have hsound : (documentWith name path key value).isSound := by
    have hapart : areApart [["version"], ["path"], [key]] := by
      simp [areApart, List.isPrefixOf_cons_cons, hnew, Ne.symm hnew.1, Ne.symm hnew.2]
    exact Bool.and_eq_true_iff.mpr
      ⟨rfl, by simpa [documentWith, document, haveSoundValues, Toml.isSound, textEntry] using hapart⟩
  have hread : read? (String.ofList ((leadingLines name ++ [line]).foldr WrittenLine.write [])) = _ :=
    read?_written (List.forall_mem_append.mpr ⟨leadingLines_plain hname, List.forall_mem_singleton.mpr hline⟩)
      (hdocument ▸ hsound)
  rw [List.foldr_append, List.foldr_cons, List.foldr_nil, hdocument] at hread
  rw [text_eq, List.foldr_append, List.foldr_cons, List.foldr_nil, hwrite, hread]

/-- A path that writes a key behind itself. -/
def quotingManifest : Manifest := ⟨"client", some "lib\", package = \"other"⟩

/-- Its manifest is read with a shorter path and with the name of another package. -/
theorem quotingManifest_misread :
    isPackageName quotingManifest.packageName ∧ ∃ document, read? quotingManifest.text = some document ∧
      document.find? ["dependencies", "arbor", "path"] = some (.text "lib") ∧
      document.find? ["dependencies", "arbor", "package"] = some (.text "other") ∧
      ¬ quotingManifest.IsSaidBy document := by
  have hplain : IsQuotable "lib" ∧ IsBareKey "package" ∧ IsQuotable "other" := by decide
  have hname : isPackageName "client" := by decide
  have hread := path_adds_key hname hplain.1 hplain.2.1 (by decide) hplain.2.2
  refine ⟨hname, _, hread, rfl, rfl, fun hsaid => ?_⟩
  have hlib : some (Toml.text "lib") = some (.text (withSlashes "lib\", package = \"other")) := hsaid.path _ rfl
  exact absurd (Toml.text.inj (Option.some.inj hlib)) (by decide)

end ServiceTree.Manifest
