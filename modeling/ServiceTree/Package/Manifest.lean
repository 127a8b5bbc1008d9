import ServiceTree.Plan.Error

/-!
# Manifests of client packages

An emitted client is a package of its own, whose one dependency is the library that clients are built
on. Inside a workspace that library is found by its path, elsewhere by its version.
-/

namespace ServiceTree

/-- What a manifest depends on the choice of. -/
structure Manifest where
  packageName : String
  /-- Where the library lies, seen from the package. -/
  libraryPath : Option String
  deriving DecidableEq, Repr

namespace Manifest

/-- The version of the library that clients depend on. -/
def libraryVersion : String := "0.1.0"

/-- A path with slashes alone between its parts. -/
def withSlashes (path : String) : String :=
  String.ofList (path.toList.map fun c => if c == '\\' then '/' else c)

/-- The line that names the library. -/
def dependency : Option String → String
  | some path =>
    "arbor = \x7b version = \"" ++ libraryVersion ++ "\", path = \"" ++ withSlashes path ++ "\" \x7d"
  | none => "arbor = \"" ++ libraryVersion ++ "\""

/-- The text of a manifest. -/
def text (manifest : Manifest) : String :=
  "\n".intercalate
    ["# This file was automatically generated by arbor-gen.",
      "# Do not edit manually - changes will be overwritten.", "", "[package]",
      "name = \"" ++ manifest.packageName ++ "\"", "version = \"0.1.0\"", "edition = \"2024\"",
      "license = \"AGPL-3.0-only\"", "description = \"Generated client for an arbor service model\"",
      "", "[lib]", "path = \"src/lib.rs\"", "", "[dependencies]", dependency manifest.libraryPath, ""]

/-- Whether a text can name a package: letters, digits, `-` and `_`, a letter first. -/
def isPackageName (name : String) : Bool :=
  name.toList.head?.any Char.isAlpha &&
    name.toList.all fun c => c.isAlphanum || c == '-' || c == '_'

/-- The text of a manifest, if its package can be named so. -/
def render (manifest : Manifest) : Except GenerationError String :=
  if isPackageName manifest.packageName then .ok manifest.text
  else .error (.configuration ("Invalid crate name '" ++ manifest.packageName ++
    "': use letters, digits, '-' and '_', starting with a letter"))

/-- The name of manifest files. -/
def fileName : String := "Cargo.toml"

end Manifest

end ServiceTree
