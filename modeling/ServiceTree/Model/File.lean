import ServiceTree.Json.Reader
import ServiceTree.Model.Document
import ServiceTree.Model.Validation
import ServiceTree.Storage.Path
import ServiceTree.Unicode.Letter
import ServiceTree.Yaml.Reader

/-!
# Model files

A model file is read in the format that its extension names, and only a model that keeps every rule is
handed out.
-/

namespace ServiceTree.Model

/-- A model that has been read, if it keeps every rule. -/
def checked (error : ModelError) (model : Option Model) : Except ModelError Model :=
  match model with
  | none => .error error
  | some model => model.validate.map fun _ => model

/-- The model that a text in the object notation holds. -/
def ofJsonText (text : String) : Except ModelError Model :=
  checked .malformedJson ((Json.outline? text.toList).bind (ofOutline? .json))

/-- The model that an indented text holds. -/
def ofYamlText (text : String) : Except ModelError Model :=
  checked .malformedYaml ((Yaml.outline? text.toList).bind (ofOutline? .yaml))

/-- How the text of a file of some extension is read. -/
def reader? (extension : String) : Option (String → Except ModelError Model) :=
  if extension == "json" then some ofJsonText
  else if extension == "yaml" || extension == "yml" then some ofYamlText
  else none

/-- The model in a file whose content is given as far as the file can be read. -/
def ofFile (path : FilePath) (content : Option ByteArray) : Except ModelError Model :=
  let extension := Unicode.lowerText path.extension
  match reader? extension with
  | none => .error (.unsupportedFormat extension)
  | some read =>
    match content.bind String.fromUTF8? with
    | none => .error .unreadable
    | some text => read text

end ServiceTree.Model
