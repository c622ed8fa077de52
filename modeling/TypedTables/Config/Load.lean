import TypedTables.Config.Codec
import TypedTables.Config.Environment
import TypedTables.Files.Path
import TypedTables.Json.Reader
import TypedTables.Toml.Reader
import TypedTables.Yaml.Reader

/-!
# Loading settings

The extension of a configuration file says how its text is to be read.  References to the
environment are filled in first; the settings are checked last.
-/

namespace TypedTables.Config

open TypedTables.Text

/-- The notation that an extension stands for; without an extension it is YAML. -/
def notationOf (extension : Option String) : Outcome Notation :=
  match extension.map asciiLower with
  | some "json" => .ok .json
  | some "toml" => .ok .toml
  | some "yaml" => .ok .yaml
  | some "yml" => .ok .yaml
  | none => .ok .yaml
  | some other => .error (.unsupportedConfig other)

def readDocument? (written : Notation) (text : String) : Option Document :=
  match written with
  | .json => Json.read? text
  | .toml => Toml.read? text
  | .yaml => Yaml.read? text

def readText (written : Notation) (text : String) : Outcome Settings :=
  match (readDocument? written text).bind readSettings with
  | some settings => .ok settings
  | none => .error (.invalidConfig written)

/-- Loads the settings that a file holds, given its text if it can be read. -/
def load (value? : String → Option String) (path : String) (text : Option String) :
    Outcome Settings :=
  match text with
  | none => .error (.unreadableConfig path)
  | some content => do
    let written ← notationOf (Files.extension? path)
    let settings ← readText written (substituteEnvironment value? content)
    settings.validate
    return settings

end TypedTables.Config
