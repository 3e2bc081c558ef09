import AccessorGen.Datum.Decode
import AccessorGen.Error
import AccessorGen.Log
import AccessorGen.Toml.Document

/-!
# Loading schemas

A schema file is a TOML document in the shape of a schema. Where its text comes from is a
parameter: a file tree, or what was read beforehand.
-/

set_option autoImplicit false

namespace AccessorGen

/-- A source of texts by path. -/
abbrev Reader := String → Except FileFault String

namespace Schema

def parse (text : String) : Except Error Schema :=
  match (Toml.parse? text).bind (Schema.ofDatum? .toml) with
  | some s => .ok s
  | none => .error .malformedSchema

def load (read : Reader) (path : String) : Except Error Schema :=
  match read path with
  | .error fault => .error (.unreadableSchema path fault)
  | .ok text => parse text

/-- The schemas in the files at the paths. The first that fails is the error. -/
def loadAll (read : Reader) (paths : List String) : Except Error (List Schema) :=
  paths.mapM (load read)

/-- What loading leaves in the log, up to the first file that fails. -/
def loadLog (read : Reader) : List String → List LogEntry
  | [] => []
  | path :: rest =>
    match load read path with
    | .error _ => []
    | .ok s => .parsed s.classes.length path :: loadLog read rest

end Schema

def Config.parse? (text : String) : Option Config :=
  (Toml.parse? text).bind (Config.ofDatum? .toml)

end AccessorGen
