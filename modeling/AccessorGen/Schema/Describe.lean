import AccessorGen.ClassDecl
import AccessorGen.Error
import AccessorGen.Log
import AccessorGen.Schema.Check

/-!
# From schemas to classes

What the schemas say is turned into the classes that generation works on. The classes of all files
are checked together first, and any error refuses the whole batch. The conversion itself reads
the marker names a second time and fails on an unknown one by itself, so it is safe on a schema
that was not checked.
-/

set_option autoImplicit false

namespace AccessorGen

/-- The markers of those names. The first unknown name is the error. -/
def readMarkers (location : String) (names : List String) : Except Error (List Marker) :=
  names.mapM fun name =>
    match Marker.ofName? name with
    | some m => .ok m
    | none =>
      .error (.validation [⟨"Unknown marker: " ++ name, some location, .unknownMarker⟩])

/-- The modifiers of the field: `private` where none are given, with `static` behind the others if
only the switch says so. -/
def FieldSpec.allModifiers (f : FieldSpec) : List String :=
  let modifiers := f.modifiers.getD ["private"]
  if f.declaredStatic && !modifiers.contains "static" then modifiers ++ ["static"] else modifiers

namespace ClassSpec

def describeField (c : ClassSpec) (f : FieldSpec) : Except Error FieldDecl := do
  let markers ← readMarkers (c.fieldLocation f) f.markers
  let field : FieldDecl := { name := f.name, type := f.type, initializer := f.initializer }
  return markers.foldl FieldDecl.mark (field.withModifiers f.allModifiers)

def describe (c : ClassSpec) : Except Error ClassDecl := do
  let markers ← readMarkers c.name c.markers
  let fields ← c.fields.mapM c.describeField
  return { ClassDecl.ofName c.name with
    package := c.package
    superclass := c.superclass
    interfaces := c.interfaces
    fields
    markers := .ofList markers }

end ClassSpec

/-- The classes of all files, in order. -/
def allClasses (schemas : List Schema) : List ClassSpec := schemas.flatMap (·.classes)

/-- The described classes of all files together, when the check finds no error. -/
def describeAll (schemas : List Schema) : Except Error (List ClassDecl) :=
  let report := checkClasses (allClasses schemas)
  if report.isValid then (allClasses schemas).mapM (·.describe)
  else .error (.validation report.errors)

def Schema.describe (s : Schema) : Except Error (List ClassDecl) := describeAll [s]

/-- What describing the schemas leaves in the log: the warnings, errors or not. -/
def describeLog (schemas : List Schema) : List LogEntry :=
  (checkClasses (allClasses schemas)).warnings.map .warned

end AccessorGen
