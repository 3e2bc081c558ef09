import AccessorGen.Config

/-!
# Schemas

What a schema file says: the settings of the round, if any, and the classes with their fields. The
names of markers are still text here, since a schema may name a marker that does not exist.
-/

set_option autoImplicit false

namespace AccessorGen

/-- A field as a schema describes it. -/
structure FieldSpec where
  name : String
  type : String
  isStatic : Option Bool := none
  modifiers : Option (List String) := none
  initializer : Option String := none
  markers : List String := []
  deriving DecidableEq, Repr

/-- Whether the field is static, said by the switch or by a modifier. -/
def FieldSpec.declaredStatic (f : FieldSpec) : Bool :=
  f.isStatic.getD false || (f.modifiers.getD []).contains "static"

/-- A class as a schema describes it. -/
structure ClassSpec where
  /-- The qualified name. -/
  name : String
  package : Option String := none
  markers : List String := []
  superclass : Option String := none
  interfaces : List String := []
  fields : List FieldSpec := []
  deriving DecidableEq, Repr

/-- The dotted name of a field of the class, by which issues refer to it. -/
def ClassSpec.fieldLocation (c : ClassSpec) (f : FieldSpec) : String := c.name ++ "." ++ f.name

/-- One schema file. -/
structure Schema where
  config : Option Config := none
  classes : List ClassSpec := []
  deriving DecidableEq, Repr

end AccessorGen
