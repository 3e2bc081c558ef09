/-!
# Configuration of a round

What every class of a round has in common: where its members go and how their text looks.
-/

set_option autoImplicit false

namespace AccessorGen

/-- Where the members of a class go. -/
inductive Strategy
  /-- The class itself is written out again with the members added. -/
  | augment
  /-- A separate class of static helpers is written, its name ending in `suffix`. -/
  | companion (suffix : String)
  deriving DecidableEq, Repr

namespace Strategy

def defaultSuffix : String := "Lombok"

def isCompanion : Strategy → Bool
  | .companion _ => true
  | .augment => false

end Strategy

/-- The settings of a round. The defaults are those of an empty configuration table. -/
structure Config where
  strategy : Strategy := .augment
  /-- The name of the factory that takes every field. -/
  factoryName : String := "create"
  /-- One level of indentation. -/
  indent : String := "    "
  /-- Whether a documentation block stands above each member. -/
  emitJavadoc : Bool := true
  /-- Whether the emitted class carries the annotation of generated code. -/
  markGenerated : Bool := false
  /-- The line comment at the top; none is written if it is empty. -/
  headerComment : String := "Generated by MiniLombok"
  deriving DecidableEq, Repr

end AccessorGen
