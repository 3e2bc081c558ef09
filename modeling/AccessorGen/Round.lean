import AccessorGen.Log
import AccessorGen.SourceUnit

/-!
# Rounds

A round generates the units of a batch of classes, all or none. Two classes of a round may not go
to the same unit. The log of a round follows the round class by class and ends where it does.
-/

set_option autoImplicit false

namespace AccessorGen.Config

/-- The unit of the next class of a round in which the names `taken` are already used. -/
def generateNext (config : Config) (taken : List UnitName) (c : ClassDecl) :
    Except Error (Option SourceUnit) := do
  match ← config.classUnit c with
  | none => return none
  | some u =>
    if taken.contains u.name then .error (.duplicateUnit u.qualifiedName) else return some u

/-- The names used once the unit of another class has joined the round. -/
def takenAfter (taken : List UnitName) : Option SourceUnit → List UnitName
  | none => taken
  | some u => u.name :: taken

/-- The units of the classes in a round in which the names `taken` are already used. -/
def generateFrom (config : Config) (taken : List UnitName) :
    List ClassDecl → Except Error (List SourceUnit)
  | [] => .ok []
  | c :: rest => do
    let unit ← config.generateNext taken c
    let units ← config.generateFrom (takenAfter taken unit) rest
    return unit.toList ++ units

/-- The units of a round, in the order of their classes. The first class that fails fails the
round. -/
def roundUnits (config : Config) (classes : List ClassDecl) : Except Error (List SourceUnit) :=
  config.generateFrom [] classes

def compositionLog (c : ClassDecl) : Except Error (Option SourceUnit) → List LogEntry
  | .error _ => []
  | .ok none => [.skipped c.qualifiedName]
  | .ok (some u) =>
    [.composed c.qualifiedName u.qualifiedName u.members.length u.source.utf8ByteSize]

def requestLog (c : ClassDecl) : List LogEntry :=
  [.requested c.qualifiedName c.requests.length]

def classLog (config : Config) (c : ClassDecl) : List LogEntry :=
  requestLog c ++ compositionLog c (config.classUnit c)

/-- The log of generating the classes one after the other, up to the first that fails. -/
def classLogs (config : Config) (taken : List UnitName) : List ClassDecl → List LogEntry
  | [] => []
  | c :: rest =>
    config.classLog c ++
      match config.generateNext taken c with
      | .error _ => []
      | .ok unit => config.classLogs (takenAfter taken unit) rest

/-- The log of a round, which closes with a count when all of it is generated. -/
def roundLog (config : Config) (classes : List ClassDecl) : List LogEntry :=
  config.classLogs [] classes ++
    match config.roundUnits classes with
    | .error _ => []
    | .ok units => [.generated units.length classes.length]

end AccessorGen.Config
