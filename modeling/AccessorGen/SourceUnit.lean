import AccessorGen.Member
import AccessorGen.UnitName

/-!
# Source units

The members of a class, brought into the order of emission and set into the type that holds them.

Each member occupies a slot, its kind and its ordinal. Slots order the members, and no two members
may share one. A class without members has no unit: there is never an empty shell.
-/

set_option autoImplicit false

namespace AccessorGen

namespace Member

/-- Whether the first member's slot is not behind the second's: by kind, then by ordinal. -/
def slotLe (a b : Member) : Bool :=
  a.kind.rank < b.kind.rank || (a.kind == b.kind && a.ordinal ≤ b.ordinal)

def sameSlot (a b : Member) : Bool := a.kind == b.kind && a.ordinal == b.ordinal

/-- The members by rising slot; members of the same slot keep their order. -/
def arrange (ms : List Member) : List Member := ms.mergeSort slotLe

/-- The first member whose slot is also that of the member before it. -/
def firstRepeated? : List Member → Option Member
  | a :: b :: rest => if a.sameSlot b then some b else firstRepeated? (b :: rest)
  | _ => none

end Member

/-- The generated source of one class. -/
structure SourceUnit where
  name : UnitName
  /-- The members in the order of emission. -/
  members : List Member
  source : String
  deriving DecidableEq, Repr

def SourceUnit.qualifiedName (u : SourceUnit) : String := u.name.qualified

def generatedMark : String := "@javax.annotation.processing.Generated(\"minilombok\")"

namespace Config

def typeHeader (config : Config) (c : ClassDecl) : String :=
  match config.strategy with
  | .augment =>
    "public class " ++ c.simpleName ++
      (match c.superclass with
        | some type => " extends " ++ type
        | none => "") ++
      (if c.interfaces.isEmpty then "" else " implements " ++ String.intercalate ", " c.interfaces) ++
      " \x7b"
  | .companion _ =>
    "public final class " ++ config.strategy.unitSimpleName c ++ " \x7b"

/-- What stands above the type: the package, the comment and the annotation. -/
def preamble (config : Config) (c : ClassDecl) : String :=
  (if c.packageName = "" then "" else "package " ++ c.packageName ++ ";\n\n") ++
    (if config.headerComment = "" then "" else "// " ++ config.headerComment ++ "\n") ++
    (if config.markGenerated then generatedMark ++ "\n" else "")

/-- What stands in the type before the members: the declared fields of the class itself, the
private constructor that keeps a companion from being instantiated. -/
def leadingSections (config : Config) (c : ClassDecl) : List String :=
  match config.strategy with
  | .augment =>
    if c.fields.isEmpty then []
    else [String.intercalate "\n" (c.fields.map fun f => config.indent ++ f.text)]
  | .companion _ =>
    [config.indent ++ "private " ++ config.strategy.unitSimpleName c ++ "() \x7b\n" ++
      config.indent ++ "\x7d"]

/-- The source of the unit: an empty line stands between each two of its sections. -/
def render (config : Config) (c : ClassDecl) (members : List Member) : String :=
  config.preamble c ++ config.typeHeader c ++ "\n" ++
    String.intercalate "\n\n" (config.leadingSections c ++ members.map (·.text)) ++ "\n\x7d\n"

/-- The unit of the class with these members, given in any order. -/
def composeUnit (config : Config) (c : ClassDecl) (members : List Member) :
    Except Error (Option SourceUnit) :=
  if members.isEmpty then .ok none
  else if c.isNested && !config.strategy.isCompanion then .error (.nestedClass c.qualifiedName)
  else
    let arranged := Member.arrange members
    match Member.firstRepeated? arranged with
    | some m => .error (.duplicateMember c.qualifiedName m.name)
    | none => .ok (some ⟨c.unitName config.strategy, arranged, config.render c arranged⟩)

/-- The unit of the class with all that it asks for; none if it asks for nothing. -/
def classUnit (config : Config) (c : ClassDecl) : Except Error (Option SourceUnit) := do
  config.composeUnit c (← c.requests.mapM (config.generateMember c))

end Config

end AccessorGen
