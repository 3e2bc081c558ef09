import AccessorGen.ClassDecl
import AccessorGen.Config

/-!
# Names of units

Where the members of a class go: a type of some name in some package, and the file that belongs
to it.
-/

set_option autoImplicit false

namespace AccessorGen

/-- The name of a unit: the package, empty for the default one, and the type it declares. -/
structure UnitName where
  package : String
  simpleName : String
  deriving DecidableEq, Repr

namespace UnitName

def qualified (n : UnitName) : String :=
  if n.package = "" then n.simpleName else n.package ++ "." ++ n.simpleName

/-- The directories of the file: the segments of the package that are not empty. -/
def directories (n : UnitName) : List String := (Text.segments n.package).filter (· ≠ "")

def fileName (n : UnitName) : String := n.simpleName ++ ".java"

def path (n : UnitName) : List String := n.directories ++ [n.fileName]

def filePath (n : UnitName) : String := String.intercalate "/" n.path

end UnitName

/-- The simple name of the type that holds the members: the class itself, or its local name with
underscores for dots and the suffix behind it. -/
def Strategy.unitSimpleName (strategy : Strategy) (c : ClassDecl) : String :=
  match strategy with
  | .augment => c.simpleName
  | .companion suffix => Text.flattenDots c.localName ++ suffix

def ClassDecl.unitName (c : ClassDecl) (strategy : Strategy) : UnitName :=
  ⟨c.packageName, strategy.unitSimpleName c⟩

end AccessorGen
