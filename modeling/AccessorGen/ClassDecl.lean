import AccessorGen.FieldDecl
import AccessorGen.Text.Dotted

/-!
# Described classes

A class as the host describes it: its names, its supertypes, every declared field, and the markers
on the class. Static fields are declared but never take part in generation, so all that generation
asks goes through `instanceFields`.

The qualified name of a class is the name of its package, then the names of the classes around it,
then its own. Where no package is given it is taken to be all but the last segment, which is right
exactly for a class that is not nested.
-/

set_option autoImplicit false

namespace AccessorGen

/-- A class and what is asked of it. -/
structure ClassDecl where
  qualifiedName : String
  simpleName : String
  /-- The declaring package, where it cannot be read off the qualified name. -/
  package : Option String := none
  superclass : Option String := none
  interfaces : List String := []
  /-- All declared fields in the order of declaration, static ones included. -/
  fields : List FieldDecl := []
  markers : MarkerSet := {}
  deriving DecidableEq, Repr

namespace ClassDecl

/-- A bare class of that name; its simple name is the last segment. -/
def ofName (qualifiedName : String) : ClassDecl :=
  { qualifiedName, simpleName := Text.lastSegment qualifiedName }

/-- The fields that take part in generation, in the order of declaration. -/
def instanceFields (c : ClassDecl) : List FieldDecl := c.fields.filter fun f => !f.isStatic

def instanceNames (c : ClassDecl) : List String := c.instanceFields.map (·.name)

def instanceIndex? (c : ClassDecl) (name : String) : Option Nat := c.instanceNames.idxOf? name

/-- The declaring package, empty for the default package. -/
def packageName (c : ClassDecl) : String :=
  match c.package with
  | some package => package
  | none =>
    ((Text.beforeSuffix? c.simpleName c.qualifiedName).bind (Text.beforeSuffix? ".")).getD ""

/-- The name relative to the package: `Outer.Inner` for a nested class. A class whose qualified
name does not begin with its package goes by its simple name. -/
def localName (c : ClassDecl) : String :=
  if c.packageName = "" then c.qualifiedName
  else
    ((Text.afterPrefix? c.packageName c.qualifiedName).bind (Text.afterPrefix? ".")).getD
      c.simpleName

def isNested (c : ClassDecl) : Bool := c.localName.toList.contains '.'

/-- Whether the class or one of its instance fields carries a marker. -/
def isMarked (c : ClassDecl) : Bool :=
  c.markers.any || c.instanceFields.any fun f => f.readMarked || f.writeMarked

end ClassDecl

end AccessorGen
