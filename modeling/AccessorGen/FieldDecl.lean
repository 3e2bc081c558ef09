import AccessorGen.Marker
import AccessorGen.Text.Blank
import AccessorGen.Text.Capital

/-!
# Declared fields

A field as its class declares it, with what its own markers ask for. The type is text and is
emitted as it was written; only two questions are ever asked of it, and both disregard the blanks
around it.
-/

set_option autoImplicit false

namespace AccessorGen

/-- A field of a class. -/
structure FieldDecl where
  name : String
  type : String
  isStatic : Bool := false
  /-- The declared modifiers, written out again when the class itself is written out. -/
  modifiers : List String := ["private"]
  /-- The initial value, written out again beside the modifiers. -/
  initializer : Option String := none
  /-- The field asks for a read accessor of its own. -/
  readMarked : Bool := false
  /-- The field asks for a write accessor of its own. -/
  writeMarked : Bool := false
  deriving DecidableEq, Repr

namespace FieldDecl

/-- The field with one more marker. Markers that have no meaning on a field leave it as it is. -/
def mark (f : FieldDecl) : Marker → FieldDecl
  | .getter => { f with readMarked := true }
  | .setter => { f with writeMarked := true }
  | .allArgsConstructor | .stringForm => f

/-- The field with these modifiers, of which `static` alone decides whether it is static. -/
def withModifiers (f : FieldDecl) (modifiers : List String) : FieldDecl :=
  { f with modifiers, isStatic := modifiers.contains "static" }

/-- Whether one of the modifiers is `private`. -/
def isPrivate (f : FieldDecl) : Bool := f.modifiers.contains "private"

/-- Whether the type is the primitive truth value; its boxed form is a type like any other. -/
def isBoolean (f : FieldDecl) : Bool := Text.trim f.type == "boolean"

/-- Whether the type is the array of characters, whose own conversion to a string fails on a null
reference. -/
def isCharArray (f : FieldDecl) : Bool := Text.trim f.type == "char[]"

/-- The name of the read accessor: `getAge`, and `isActive` for a truth value. -/
def readerName (f : FieldDecl) : String :=
  (if f.isBoolean then "is" else "get") ++ Text.capitalize f.name

/-- The name of the write accessor: `setAge`. -/
def writerName (f : FieldDecl) : String := "set" ++ Text.capitalize f.name

/-- The declaration as it stands in the class body, without its indentation. -/
def text (f : FieldDecl) : String :=
  String.join (f.modifiers.map (· ++ " ")) ++ f.type ++ " " ++ f.name ++
    (match f.initializer with
      | some value => " = " ++ value
      | none => "") ++ ";"

end FieldDecl

end AccessorGen
