import AccessorGen.Config
import AccessorGen.Error
import AccessorGen.Java.Method
import AccessorGen.Request

/-!
# Members

From a request to the text of the member. The same rules serve both strategies: a member of the
class itself reaches its fields through `this`, a companion's helper is static and takes the
object as its first parameter.

The object that a factory builds and the object that a helper receives need a name that no
instance field has, because fields become parameters of the same method.
-/

set_option autoImplicit false

namespace AccessorGen

/-- A generated member. -/
structure Member where
  kind : MemberKind
  /-- The name of the method. -/
  name : String
  /-- The position of the field among the instance fields; zero for members of the whole class. -/
  ordinal : Nat
  /-- The text, indented one level, without a line feed at the end. -/
  text : String
  deriving DecidableEq, Repr

/-- The name itself, or the name behind underscores until it is none of those taken, with at most
`steps` underscores. -/
def freshFrom (taken : List String) : Nat → String → String
  | 0, name => name
  | steps + 1, name => if taken.contains name then freshFrom taken steps ("_" ++ name) else name

/-- The name of the object that members build or receive: `instance`, behind underscores as long
as an instance field has that name. No field can be met twice, so as many underscores as there are
fields are enough. -/
def ClassDecl.objectName (c : ClassDecl) : String :=
  freshFrom c.instanceNames c.instanceNames.length "instance"

namespace Config

def typeName (config : Config) (c : ClassDecl) : String :=
  if config.strategy.isCompanion then c.localName else c.simpleName

def receiver (config : Config) (c : ClassDecl) : String :=
  if config.strategy.isCompanion then c.objectName else "this"

/-- The parameter through which a companion's helper receives the object. -/
def receiverParameters (config : Config) (c : ClassDecl) : List Java.Parameter :=
  if config.strategy.isCompanion then [⟨config.typeName c, c.objectName⟩] else []

/-- The factory that takes the fields and returns a new object holding them. -/
def factory (config : Config) (c : ClassDecl) (fields : List FieldDecl) : Java.Method where
  summary := "Creates a new instance of " ++ c.simpleName ++ " with all fields initialized."
  isStatic := true
  returnType := config.typeName c
  name := config.factoryName
  parameters := fields.map fun f => ⟨f.type, f.name⟩
  layout := .stacked
  body :=
    .declareNew (config.typeName c) c.objectName ::
      fields.map (fun f => .assign c.objectName f.name f.name) ++
      [.returnVariable c.objectName]

def reader (config : Config) (c : ClassDecl) (f : FieldDecl) : Java.Method where
  summary := "Gets the value of " ++ f.name ++ "."
  isStatic := config.strategy.isCompanion
  returnType := f.type
  name := f.readerName
  parameters := config.receiverParameters c
  body := [.returnField (config.receiver c) f.name]

def writer (config : Config) (c : ClassDecl) (f : FieldDecl) : Java.Method where
  summary := "Sets the value of " ++ f.name ++ "."
  isStatic := config.strategy.isCompanion
  returnType := "void"
  name := f.writerName
  parameters := config.receiverParameters c ++ [⟨f.type, f.name⟩]
  body := [.assign (config.receiver c) f.name f.name]

/-- The statements that append the fields, a comma between each two. -/
def appendFields (receiver : String) : List FieldDecl → List Java.Statement
  | [] => []
  | [f] => [.appendField (f.name ++ "=") receiver f.name f.isCharArray]
  | f :: rest =>
    .appendField (f.name ++ "=") receiver f.name f.isCharArray :: .appendText ", " ::
      appendFields receiver rest

def stringifierName : String := "toString"

/-- The method that returns the class's name and, in braces, each field with its value. -/
def stringifier (config : Config) (c : ClassDecl) (fields : List FieldDecl) : Java.Method where
  summary := "Returns a string representation of this " ++ c.simpleName ++ " instance."
  isOverride := !config.strategy.isCompanion
  isStatic := config.strategy.isCompanion
  returnType := "String"
  name := stringifierName
  parameters := config.receiverParameters c
  body :=
    .startString (c.simpleName ++ "\x7b") ::
      appendFields (config.receiver c) fields ++
      [.appendText "\x7d", .returnString]

def method (config : Config) (c : ClassDecl) : Request → Java.Method
  | .constructor fields => config.factory c fields
  | .read f => config.reader c f
  | .write f => config.writer c f
  | .stringify fields => config.stringifier c fields

/-- The position of the field among the instance fields of the class, which are looked up by name.
Fails when there is none of that name, and when the field is private but the member would stand
outside the class. -/
def locate (config : Config) (c : ClassDecl) (f : FieldDecl) : Except Error Nat :=
  match c.instanceIndex? f.name with
  | none => .error (.unknownField c.qualifiedName f.name)
  | some i =>
    if config.strategy.isCompanion && f.isPrivate then
      .error (.inaccessibleField c.qualifiedName f.name)
    else .ok i

/-- The ordinal of the requested member. The first of its fields that cannot be located is the
error. -/
def ordinal (config : Config) (c : ClassDecl) : Request → Except Error Nat
  | .read f | .write f => config.locate c f
  | .constructor fields | .stringify fields => do
    let _ ← fields.mapM (config.locate c)
    return 0

def generateMember (config : Config) (c : ClassDecl) (r : Request) : Except Error Member := do
  let ordinal ← config.ordinal c r
  let method := config.method c r
  return ⟨r.kind, method.name, ordinal, method.render config.indent config.emitJavadoc⟩

end Config

end AccessorGen
