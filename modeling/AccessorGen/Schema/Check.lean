import AccessorGen.Report
import AccessorGen.Schema.Basic
import AccessorGen.Text.Blank
import AccessorGen.Text.Dotted
import AccessorGen.Text.Letter

/-!
# Checking schemas

A schema is checked before anything is generated from it: names must be identifiers, nothing is
declared twice, and markers must exist and stand where they make sense. Every rule reports on its
own, and the report of a class is the reports of its rules in the order in which the class is
written: name, markers, supertypes, then field by field.
-/

set_option autoImplicit false

namespace AccessorGen

/-- Words that cannot name a class, a package or a field. -/
def reservedWords : List String := [
  "abstract", "assert", "boolean", "break", "byte", "case", "catch", "char", "class", "const",
  "continue", "default", "do", "double", "else", "enum", "extends", "final", "finally",
  "float", "for", "goto", "if", "implements", "import", "instanceof", "int", "interface",
  "long", "native", "new", "package", "private", "protected", "public", "return", "short",
  "static", "strictfp", "super", "switch", "synchronized", "this", "throw", "throws",
  "transient", "try", "void", "volatile", "while", "true", "false", "null", "_"]

def startsIdentifier (c : Char) : Bool := Text.isAlphabetic c || c == '_' || c == '$'

def continuesIdentifier (c : Char) : Bool := Text.isAlphanumeric c || c == '_' || c == '$'

/-- Whether the characters have the form of an identifier, be it a reserved word or not. -/
def hasIdentifierForm : List Char → Bool
  | [] => false
  | c :: rest => startsIdentifier c && rest.all continuesIdentifier

/-- Checks that the text, which stands for `what`, is an identifier and not reserved. A text can
fail on both counts. -/
def checkIdentifier (what location text : String) : Report :=
  if text = "" then .error ⟨what ++ " cannot be empty", some location, .invalidName⟩
  else
    Report.onlyIf (!hasIdentifierForm text.toList)
        (.error ⟨what ++ " '" ++ text ++ "' is not a valid identifier", some location,
          .invalidName⟩) ++
      Report.onlyIf (reservedWords.contains text)
        (.error ⟨what ++ " '" ++ text ++ "' is a reserved word", some location, .invalidName⟩)

/-- Whether the package can hold a class of that name: the default package any, another one those
whose name goes on after the package and a dot. -/
def packageEncloses (package name : String) : Bool :=
  package == "" ||
    match Text.afterPrefix? package name with
    | some rest =>
      match rest.toList with
      | '.' :: _ :: _ => true
      | _ => false
    | none => false

/-- Checks the class's name, segment by segment, and that its package encloses it. -/
def ClassSpec.checkName (c : ClassSpec) : Report :=
  if c.name = "" then .error ⟨"Class name cannot be empty", none, .invalidName⟩
  else
    .concat ((Text.segments c.name).map (checkIdentifier "Class name segment" c.name)) ++
      match c.package with
      | none => .empty
      | some package =>
        Report.onlyIf (!packageEncloses package c.name)
          (.error ⟨"Package '" ++ package ++ "' does not enclose class '" ++ c.name ++ "'",
            some (c.name ++ ".package"), .invalidName⟩)

/-- Checks that the text, if it names a marker, names one that may stand here and is not among
those already `seen`. -/
def checkMarker (location : String) (onField : Bool) (seen : List Marker) (name : String) :
    Report :=
  match Marker.ofName? name with
  | none => .error ⟨"Unknown marker: " ++ name, some location, .unknownMarker⟩
  | some m =>
    if onField && !m.fitsField then
      .error ⟨"Marker '" ++ m.name ++ "' applies to classes only", some location,
        .markerNotAllowedOnField⟩
    else Report.onlyIf (seen.contains m) (.warning (.repeatedMarker m location))

/-- The markers that count after one more name: an unknown, misplaced or repeated one adds
nothing. -/
def recognize (onField : Bool) (seen : List Marker) (name : String) : List Marker :=
  match Marker.ofName? name with
  | none => seen
  | some m =>
    if (onField && !m.fitsField) || seen.contains m then seen else seen ++ [m]

def recognizedMarkers (onField : Bool) (names : List String) : List Marker :=
  names.foldl (recognize onField) []

/-- Checks a list of marker names after those `seen` have been recognized. -/
def checkMarkersFrom (location : String) (onField : Bool) (seen : List Marker) :
    List String → Report
  | [] => .empty
  | name :: rest =>
    checkMarker location onField seen name ++
      checkMarkersFrom location onField (recognize onField seen name) rest

def checkMarkers (location : String) (onField : Bool) (names : List String) : Report :=
  checkMarkersFrom location onField [] names

namespace ClassSpec

def checkSupertypes (c : ClassSpec) : Report :=
  .concat ((c.superclass.toList ++ c.interfaces).map fun type =>
    Report.onlyIf (Text.isBlankText type)
      (.error ⟨"Class '" ++ c.name ++ "' names an empty supertype", some c.name, .invalidType⟩))

/-- Checks a field of the class, given the names of the fields before it. -/
def checkField (c : ClassSpec) (seen : List String) (f : FieldSpec) : Report :=
  let location := c.fieldLocation f
  Report.onlyIf (seen.contains f.name)
      (.error ⟨"Duplicate field name: " ++ f.name, some location, .duplicateField⟩) ++
    checkIdentifier "Field" location f.name ++
    Report.onlyIf (Text.isBlankText f.type)
      (.error ⟨"Field '" ++ f.name ++ "' has no type", some location, .invalidType⟩) ++
    checkMarkers location true f.markers ++
    Report.onlyIf (f.declaredStatic && !(recognizedMarkers true f.markers).isEmpty)
      (.warning (.markedStaticField location))

/-- Checks the fields of the class after those of the names `seen`. -/
def checkFieldsFrom (c : ClassSpec) (seen : List String) : List FieldSpec → Report
  | [] => .empty
  | f :: rest => c.checkField seen f ++ c.checkFieldsFrom (f.name :: seen) rest

/-- Whether a marker counts, on the class or on a field that is not static. -/
def isMarked (c : ClassSpec) : Bool :=
  !(recognizedMarkers false c.markers).isEmpty ||
    c.fields.any fun f => !f.declaredStatic && !(recognizedMarkers true f.markers).isEmpty

def check (c : ClassSpec) : Report :=
  c.checkName ++ checkMarkers c.name false c.markers ++ c.checkSupertypes ++
    c.checkFieldsFrom [] c.fields ++
    Report.onlyIf (!c.isMarked) (.warning (.unmarkedClass c.name))

end ClassSpec

/-- Checks the classes after those of the names `seen`. -/
def checkClassesFrom (seen : List String) : List ClassSpec → Report
  | [] => .empty
  | c :: rest =>
    Report.onlyIf (seen.contains c.name)
        (.error ⟨"Duplicate class: " ++ c.name, some c.name, .duplicateClass⟩) ++
      c.check ++ checkClassesFrom (c.name :: seen) rest

def checkClasses (classes : List ClassSpec) : Report := checkClassesFrom [] classes

end AccessorGen
