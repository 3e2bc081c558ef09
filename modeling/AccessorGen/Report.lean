import AccessorGen.Marker

/-!
# Reports of a check

Checking a schema gathers errors and warnings in the order in which they are met. Reports are
appended: errors to errors, warnings to warnings.
-/

set_option autoImplicit false

namespace AccessorGen

/-- What kind of rule an issue breaks. -/
inductive IssueKind
  | invalidName
  | invalidType
  | duplicateField
  | duplicateClass
  | unknownMarker
  | markerNotAllowedOnField
  deriving DecidableEq, Repr

/-- One broken rule: what is wrong and, where it has one, the dotted name of the place. -/
structure Issue where
  message : String
  location : Option String
  kind : IssueKind
  deriving DecidableEq, Repr

def Issue.text (i : Issue) : String :=
  match i.location with
  | some location => s!"{i.message} (at {location})"
  | none => i.message

/-- Something that does no harm but is unlikely to be meant. -/
inductive Warning
  /-- A marker stands twice in one list. -/
  | repeatedMarker (marker : Marker) (location : String)
  /-- A static field carries markers. -/
  | markedStaticField (location : String)
  /-- Nothing is asked of the class or its fields. -/
  | unmarkedClass (name : String)
  /-- A remark of the caller's own. -/
  | remark (text : String)
  deriving DecidableEq, Repr

def Warning.text : Warning → String
  | .repeatedMarker marker location => s!"Marker '{marker.name}' repeated at '{location}'"
  | .markedStaticField location =>
    s!"Markers on static field '{location}' are ignored; static fields are never generated"
  | .unmarkedClass name => s!"Class '{name}' carries no markers and generates nothing"
  | .remark text => text

/-- The outcome of a check. The flag is kept beside the errors: it falls with the first of them
and never rises again. -/
structure Report where
  isValid : Bool
  errors : List Issue
  warnings : List Warning
  deriving DecidableEq, Repr

namespace Report

def empty : Report := ⟨true, [], []⟩

def addError (r : Report) (issue : Issue) : Report :=
  { r with isValid := false, errors := r.errors ++ [issue] }

def addWarning (r : Report) (warning : Warning) : Report :=
  { r with warnings := r.warnings ++ [warning] }

def merge (r s : Report) : Report :=
  ⟨r.isValid && s.isValid, r.errors ++ s.errors, r.warnings ++ s.warnings⟩

instance : Append Report := ⟨merge⟩

def error (issue : Issue) : Report := empty.addError issue

def warning (w : Warning) : Report := empty.addWarning w

/-- The report itself when the condition holds, and otherwise nothing. -/
def onlyIf (condition : Bool) (r : Report) : Report := if condition then r else empty

def concat (rs : List Report) : Report := rs.foldr merge empty

@[simp] theorem isValid_append (r s : Report) : (r ++ s).isValid = (r.isValid && s.isValid) := rfl

@[simp] theorem errors_append (r s : Report) : (r ++ s).errors = r.errors ++ s.errors := rfl

@[simp] theorem warnings_append (r s : Report) :
    (r ++ s).warnings = r.warnings ++ s.warnings := rfl

end Report

end AccessorGen
