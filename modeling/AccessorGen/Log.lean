import AccessorGen.Report

/-!
# The log of a run

A run leaves a trail of what it did. The entries are values; how an entry reads is decided here
alone.
-/

set_option autoImplicit false

namespace AccessorGen

/-- One thing that a run did. -/
inductive LogEntry
  /-- A schema file was read and holds so many classes. -/
  | parsed (classes : Nat) (path : String)
  /-- Checking the schemas raised a warning. -/
  | warned (warning : Warning)
  /-- A class asks for so many members. -/
  | requested (className : String) (requests : Nat)
  /-- A class asks for nothing and has no unit. -/
  | skipped (className : String)
  /-- The unit of a class is complete. -/
  | composed (className unit : String) (members bytes : Nat)
  /-- A whole round is generated. -/
  | generated (units classes : Nat)
  /-- A unit is handed to its destination. -/
  | writing (unit : String)
  /-- A file was written. -/
  | wrote (path : String)
  deriving DecidableEq, Repr

namespace LogEntry

def level : LogEntry → String
  | .warned _ => "WARN"
  | .generated .. => "INFO"
  | _ => "DEBUG"

def text : LogEntry → String
  | .parsed classes path => s!"Parsed {classes} class(es) from {path}"
  | .warned warning => warning.text
  | .requested className requests => s!"Resolver: {className} -> {requests} request(s)"
  | .skipped className => s!"Assembler: {className} has no members, skipping"
  | .composed className unit members bytes =>
    s!"Assembler: {className} -> {unit} ({members} member(s), {bytes} bytes)"
  | .generated units classes => s!"Generated {units} unit(s) from {classes} class(es)"
  | .writing unit => s!"Writing unit {unit}"
  | .wrote path => s!"DirectorySink: wrote {path}"

/-- The entry as one line: its level, then its words. -/
def line (e : LogEntry) : String := e.level ++ " " ++ e.text

end LogEntry

end AccessorGen
