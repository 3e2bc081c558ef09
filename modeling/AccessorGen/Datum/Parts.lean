import AccessorGen.Datum.Basic

/-!
# Parts of a structure

A structure is written as a record of its parts, in any order and among keys that mean nothing, or
as the list of its parts in the order of their declaration. The two data formats agree on this but
for a few freedoms, which are the fields of `Format`.

A part that is missing is given by its default, if it has one. A part that may be null counts as
null when its key is missing; a list cannot leave it out.
-/

set_option autoImplicit false

namespace AccessorGen

/-- The freedoms in which the data formats differ. -/
structure Format where
  /-- A list may go on after the last part of a structure. -/
  ignoresExtraItems : Bool
  /-- A moment in time is a record of one key that means nothing. -/
  momentIsRecord : Bool
  /-- An alternative without contents is written with an empty container, not with null. -/
  emptyIsContainer : Bool
  /-- The contents of an alternative follow the rules of a structure, and unknown keys are
  refused; otherwise they are a record in which unknown keys mean nothing. -/
  strictContents : Bool

namespace Format

def json : Format := ⟨false, false, false, false⟩

def toml : Format := ⟨true, true, true, true⟩

end Format

/-- The parts of a structure by their keys. -/
structure Parts where
  entries : List (String × Datum)
  /-- The parts were given by position. -/
  positional : Bool

namespace Parts

def ofDatum? (fmt : Format) (keys : List String) : Datum → Option Parts
  | .record entries => some ⟨entries, false⟩
  | .list items =>
    if items.length ≤ keys.length || fmt.ignoresExtraItems then some ⟨keys.zip items, true⟩
    else none
  | .moment => if fmt.momentIsRecord then some ⟨[], false⟩ else none
  | _ => none

variable {α : Type}

/-- The part of that key, which must be there. -/
def required (p : Parts) (key : String) (value? : Datum → Option α) : Option α :=
  (p.entries.lookup key).bind value?

/-- The part of that key, or the default if it is missing. -/
def withDefault (p : Parts) (key : String) (value? : Datum → Option α) (default : α) :
    Option α :=
  match p.entries.lookup key with
  | some d => value? d
  | none => some default

/-- The part of that key, which may be null; a missing key counts as null. -/
def nullable (p : Parts) (key : String) (value? : Datum → Option α) : Option (Option α) :=
  match p.entries.lookup key with
  | some d => d.nullable? value?
  | none => if p.positional then none else some none

end Parts

end AccessorGen
