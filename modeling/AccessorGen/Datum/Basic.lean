/-!
# Structured data

What both data formats describe, JSON documents and TOML documents: single values, lists, and
records whose keys are texts. A schema holds no number and no moment in time, so of these only the
kind is kept.
-/

set_option autoImplicit false

namespace AccessorGen

/-- A value of a document. -/
inductive Datum
  | null
  | bool (value : Bool)
  | number
  | moment
  | text (value : String)
  | list (items : List Datum)
  | record (entries : List (String × Datum))
  deriving Repr, Inhabited

namespace Datum

/-- The truth value, if it is one. -/
def bool? : Datum → Option Bool
  | .bool b => some b
  | _ => none

/-- The text, if it is one. -/
def text? : Datum → Option String
  | .text s => some s
  | _ => none

/-- The items read one by one, if it is a list of such items. -/
def list? {α : Type} (item? : Datum → Option α) : Datum → Option (List α)
  | .list items => items.mapM item?
  | _ => none

/-- A value that may be missing: null stands for the missing one. -/
def nullable? {α : Type} (value? : Datum → Option α) : Datum → Option (Option α)
  | .null => some none
  | d => (value? d).map some

def ofText? : Option String → Datum
  | some s => .text s
  | none => .null

def ofTexts (ss : List String) : Datum := .list (ss.map .text)

end Datum

end AccessorGen
