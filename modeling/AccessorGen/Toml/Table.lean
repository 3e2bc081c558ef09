import AccessorGen.Datum.Basic

/-!
# Tables under construction

The tables of a document are built piece by piece: headers open them, dotted keys reach through
them, and each may come into being before it is described. What may still be added to a table
depends on how it came into being, so this is kept beside its entries until the document ends.

* A table with a header of its own is open for the keys below that header only. Dotted keys from
  elsewhere do not reach through it.
* A table that a longer header implies may still get a header of its own, once.
* A table that a dotted key made gets further entries from dotted keys alone.
-/

set_option autoImplicit false

namespace AccessorGen.Toml

/-- How a table came into being. -/
inductive Origin
  /-- By a header of its own. -/
  | header
  /-- By the header of a table within it. -/
  | implied
  /-- By a dotted key that goes through it. -/
  | dotted
  deriving DecidableEq, Repr

/-- What stands at a key. -/
inductive Slot
  /-- A complete value. -/
  | leaf (value : Datum)
  /-- A table that may still grow. -/
  | table (origin : Origin) (entries : List (String × Slot))
  /-- A list of tables that have headers, to which another may still be added. -/
  | series (elements : List (List (String × Slot)))
  deriving Repr

/-- The entries of a table. -/
abbrev Entries := List (String × Slot)

namespace Entries

/-- The entries with this one in place of that of the same key, or behind the others. -/
def put (es : Entries) (key : String) (slot : Slot) : Entries :=
  if (es.lookup key).isSome then es.map fun e => if e.1 == key then (key, slot) else e
  else es ++ [(key, slot)]

/-- Changes the table at the end of the path; `origin` is that of the table the path starts from.
Tables that are missing on the way are made, and of a list of tables the path goes through the
last. With `byDot` the path is that of a dotted key. -/
def changeAt (byDot : Bool) (change : Origin → Entries → Option Entries) :
    Origin → List String → Entries → Option Entries
  | origin, [], es => change origin es
  | _, key :: path, es =>
    match es.lookup key with
    | none => do
      let made := if byDot then Origin.dotted else .implied
      let inner ← changeAt byDot change made path []
      return es.put key (.table made inner)
    | some (.leaf _) => none
    | some (.table origin inner) =>
      if byDot && origin == .header then none
      else do
        let inner ← changeAt byDot change origin path inner
        return es.put key (.table origin inner)
    | some (.series elements) => do
      let last ← elements.getLast?
      let last ← changeAt byDot change .header path last
      return es.put key (.series (elements.dropLast ++ [last]))

/-- Adds a value at a dotted key. The key must be new, and a table that the key goes through must
have been made by dotted keys. -/
def assign (es : Entries) (path : List String) (key : String) (value : Datum) : Option Entries :=
  es.changeAt true
    (fun origin inner =>
      if (origin == .dotted) == path.isEmpty then none
      else if (inner.lookup key).isSome then none
      else some (inner ++ [(key, .leaf value)]))
    .header path

end Entries

/-- A value at a dotted key. -/
structure Assignment where
  path : List String
  key : String
  value : Datum
  deriving Repr

def Entries.assignAll (es : Entries) (as : List Assignment) : Option Entries :=
  as.foldlM (fun es a => es.assign a.path a.key a.value) es

/-- A header: the table it describes, or the list that it adds a table to. -/
inductive Header
  | table (path : List String) (key : String)
  | element (path : List String) (key : String)
  deriving Repr

/-- Adds the table that the header and the values below it describe. -/
def Entries.addSection (root : Entries) (header : Header) (as : List Assignment) :
    Option Entries :=
  match header with
  | .table path key =>
    root.changeAt false
      (fun _ es =>
        match es.lookup key with
        | none => do
          let inner ← Entries.assignAll [] as
          return es.put key (.table .header inner)
        | some (.table .implied children) => do
          let inner ← Entries.assignAll children as
          return es.put key (.table .header inner)
        | some _ => none)
      .header path
  | .element path key =>
    root.changeAt false
      (fun _ es =>
        match es.lookup key with
        | none => do
          let inner ← Entries.assignAll [] as
          return es.put key (.series [inner])
        | some (.series elements) => do
          let inner ← Entries.assignAll [] as
          return es.put key (.series (elements ++ [inner]))
        | some _ => none)
      .header path

mutual

def Slot.toDatum : Slot → Datum
  | .leaf d => d
  | .table _ es => .record (finishEntries es)
  | .series elements => .list (finishElements elements)

def finishEntries : List (String × Slot) → List (String × Datum)
  | [] => []
  | (key, slot) :: rest => (key, slot.toDatum) :: finishEntries rest

def finishElements : List (List (String × Slot)) → List Datum
  | [] => []
  | es :: rest => .record (finishEntries es) :: finishElements rest

end

def Entries.toDatum (es : Entries) : Datum := .record (finishEntries es)

end AccessorGen.Toml
