import AccessorGen.Toml.Key
import AccessorGen.Toml.Moment
import AccessorGen.Toml.Number
import AccessorGen.Toml.Table

/-!
# Values

Single values, arrays and inline tables. An array may span lines and end in a comma; an inline
table stays on its line and may not. Containers nest to a fixed depth, which is what the recursion
goes down on.
-/

set_option autoImplicit false

namespace AccessorGen.Toml

def single : Scan Datum := do
  match ← Scan.peek? with
  | some '"' | some '\'' => return .text (← text)
  | some 't' =>
    Scan.word "true"
    return .bool true
  | some 'f' =>
    Scan.word "false"
    return .bool false
  | some 'i' | some 'n' =>
    namedFloat
    return .number
  | some _ => (do moment; return .moment) <|> (do float; return .number) <|>
    (do integer; return .number)
  | none => failure

/-- Takes blanks, comments and line ends. -/
def fillers : Scan Unit := do
  let _ ← Scan.bounded (Scan.many
    (discard (Scan.takeWhile1 isSpace) <|> lineEnd <|> (do comment; lineEnd)))

/-- An item of an array among blanks, comments and line ends. -/
def paddedItem (item : Scan Datum) : Scan Datum := do
  fillers
  let d ← item
  fillers
  return d

def array (item : Scan Datum) : Scan Datum := do
  Scan.char '['
  let items ← Scan.optional? do
    let items ← Scan.separated (paddedItem item) (Scan.char ',')
    let _ ← Scan.optional? (Scan.char ',')
    return items
  fillers
  Scan.char ']'
  return .list (items.getD [])

def assignment (value : Scan Datum) : Scan Assignment := do
  let (path, key) ← dottedKey
  Scan.char '='
  spaces
  let value ← value
  return { path, key, value }

def inlineTable (value : Scan Datum) : Scan Datum := do
  Scan.char '\x7b'
  spaces
  let as ← Scan.optional? (Scan.separated
    (do
      let a ← assignment value
      spaces
      return a)
    (Scan.char ','))
  Scan.char '\x7d'
  let es ← liftM (Entries.assignAll [] (as.getD []))
  return es.toDatum

def valueWithin : Nat → Scan Datum
  | 0 => single
  | levels + 1 => do
    match ← Scan.peek? with
    | some '[' => array (valueWithin levels)
    | some '\x7b' => inlineTable (valueWithin levels)
    | _ => single

def value : Scan Datum := valueWithin (depthLimit - 1)

end AccessorGen.Toml
