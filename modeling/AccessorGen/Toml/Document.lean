import AccessorGen.Toml.Value

/-!
# Documents

A document is a list of statements, a statement a line: keys with values, and headers, each of
which the keys below it belong to. A document is read in two steps: first its statements, then the
table they build.
-/

set_option autoImplicit false

namespace AccessorGen.Toml

/-- A line of a document. -/
inductive Statement
  | assignment (a : Assignment)
  | header (h : Header)
  deriving Repr

/-- A header in its brackets: single for a table, double for an element of a list. -/
def header : Scan Header :=
  (do
    Scan.word "[["
    let (path, key) ← dottedKey
    Scan.word "]]"
    return .element path key) <|>
  (do
    Scan.word "["
    let (path, key) ← dottedKey
    Scan.word "]"
    return .table path key)

def statements : Nat → Scan (List Statement)
  | 0 => failure
  | turns + 1 => do
    spaces
    match ← Scan.peek? with
    | none => return []
    | some '#' | some '\n' | some '\r' =>
      restOfLine
      statements turns
    | some '[' =>
      let h ← header
      restOfLine
      return .header h :: (← statements turns)
    | some _ =>
      let a ← assignment value
      restOfLine
      return .assignment a :: (← statements turns)

/-- The assignments above the first header, and each header with the assignments below it. -/
def sections (ss : List Statement) : List Assignment × List (Header × List Assignment) :=
  ss.foldr
    (fun
      | .assignment a, (above, rest) => (a :: above, rest)
      | .header h, (below, rest) => ([], (h, below) :: rest))
    ([], [])

def build (ss : List Statement) : Option Entries := do
  let (above, rest) := sections ss
  let root ← Entries.assignAll [] above
  rest.foldlM (fun root (h, below) => root.addSection h below) root

/-- The mark that may open a document, and that stands for nothing. -/
def byteOrderMark : Char := '\uFEFF'

/-- The record that the text describes, if it is a document. -/
def parse? (s : String) : Option Datum := do
  let cs := s.toList
  let cs := if cs.head? == some byteOrderMark then cs.tail else cs
  let (ss, _) ← Scan.bounded statements cs
  let root ← build ss
  return root.toDatum

end AccessorGen.Toml
