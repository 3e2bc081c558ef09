/-!
# Scanning

A scanner takes a beginning of the remaining characters and gives what it stands for, or refuses.
What it refuses it leaves untouched, so alternatives can be tried one after the other.

Loops are bounded by the number of characters that are left: every turn takes at least one.
-/

set_option autoImplicit false

namespace AccessorGen.Toml

/-- Reads a value off the front of the remaining characters. -/
abbrev Scan := StateT (List Char) Option

namespace Scan

variable {α : Type}

/-- The next character, which is not taken. -/
def peek? : Scan (Option Char) := fun cs => some (cs.head?, cs)

def next : Scan Char
  | [] => none
  | c :: rest => some (c, rest)

def one (test : Char → Bool) : Scan Char
  | [] => none
  | c :: rest => if test c then some (c, rest) else none

def char (c : Char) : Scan Unit := do let _ ← one (· == c)

def chars (word : List Char) : Scan Unit := fun cs => (word.isPrefixOf? cs).map ((), ·)

def word (s : String) : Scan Unit := chars s.toList

def takeWhile (test : Char → Bool) : Scan (List Char) := fun cs =>
  some (cs.takeWhile test, cs.dropWhile test)

def takeWhile1 (test : Char → Bool) : Scan (List Char) := do
  let cs ← Scan.takeWhile test
  if cs.isEmpty then failure else return cs

def finish : Scan Unit
  | [] => some ((), [])
  | _ => none

/-- Takes what the scanner takes, or nothing if it refuses. -/
def optional? (p : Scan α) : Scan (Option α) := fun cs =>
  match p cs with
  | some (a, rest) => some (some a, rest)
  | none => some (none, cs)

/-- Whether the scanner succeeds, taking what it takes. -/
def succeeds (p : Scan α) : Scan Bool := do return (← optional? p).isSome

/-- Runs a bounded loop with a bound that the remaining characters cannot exceed. -/
def bounded (loop : Nat → Scan α) : Scan α := fun cs => loop (cs.length + 1) cs

def many (p : Scan α) : Nat → Scan (List α)
  | 0 => return []
  | turns + 1 => do
    match ← optional? p with
    | none => return []
    | some a => return a :: (← many p turns)

def separated (p : Scan α) (separator : Scan Unit) : Scan (List α) := do
  let first ← p
  let rest ← bounded (many do separator; p)
  return first :: rest

end Scan

def isSpace (c : Char) : Bool := c == ' ' || c == '\t'

/-- A character that may stand in a comment: no control character but the tab. -/
def isPrintable (c : Char) : Bool :=
  c == '\t' || (0x20 ≤ c.toNat && c.toNat ≤ 0x7E) || 0x80 ≤ c.toNat

def spaces : Scan Unit := do let _ ← Scan.takeWhile isSpace

/-- Takes a line end: a line feed, which a carriage return may precede. -/
def lineEnd : Scan Unit := Scan.word "\n" <|> Scan.word "\r\n"

def comment : Scan Unit := do
  Scan.char '#'
  let _ ← Scan.takeWhile isPrintable

/-- Takes the rest of a line that may hold nothing more than a comment. -/
def restOfLine : Scan Unit := do
  spaces
  let _ ← Scan.optional? comment
  lineEnd <|> Scan.finish

end AccessorGen.Toml
