import AccessorGen.Toml.Scan

/-!
# Strings

The four forms of strings. Basic strings stand in quotes and have escapes, literal strings stand
in apostrophes and have none; each form has a variant in three delimiters that may span lines.

In the variants with three delimiters one or two of them may stand within the text, and up to two
may stand right before the closing three. A line end within the text counts as a line feed.
-/

set_option autoImplicit false

namespace AccessorGen.Toml

def shortEscape? : Char → Option Char
  | 'b' => some '\x08'
  | 't' => some '\t'
  | 'n' => some '\n'
  | 'f' => some '\x0c'
  | 'r' => some '\r'
  | '"' => some '"'
  | '\\' => some '\\'
  | _ => none

def digitValue? (base : Nat) (c : Char) : Option Nat :=
  let n :=
    if '0' ≤ c ∧ c ≤ '9' then c.toNat - '0'.toNat
    else if 'a' ≤ c ∧ c ≤ 'f' then c.toNat - 'a'.toNat + 10
    else if 'A' ≤ c ∧ c ≤ 'F' then c.toNat - 'A'.toNat + 10
    else base
  if n < base then some n else none

/-- The number that the digits stand for. A character that is no digit counts as zero. -/
def digitsValue (base : Nat) (ds : List Char) : Nat :=
  ds.foldl (fun n d => base * n + (digitValue? base d).getD 0) 0

def isDigitIn (base : Nat) (c : Char) : Bool := (digitValue? base c).isSome

def exactly (test : Char → Bool) : Nat → Scan (List Char)
  | 0 => return []
  | n + 1 => do
    let c ← Scan.one test
    return c :: (← exactly test n)

/-- The character of that number. Numbers of surrogates and those beyond the last plane stand for
none. -/
def scalar? (n : Nat) : Option Char := if n.isValidChar then some (Char.ofNat n) else none

def escape : Scan Char := do
  match ← Scan.next with
  | 'u' => liftM (scalar? (digitsValue 16 (← exactly (isDigitIn 16) 4)))
  | 'U' => liftM (scalar? (digitsValue 16 (← exactly (isDigitIn 16) 8)))
  | c => liftM (shortEscape? c)

def basicRest : Nat → Scan (List Char)
  | 0 => failure
  | turns + 1 => do
    match ← Scan.next with
    | '"' => return []
    | '\\' =>
      let c ← escape
      return c :: (← basicRest turns)
    | c => if isPrintable c then return c :: (← basicRest turns) else failure

def basicText : Scan (List Char) := do
  Scan.char '"'
  Scan.bounded basicRest

def literalText : Scan (List Char) := do
  Scan.char '\''
  let cs ← Scan.takeWhile fun c => isPrintable c && c != '\''
  Scan.char '\''
  return cs

/-- Takes a run of delimiters. Three or more close the string, and then those before the last
three belong to the text; no more than five can be taken. Gives the delimiters that belong to the
text and whether the string is closed. -/
def delimiters (d : Char) : Scan (List Char × Bool) := fun cs =>
  let run := min 5 (cs.takeWhile (· == d)).length
  let inText := if run < 3 then run else run - 3
  some ((List.replicate inText d, 3 ≤ run), cs.drop run)

/-- Takes the line end that ends an escaped line, with all blanks and line ends that follow. -/
def skippedLines : Scan Unit := do
  spaces
  lineEnd
  let _ ← Scan.bounded (Scan.many (discard (Scan.one isSpace) <|> lineEnd))

/-- The rest of a basic string in three quotes, behind them. -/
def longBasicRest : Nat → Scan (List Char)
  | 0 => failure
  | turns + 1 => do
    match ← Scan.peek? with
    | some '"' =>
      let (inText, closed) ← delimiters '"'
      if closed then return inText else return inText ++ (← longBasicRest turns)
    | some '\\' =>
      Scan.char '\\'
      if ← Scan.succeeds skippedLines then longBasicRest turns
      else
        let c ← escape
        return c :: (← longBasicRest turns)
    | some c =>
      if isPrintable c then
        let _ ← Scan.next
        return c :: (← longBasicRest turns)
      else
        lineEnd
        return '\n' :: (← longBasicRest turns)
    | none => failure

/-- The rest of a literal string in three apostrophes, behind them. -/
def longLiteralRest : Nat → Scan (List Char)
  | 0 => failure
  | turns + 1 => do
    match ← Scan.peek? with
    | some '\'' =>
      let (inText, closed) ← delimiters '\''
      if closed then return inText else return inText ++ (← longLiteralRest turns)
    | some c =>
      if isPrintable c then
        let _ ← Scan.next
        return c :: (← longLiteralRest turns)
      else
        lineEnd
        return '\n' :: (← longLiteralRest turns)
    | none => failure

/-- A string in three delimiters; a line end right behind the opening ones is not part of it. -/
def longText (delimiter : Char) (rest : Nat → Scan (List Char)) : Scan (List Char) := do
  Scan.chars [delimiter, delimiter, delimiter]
  let _ ← Scan.optional? lineEnd
  Scan.bounded rest

def text : Scan String := do
  let cs ← longText '"' longBasicRest <|> basicText <|> longText '\'' longLiteralRest <|>
    literalText
  return String.ofList cs

end AccessorGen.Toml
