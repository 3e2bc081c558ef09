import AccessorGen.Toml.Text

/-!
# Moments

Dates, times and both together. Only existing days are accepted; a second may be a leap second.
-/

set_option autoImplicit false

namespace AccessorGen.Toml

def fixedNumber (width low high : Nat) : Scan Nat := do
  let n := digitsValue 10 (← exactly (isDigitIn 10) width)
  if low ≤ n && n ≤ high then return n else failure

def isLeapYear (year : Nat) : Bool := year % 4 == 0 && (year % 100 != 0 || year % 400 == 0)

def daysIn (year month : Nat) : Nat :=
  if month == 2 then (if isLeapYear year then 29 else 28)
  else if [4, 6, 9, 11].contains month then 30
  else 31

def date : Scan Unit := do
  let year ← fixedNumber 4 0 9999
  Scan.char '-'
  let month ← fixedNumber 2 1 12
  Scan.char '-'
  let _ ← fixedNumber 2 1 (daysIn year month)

def time : Scan Unit := do
  let _ ← fixedNumber 2 0 23
  Scan.char ':'
  let _ ← fixedNumber 2 0 59
  Scan.char ':'
  let _ ← fixedNumber 2 0 60
  let _ ← Scan.optional? do
    Scan.char '.'
    let _ ← Scan.takeWhile1 (isDigitIn 10)

def offset : Scan Unit := do
  match ← Scan.next with
  | 'Z' | 'z' => return ()
  | '+' | '-' =>
    let _ ← fixedNumber 2 0 23
    Scan.char ':'
    let _ ← fixedNumber 2 0 59
  | _ => failure

/-- Takes a date that a time may follow, or a time. -/
def moment : Scan Unit :=
  (do
    date
    let _ ← Scan.optional? do
      let _ ← Scan.one fun c => c == 'T' || c == 't' || c == ' '
      time
      Scan.optional? offset) <|>
    time

end AccessorGen.Toml
