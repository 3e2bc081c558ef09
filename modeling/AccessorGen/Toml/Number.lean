import AccessorGen.Toml.Text

/-!
# Numbers

Integers must fit sixty-four bits. Decimal ones may have a sign, those of another base none. A
float may not exceed the range of double precision on the positive side. The values themselves are
not needed, so a scanner of a number only takes it.
-/

set_option autoImplicit false

namespace AccessorGen.Toml

/-- One or more digits, where an underscore may stand between each two. -/
def digits (base : Nat) : Scan (List Char) := do
  let first ← Scan.one (isDigitIn base)
  let rest ← Scan.bounded (Scan.many do
    let _ ← Scan.optional? (Scan.char '_')
    Scan.one (isDigitIn base))
  return first :: rest

/-- A sign; whether it is a minus. -/
def sign : Scan Bool := do
  match ← Scan.optional? (Scan.one fun c => c == '+' || c == '-') with
  | some '-' => return true
  | _ => return false

/-- The digits of a decimal number before the point, where a zero stands alone. -/
def wholePart : Scan (List Char) := do
  match ← Scan.peek? with
  | some '0' =>
    Scan.char '0'
    return ['0']
  | _ => digits 10

def maxInteger : Nat := Nat.pow 2 63 - 1

def decimalInteger : Scan Unit := do
  let negative ← sign
  let n := digitsValue 10 (← wholePart)
  if n ≤ maxInteger || (negative && n == maxInteger + 1) then return () else failure

def markedInteger (mark : String) (base : Nat) : Scan Unit := do
  Scan.word mark
  if digitsValue base (← digits base) ≤ maxInteger then return () else failure

def integer : Scan Unit :=
  markedInteger "0x" 16 <|> markedInteger "0o" 8 <|> markedInteger "0b" 2 <|> decimalInteger

/-- The smallest number that rounds to infinity in double precision: half a unit beyond the largest
finite one. -/
def overflowBound : Nat := Nat.pow 2 1024 - Nat.pow 2 970

/-- Whether `mantissa * 10 ^ exponent` rounds to infinity. Far exponents are decided by the number
of digits alone, so no power larger than the bound has to be computed. -/
def overflows (mantissa : List Char) (exponent : Int) : Bool :=
  let m := digitsValue 10 mantissa
  if m = 0 then false
  else if 0 ≤ exponent then 400 < exponent || overflowBound ≤ m * Nat.pow 10 exponent.toNat
  else if mantissa.length < (-exponent).toNat then false
  else overflowBound * Nat.pow 10 (-exponent).toNat ≤ m

def exponentPart : Scan Int := do
  let _ ← Scan.one fun c => c == 'e' || c == 'E'
  let negative ← sign
  let n := digitsValue 10 (← digits 10)
  return if negative then -(n : Int) else n

def fractionPart : Scan (List Char) := do
  Scan.char '.'
  digits 10

/-- Takes a float in digits. It has a fraction or an exponent or both. -/
def digitsFloat : Scan Unit := do
  let negative ← sign
  let whole ← wholePart
  let fraction ← Scan.optional? fractionPart
  let exponent ← Scan.optional? exponentPart
  if fraction.isNone && exponent.isNone then failure
  let fraction := fraction.getD []
  if !negative && overflows (whole ++ fraction) (exponent.getD 0 - fraction.length) then failure

def namedFloat : Scan Unit := do
  let _ ← sign
  Scan.word "inf" <|> Scan.word "nan"

def float : Scan Unit := digitsFloat <|> namedFloat

end AccessorGen.Toml
