import AccessorGen.Toml.Text

/-!
# Keys

A key is a bare word or a string on one line. Dots between keys lead through tables.
-/

set_option autoImplicit false

namespace AccessorGen.Toml

def isBareKeyChar (c : Char) : Bool :=
  ('a' ≤ c ∧ c ≤ 'z') || ('A' ≤ c ∧ c ≤ 'Z') || ('0' ≤ c ∧ c ≤ '9') || c == '-' || c == '_'

def simpleKey : Scan String := do
  spaces
  let cs ← basicText <|> literalText <|> Scan.takeWhile1 isBareKeyChar
  spaces
  return String.ofList cs

/-- Containers may be nested and keys may be long up to this bound, which is excluded. -/
def depthLimit : Nat := 80

/-- A dotted key: the tables on the way and the key in the last of them. -/
def dottedKey : Scan (List String × String) := do
  let keys ← Scan.separated simpleKey (Scan.char '.')
  match keys.getLast? with
  | some key => if keys.length < depthLimit then return (keys.dropLast, key) else failure
  | none => failure

end AccessorGen.Toml
