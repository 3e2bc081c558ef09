import AccessorGen.Proofs.Identifier
import AccessorGen.Proofs.Java.Execution
import Mathlib.Data.List.Basic

/-!
# Reading generated methods

From the text of a member back to the method it spells, by the text alone: `read?` knows neither the
settings under which the text was written nor the class it was written for.

A type stands in the text as the schema gave it and can hold anything but a line feed, also blanks,
commas and parentheses. So a type is never taken apart, and the reader finds where it ends from what
is around it:

* a declaration ends in its name, which has no blank in it, so the last blank divides the two;
* a method that returns something has its type in front of the name and no type of a field among its
  parameters, so its last parenthesis opens the list of parameters; one that returns nothing has
  `void` in front, so its first parenthesis does;
* a helper's first parameter has the type of a class, so the first comma ends it;
* a method that speaks of `this` is not static, so the word `static` in front of its name would be
  part of the type.

The body is read before the signature is, because it decides which of these rules apply. The
indentation is that of the closing brace, and taking it off the lines leaves every type complete, also
one that starts in blanks.
-/

set_option autoImplicit false

namespace AccessorGen.Java

/-! ## Words -/

/-- What stands before the first such character, and what behind it. -/
def cutAt (c : Char) : List Char → Option (List Char × List Char)
  | [] => none
  | a :: rest =>
    if a = c then some ([], rest) else (cutAt c rest).map fun parts => (a :: parts.1, parts.2)

/-- What stands before the last such character, and what behind it. -/
def cutAtLast (c : Char) (cs : List Char) : Option (List Char × List Char) :=
  (cutAt c cs.reverse).map fun parts => (parts.2.reverse, parts.1.reverse)

/-- The name that the characters spell. Reserved words have the form of names; `this` is one that
code refers to. -/
def name? (cs : List Char) : Option String :=
  if hasIdentifierForm cs then some (String.ofList cs) else none

/-- The name of a class, in which dots may stand between names. -/
def className? (cs : List Char) : Option String :=
  if (cs.splitOn '.').all hasIdentifierForm then some (String.ofList cs) else none

/-- The contents of a string literal behind its opening quotation mark, and what follows the closing
one. Escapes do not occur. -/
def literal? (cs : List Char) : Option (String × List Char) := do
  let (inside, rest) ← cutAt '"' cs
  if '\\' ∈ inside then none else return (String.ofList inside, rest)

/-- A field of the object in a variable, `object.field`. -/
def access? (cs : List Char) : Option (String × String) := do
  let (object, field) ← cutAt '.' cs
  return (← name? object, ← name? field)

/-! ## Statements -/

/-- What is behind `return`. -/
def returned? (cs : List Char) : Option Statement :=
  if cs = "sb.toString()".toList then some .returnString
  else
    match access? cs with
    | some (object, field) => some (.returnField object field)
    | none => (name? cs).map .returnVariable

/-- What is behind `sb.append("`. -/
def appended? (cs : List Char) : Option Statement := do
  let (text, rest) ← literal? cs
  if rest = [')'] then return .appendText text
  else
    let call ← ").append(String.valueOf(".toList.isPrefixOf? rest
    let argument ← "))".toList.isSuffixOf? call
    match "(Object) ".toList.isPrefixOf? argument with
    | some plain => do
      let (object, field) ← access? plain
      return .appendField text object field true
    | none => do
      let (object, field) ← access? argument
      return .appendField text object field false

/-- What is behind `StringBuilder sb = new StringBuilder("`. -/
def started? (cs : List Char) : Option Statement := do
  let (text, rest) ← literal? cs
  if rest = [')'] then return .startString text else none

/-- A declaration or an assignment, by the sides of its equals sign. -/
def stored? (cs : List Char) : Option Statement := do
  let (left, right) ← cutAt '=' cs
  let left ← [' '].isSuffixOf? left
  let right ← [' '].isPrefixOf? right
  match "new ".toList.isPrefixOf? right with
  | some made => do
    let made ← "()".toList.isSuffixOf? made
    let (type, name) ← cutAt ' ' left
    if type = made then return .declareNew (← className? type) (← name? name) else none
  | none => do
    let (object, field) ← access? left
    return .assign object field (← name? right)

/-- A statement without its semicolon, told by how it starts. -/
def clause? (cs : List Char) : Option Statement :=
  match "StringBuilder sb = new StringBuilder(\"".toList.isPrefixOf? cs with
  | some rest => started? rest
  | none =>
    match "sb.append(\"".toList.isPrefixOf? cs with
    | some rest => appended? rest
    | none =>
      match "return ".toList.isPrefixOf? cs with
      | some rest => returned? rest
      | none => stored? cs

/-- The statement on a line. -/
def statement? (cs : List Char) : Option Statement := do clause? (← [';'].isSuffixOf? cs)

/-- Whether the statement ends the method with a result. -/
def Statement.returns : Statement → Bool
  | .returnVariable _ | .returnField .. | .returnString => true
  | _ => false

/-- The variable whose object the statement touches. -/
def Statement.object? : Statement → Option String
  | .assign object .. | .returnField object _ | .appendField _ object .. => some object
  | _ => none

/-- Whether a method with this body returns something. -/
def returnsValue (body : List Statement) : Bool := body.any (·.returns)

/-- Whether the body speaks of `this`. -/
def speaksOfThis (body : List Statement) : Bool := body.any fun s => s.object? == some "this"

/-! ## Signatures -/

/-- A declaration: the type, a blank, the name. -/
def parameter? (cs : List Char) : Option Parameter := do
  let (type, name) ← cutAtLast ' ' cs
  return ⟨String.ofList type, ← name? name⟩

/-- The parameters between the parentheses. -/
def inlineParameters? (isStatic : Bool) (cs : List Char) : Option (List Parameter) :=
  if cs = [] then some []
  else if isStatic then
    match cutAt ',' cs with
    | some (first, second) => do
      let second ← [' '].isPrefixOf? second
      return [← parameter? first, ← parameter? second]
    | none => (parameter? cs).map ([·])
  else (parameter? cs).map ([·])

/-- The parts of a signature in front of the parenthesis that opens its parameters and behind it, given
the body below it. -/
def cutSignature? (body : List Statement) (cs : List Char) : Option (List Char × List Char) :=
  if returnsValue body then cutAtLast '(' cs else cutAt '(' cs

/-- The signature up to its opening parenthesis, given the body below it: whether the method is
static, the type, and the name. -/
def opening? (body : List Statement) (cs : List Char) : Option (Bool × String × String) := do
  let cs ← "public ".toList.isPrefixOf? cs
  match (if speaksOfThis body then none else "static ".toList.isPrefixOf? cs) with
  | some rest => do
    let p ← parameter? rest
    return (true, p.type, p.name)
  | none => do
    let p ← parameter? cs
    return (false, p.type, p.name)

/-! ## Lines -/

/-- The indentation of the closing brace, which is that of the whole method. The blanks in front of
the brace start with the line feed of the line above. -/
def outerIndent (cs : List Char) : List Char :=
  match cs.reverse with
  | '\x7d' :: rest => (rest.takeWhile Text.isBlank).reverse.tail
  | _ => []

/-- What stands behind so many levels of indentation. -/
def afterIndent? (indent : List Char) : Nat → List Char → Option (List Char)
  | 0, cs => some cs
  | depth + 1, cs => do afterIndent? indent depth (← indent.isPrefixOf? cs)

/-- The line of that depth at the start of the text, and the text below it. -/
def takeLine? (indent : List Char) (depth : Nat) (cs : List Char) :
    Option (List Char × List Char) := do
  cutAt '\n' (← afterIndent? indent depth cs)

theorem cutAt_length {c : Char} {cs before after : List Char}
    (h : cutAt c cs = some (before, after)) : after.length < cs.length := by
  induction cs generalizing before after with
  | nil => exact absurd h (by simp [cutAt])
  | cons a rest ih =>
    rw [cutAt] at h
    by_cases ha : a = c
    · rw [if_pos ha] at h
      cases h
      simp
    · rw [if_neg ha] at h
      obtain ⟨parts, hp, he⟩ := Option.map_eq_some_iff.mp h
      cases he
      exact Nat.lt_succ_of_lt (ih hp)

theorem afterIndent?_length {indent cs rest : List Char} {depth : Nat}
    (h : afterIndent? indent depth cs = some rest) : rest.length ≤ cs.length := by
  induction depth generalizing cs with
  | zero =>
    cases h
    exact Nat.le_refl _
  | succ depth ih =>
    obtain ⟨next, hn, hr⟩ := Option.bind_eq_some_iff.mp h
    rw [List.isPrefixOf?_eq_some_iff_append_eq] at hn
    refine Nat.le_trans (ih hr) ?_
    rw [← hn, List.length_append]
    exact Nat.le_add_left _ _

/-- A line takes its line feed with it, so reading on ends. -/
theorem takeLine?_length {indent cs line below : List Char} {depth : Nat}
    (h : takeLine? indent depth cs = some (line, below)) : below.length < cs.length := by
  obtain ⟨rest, hr, hc⟩ := Option.bind_eq_some_iff.mp h
  exact Nat.lt_of_lt_of_le (cutAt_length hc) (afterIndent?_length hr)

/-- The statements down to the closing brace. -/
def body? (indent : List Char) (cs : List Char) : Option (List Statement) :=
  if cs = indent ++ ['\x7d'] then some []
  else
    match _h : takeLine? indent 2 cs with
    | some (line, below) => do
      let s ← statement? line
      return s :: (← body? indent below)
    | none => none
termination_by cs.length
decreasing_by exact takeLine?_length _h

/-- Parameters on lines of their own, down to the one that opens the body, and the text below. -/
def stackedParameters? (indent : List Char) (cs : List Char) :
    Option (List Parameter × List Char) :=
  match _h : takeLine? indent 3 cs with
  | some (line, below) =>
    match ") \x7b".toList.isSuffixOf? line with
    | some last => (parameter? last).map fun p => ([p], below)
    | none => do
      let p ← parameter? (← [','].isSuffixOf? line)
      let (ps, rest) ← stackedParameters? indent below
      return (p :: ps, rest)
  | none => none
termination_by cs.length
decreasing_by exact takeLine?_length _h

/-- What follows the end of a comment. -/
def afterComment? : List Char → Option (List Char)
  | '*' :: '/' :: rest => some rest
  | _ :: rest => afterComment? rest
  | [] => none

/-- The text below the comment in front of the method, if there is one. -/
def skipComment? (indent : List Char) (cs : List Char) : Option (List Char) :=
  match (indent ++ "/*".toList).isPrefixOf? cs with
  | some inside => do ['\n'].isPrefixOf? (← afterComment? inside)
  | none => some cs

/-- The text below the annotation that the method replaces another, if there is one. -/
def skipOverride (indent : List Char) (cs : List Char) : List Char :=
  ((indent ++ "@Override\n".toList).isPrefixOf? cs).getD cs

/-- The method whose signature has its parameters on lines of their own. -/
def stacked? (indent : List Char) (opening below : List Char) : Option Routine := do
  let (parameters, below) ← stackedParameters? indent below
  let body ← body? indent below
  let (isStatic, returnType, name) ← opening? body opening
  return ⟨isStatic, returnType, name, parameters, body⟩

/-- The method whose signature is on one line. -/
def inline? (indent : List Char) (signature below : List Char) : Option Routine := do
  let body ← body? indent below
  let signature ← ") \x7b".toList.isSuffixOf? signature
  let (opening, inside) ← cutSignature? body signature
  let (isStatic, returnType, name) ← opening? body opening
  return ⟨isStatic, returnType, name, ← inlineParameters? isStatic inside, body⟩

/-- The method below its comment and annotation. -/
def code? (indent : List Char) (cs : List Char) : Option Routine := do
  let (line, below) ← takeLine? indent 1 cs
  match ['('].isSuffixOf? line with
  | some opening => stacked? indent opening below
  | none => inline? indent line below

/-- **The method that a text spells.** -/
def read? (text : String) : Option Routine := do
  let indent := outerIndent text.toList
  let cs ← skipComment? indent text.toList
  code? indent (skipOverride indent cs)

end AccessorGen.Java
