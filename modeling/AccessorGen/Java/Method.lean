/-!
# Generated methods

The few forms of Java that generated members are made of, and how they are laid out. Members are
built as methods and turned into text once, at the end, so that what a member does can be said of
its statements and how it looks of its lines.
-/

set_option autoImplicit false

namespace AccessorGen.Java

/-- A line of code, `depth` levels deep in the unit. -/
structure Line where
  depth : Nat
  text : String
  deriving DecidableEq, Repr

def Line.render (indent : String) (l : Line) : String :=
  String.join (List.replicate l.depth indent) ++ l.text

/-- The lines one below the other, without a line feed at the end. -/
def renderLines (indent : String) (ls : List Line) : String :=
  String.intercalate "\n" (ls.map (·.render indent))

/-- A parameter of a method. -/
structure Parameter where
  type : String
  name : String
  deriving DecidableEq, Repr

def Parameter.text (p : Parameter) : String := p.type ++ " " ++ p.name

/-- A statement of a generated body. In the last four the string under construction is in the
local variable `sb`. -/
inductive Statement
  /-- Declares a local variable that holds a fresh object. -/
  | declareNew (type name : String)
  /-- Stores a variable in a field of the object in another variable. -/
  | assign (object field value : String)
  /-- Returns the value of a variable. -/
  | returnVariable (name : String)
  /-- Returns the value of a field. -/
  | returnField (object field : String)
  /-- Declares the string under construction, starting with a fixed text. -/
  | startString (text : String)
  /-- Appends a fixed text. -/
  | appendText (text : String)
  /-- Appends a label and the value of a field. With `asObject` the value is converted as an
  object, which no null reference makes fail. -/
  | appendField (label object field : String) (asObject : Bool)
  /-- Returns the constructed string. -/
  | returnString
  deriving DecidableEq, Repr

def Statement.text : Statement → String
  | .declareNew type name => type ++ " " ++ name ++ " = new " ++ type ++ "();"
  | .assign object field value => object ++ "." ++ field ++ " = " ++ value ++ ";"
  | .returnVariable name => "return " ++ name ++ ";"
  | .returnField object field => "return " ++ object ++ "." ++ field ++ ";"
  | .startString text => "StringBuilder sb = new StringBuilder(\"" ++ text ++ "\");"
  | .appendText text => "sb.append(\"" ++ text ++ "\");"
  | .appendField label object field asObject =>
    "sb.append(\"" ++ label ++ "\").append(String.valueOf(" ++
      (if asObject then "(Object) " else "") ++ object ++ "." ++ field ++ "));"
  | .returnString => "return sb.toString();"

/-- Where the parameters of a method stand. -/
inductive ParameterLayout
  /-- On the line of the method's name. -/
  | inline
  /-- Each on a line of its own. -/
  | stacked
  deriving DecidableEq, Repr

/-- A generated method. All of them are public. -/
structure Method where
  /-- The sentence of the documentation block. -/
  summary : String
  /-- Whether the method replaces an inherited one. -/
  isOverride : Bool := false
  isStatic : Bool
  returnType : String
  name : String
  parameters : List Parameter
  layout : ParameterLayout := .inline
  body : List Statement
  deriving DecidableEq, Repr

namespace Method

/-- The documentation block, one level deep. -/
def javadoc (m : Method) : List Line := [⟨1, "/**"⟩, ⟨1, " * " ++ m.summary⟩, ⟨1, " */"⟩]

def opening (m : Method) : String :=
  (if m.isStatic then "public static " else "public ") ++ m.returnType ++ " " ++ m.name ++ "("

/-- Parameters on lines of their own; the last of them closes the list and opens the body. -/
def stackedLines : List Parameter → List Line
  | [] => []
  | [p] => [⟨3, p.text ++ ") \x7b"⟩]
  | p :: rest => ⟨3, p.text ++ ","⟩ :: stackedLines rest

def inlineParameters (ps : List Parameter) : String :=
  String.intercalate ", " (ps.map (·.text))

/-- The lines of the signature. Without parameters there is nothing to stack. -/
def signature (m : Method) : List Line :=
  match m.layout, m.parameters with
  | .stacked, p :: rest => ⟨1, m.opening⟩ :: stackedLines (p :: rest)
  | _, ps => [⟨1, m.opening ++ inlineParameters ps ++ ") \x7b"⟩]

theorem signature_inline {m : Method} (h : m.layout = .inline ∨ m.parameters = []) :
    m.signature = [⟨1, m.opening ++ inlineParameters m.parameters ++ ") \x7b"⟩] := by
  rw [signature]
  split
  · next p rest hl hp =>
    rcases h with h | h
    · exact absurd (hl.symm.trans h) (by simp)
    · exact absurd (hp.symm.trans h) (by simp)
  · rfl

theorem signature_stacked {m : Method} (hl : m.layout = .stacked) (hp : m.parameters ≠ []) :
    m.signature = ⟨1, m.opening⟩ :: stackedLines m.parameters := by
  rw [signature]
  split
  · next p rest _ heq => rw [heq]
  · next hno =>
    cases hps : m.parameters with
    | nil => exact absurd hps hp
    | cons p rest => exact absurd hps (hno p rest hl)

def code (m : Method) : List Line :=
  (if m.isOverride then [⟨1, "@Override"⟩] else []) ++ m.signature ++
    m.body.map (fun s => ⟨2, s.text⟩) ++ [⟨1, "\x7d"⟩]

def lines (documented : Bool) (m : Method) : List Line :=
  (if documented then m.javadoc else []) ++ m.code

/-- The text of the method, indented one level, without a line feed at the end. -/
def render (indent : String) (documented : Bool) (m : Method) : String :=
  renderLines indent (m.lines documented)

end Method

end AccessorGen.Java
