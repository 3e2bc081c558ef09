import AccessorGen.Java.Method

/-!
# Running generated methods

What the statements of a generated method do to the objects of a program. The reading is that of
straight-line Java: parameters and local variables are in one scope, a name is declared in it at
most once, and a name that is used is looked up in it.

Objects live in a heap and are known by their address. What a program can hold besides references to
them is of no concern here, so the type `α` of all other values is arbitrary, and so is the `Host`:
what a new object's fields hold before anything is assigned to them, and how values read as text.

`this` is a name like the others, except that it is in scope from the start and no parameter can
have it: it is a reserved word.
-/

set_option autoImplicit false

namespace AccessorGen.Java

variable {α : Type}

/-- What a variable or a field holds. -/
inductive Value (α : Type)
  /-- A reference to the object at the address. -/
  | object (address : Nat)
  | other (value : α)

/-- An object: the class it was made of, by the name used there, and what its fields hold. -/
structure Obj (α : Type) where
  type : String
  fields : String → Value α

/-- The object with another value in one of its fields. -/
def Obj.set (o : Obj α) (field : String) (v : Value α) : Obj α :=
  { o with fields := fun name => if name = field then v else o.fields name }

@[simp] theorem Obj.type_set (o : Obj α) (field : String) (v : Value α) :
    (o.set field v).type = o.type := rfl

@[simp] theorem Obj.fields_set_self (o : Obj α) (field : String) (v : Value α) :
    (o.set field v).fields field = v := by simp [Obj.set]

theorem Obj.fields_set_of_ne (o : Obj α) {field name : String} (v : Value α) (h : name ≠ field) :
    (o.set field v).fields name = o.fields name := by simp [Obj.set, h]

/-- The objects made so far; the address of an object is its position. -/
abbrev Heap (α : Type) := List (Obj α)

/-- What the program around the generated methods decides. -/
structure Host (α : Type) where
  /-- What the fields of a new object of the type hold. -/
  initial : String → String → Value α
  /-- The text of a value by the conversion that its type selects; that of an array of characters
  fails when there is no array. -/
  typedText : Heap α → Value α → Option String
  /-- The text of a value by the conversion of objects, which never fails. -/
  objectText : Heap α → Value α → String

/-- The text of a value by one conversion or the other. -/
def Host.shown (host : Host α) (heap : Heap α) (asObject : Bool) (v : Value α) : Option String :=
  if asObject then some (host.objectText heap v) else host.typedText heap v

/-- Why a method cannot be run. -/
inductive Fault
  /-- A second declaration of the name. -/
  | redeclared (name : String)
  /-- The name is not in scope, or stands for something else than is asked of it. -/
  | unresolved (name : String)
  /-- The value of the field has no text. -/
  | noText (field : String)
  /-- There are more or fewer arguments than parameters. -/
  | wrongArguments
  /-- Something stands behind a return. -/
  | unreachable
  deriving DecidableEq, Repr

/-- What a name stands for: a value, or the string under construction. -/
inductive Binding (α : Type)
  | value (v : Value α)
  | builder (text : String)

/-- The names in scope; of several entries for one name the first counts. -/
abbrev Scope (α : Type) := List (String × Binding α)

namespace Scope

/-- The scope with one more name in it. -/
def declare (s : Scope α) (name : String) (b : Binding α) : Except Fault (Scope α) :=
  if (s.lookup name).isSome then .error (.redeclared name) else .ok ((name, b) :: s)

/-- The value of the variable. -/
def value (s : Scope α) (name : String) : Except Fault (Value α) :=
  match s.lookup name with
  | some (.value v) => .ok v
  | _ => .error (.unresolved name)

/-- The text under construction in the variable. -/
def text (s : Scope α) (name : String) : Except Fault String :=
  match s.lookup name with
  | some (.builder t) => .ok t
  | _ => .error (.unresolved name)

/-- The object that the variable refers to, with its address. -/
def target (s : Scope α) (heap : Heap α) (name : String) : Except Fault (Nat × Obj α) :=
  match s.lookup name with
  | some (.value (.object a)) =>
    match heap[a]? with
    | some o => .ok (a, o)
    | none => .error (.unresolved name)
  | _ => .error (.unresolved name)

end Scope

/-- The name of the string under construction. -/
def builderName : String := "sb"

/-- What calling a method gives. -/
inductive Outcome (α : Type)
  | done
  | value (v : Value α)
  | text (t : String)

/-- Where a run stands: the objects, and the names in scope. -/
structure State (α : Type) where
  heap : Heap α
  scope : Scope α

/-- What a statement leaves: the next state, and the outcome if it ends the method. -/
def Statement.exec (host : Host α) (st : State α) :
    Statement → Except Fault (State α × Option (Outcome α))
  | .declareNew type name => do
    let scope ← st.scope.declare name (.value (.object st.heap.length))
    return (⟨st.heap ++ [⟨type, host.initial type⟩], scope⟩, none)
  | .assign object field name => do
    let (a, o) ← st.scope.target st.heap object
    let v ← st.scope.value name
    return (⟨st.heap.set a (o.set field v), st.scope⟩, none)
  | .returnVariable name => do
    let v ← st.scope.value name
    return (st, some (.value v))
  | .returnField object field => do
    let (_, o) ← st.scope.target st.heap object
    return (st, some (.value (o.fields field)))
  | .startString text => do
    let scope ← st.scope.declare builderName (.builder text)
    return (⟨st.heap, scope⟩, none)
  | .appendText text => do
    let t ← st.scope.text builderName
    return (⟨st.heap, (builderName, .builder (t ++ text)) :: st.scope⟩, none)
  | .appendField label object field asObject => do
    let t ← st.scope.text builderName
    let (_, o) ← st.scope.target st.heap object
    match host.shown st.heap asObject (o.fields field) with
    | some shown =>
      return (⟨st.heap, (builderName, .builder (t ++ label ++ shown)) :: st.scope⟩, none)
    | none => .error (.noText field)
  | .returnString => do
    let t ← st.scope.text builderName
    return (st, some (.text t))

/-- Runs the statements of a method from the first to the last. -/
def run (host : Host α) (st : State α) : List Statement → Except Fault (Heap α × Outcome α)
  | [] => .ok (st.heap, .done)
  | s :: rest => do
    match ← s.exec host st with
    | (next, none) => run host next rest
    | (next, some outcome) =>
      if rest.isEmpty then return (next.heap, outcome) else .error .unreachable

/-- What a call needs to know of a method. -/
structure Routine where
  isStatic : Bool
  returnType : String
  name : String
  parameters : List Parameter
  body : List Statement
  deriving DecidableEq, Repr

/-- The method without its documentation and its layout. -/
def Method.routine (m : Method) : Routine :=
  ⟨m.isStatic, m.returnType, m.name, m.parameters, m.body⟩

/-- The scope with the parameters in it, each holding its argument. -/
def declareAll (s : Scope α) : List Parameter → List (Value α) → Except Fault (Scope α)
  | [], [] => .ok s
  | p :: ps, v :: vs => do declareAll (← s.declare p.name (.value v)) ps vs
  | _, _ => .error .wrongArguments

namespace Routine

/-- Calls a static method, or another one on an object. -/
def call (r : Routine) (host : Host α) (heap : Heap α) (receiver : Option Nat)
    (arguments : List (Value α)) : Except Fault (Heap α × Outcome α) := do
  let start : Scope α := receiver.toList.map fun a => ("this", .value (.object a))
  let scope ← declareAll start r.parameters arguments
  run host ⟨heap, scope⟩ r.body

/-- Applies the method to an object: a static one takes it as its first argument, another one is
called on it. -/
def apply (r : Routine) (host : Host α) (heap : Heap α) (address : Nat)
    (arguments : List (Value α)) : Except Fault (Heap α × Outcome α) :=
  if r.isStatic then r.call host heap none (.object address :: arguments)
  else r.call host heap (some address) arguments

end Routine

end AccessorGen.Java
