import AccessorGen.ClassDecl

/-!
# Requests

What a class asks for, member by member. The markers of the class cover every instance field and
the markers of a field that field alone; where both ask for an accessor it is still one request.
-/

set_option autoImplicit false

namespace AccessorGen

/-- The kinds of members, in the order of emission. -/
inductive MemberKind
  | constructor
  | read
  | write
  | stringify
  deriving DecidableEq, Repr

namespace MemberKind

def rank : MemberKind → Nat
  | .constructor => 0
  | .read => 1
  | .write => 2
  | .stringify => 3

theorem rank_injective {j k : MemberKind} (h : j.rank = k.rank) : j = k := by
  cases j <;> cases k <;> first | rfl | exact absurd h (by decide)

end MemberKind

/-- One member to be generated. -/
inductive Request
  /-- The factory that takes these fields. -/
  | constructor (fields : List FieldDecl)
  /-- The read accessor of the field. -/
  | read (field : FieldDecl)
  /-- The write accessor of the field. -/
  | write (field : FieldDecl)
  /-- The string form that shows these fields. -/
  | stringify (fields : List FieldDecl)
  deriving DecidableEq, Repr

def Request.kind : Request → MemberKind
  | .constructor _ => .constructor
  | .read _ => .read
  | .write _ => .write
  | .stringify _ => .stringify

def Request.fields : Request → List FieldDecl
  | .constructor fields | .stringify fields => fields
  | .read field | .write field => [field]

namespace ClassDecl

def readFields (c : ClassDecl) : List FieldDecl :=
  c.instanceFields.filter fun f => c.markers.getter || f.readMarked

def writeFields (c : ClassDecl) : List FieldDecl :=
  c.instanceFields.filter fun f => c.markers.setter || f.writeMarked

/-- Everything the class asks for, in the order of emission. -/
def requests (c : ClassDecl) : List Request :=
  (if c.markers.allArgsConstructor then [.constructor c.instanceFields] else []) ++
    c.readFields.map .read ++ c.writeFields.map .write ++
    (if c.markers.stringForm then [.stringify c.instanceFields] else [])

end ClassDecl

end AccessorGen
