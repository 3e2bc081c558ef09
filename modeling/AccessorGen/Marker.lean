/-!
# Markers

A marker asks for generated members: on a class for every instance field, on a field for that
field alone. Only the two accessor markers make sense on a single field.
-/

set_option autoImplicit false

namespace AccessorGen

/-- What a class or a field may ask for. -/
inductive Marker
  | allArgsConstructor
  | getter
  | setter
  | stringForm
  deriving DecidableEq, Repr

namespace Marker

/-- Every marker, in the order of their declaration. -/
def all : List Marker := [.allArgsConstructor, .getter, .setter, .stringForm]

theorem mem_all (m : Marker) : m ∈ all := by cases m <;> decide

def name : Marker → String
  | .allArgsConstructor => "AllArgsConstructor"
  | .getter => "Getter"
  | .setter => "Setter"
  | .stringForm => "ToString"

/-- The marker of that exact name; case counts. -/
def ofName? (s : String) : Option Marker := all.find? fun m => m.name == s

@[simp] theorem ofName?_name (m : Marker) : ofName? m.name = some m := by cases m <;> decide

/-- No other text than its name stands for a marker. -/
theorem eq_name_of_ofName? {s : String} {m : Marker} (h : ofName? s = some m) : s = m.name := by
  have := List.find?_some h
  exact (eq_of_beq this).symm

def fitsField : Marker → Bool
  | .getter | .setter => true
  | .allArgsConstructor | .stringForm => false

end Marker

/-- The set of markers on a class, one switch per marker. -/
structure MarkerSet where
  allArgsConstructor : Bool := false
  getter : Bool := false
  setter : Bool := false
  stringForm : Bool := false
  deriving DecidableEq, Repr

namespace MarkerSet

def all : MarkerSet := ⟨true, true, true, true⟩

def has (s : MarkerSet) : Marker → Bool
  | .allArgsConstructor => s.allArgsConstructor
  | .getter => s.getter
  | .setter => s.setter
  | .stringForm => s.stringForm

def insert (s : MarkerSet) : Marker → MarkerSet
  | .allArgsConstructor => { s with allArgsConstructor := true }
  | .getter => { s with getter := true }
  | .setter => { s with setter := true }
  | .stringForm => { s with stringForm := true }

@[simp] theorem has_insert (s : MarkerSet) (m k : Marker) :
    (s.insert m).has k = (m == k || s.has k) := by cases m <;> cases k <;> rfl

def ofList (ms : List Marker) : MarkerSet := ms.foldl insert {}

def any (s : MarkerSet) : Bool :=
  s.allArgsConstructor || s.getter || s.setter || s.stringForm

theorem any_iff (s : MarkerSet) : s.any = true ↔ ∃ m, s.has m = true := by
  constructor
  · simp only [any, Bool.or_eq_true]
    rintro (((h | h) | h) | h)
    · exact ⟨.allArgsConstructor, h⟩
    · exact ⟨.getter, h⟩
    · exact ⟨.setter, h⟩
    · exact ⟨.stringForm, h⟩
  · rintro ⟨m, h⟩
    cases m <;> simp_all [any, has]

end MarkerSet

end AccessorGen
