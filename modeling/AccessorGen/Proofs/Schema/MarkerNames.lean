import AccessorGen.Proofs.Schema.Described
import AccessorGen.Proofs.Schema.WellFormed

/-!
# Names of markers

The names of markers are read twice. The check goes on after a name that no marker has and reports
every one of them, among the issues of all its other rules; the description stops at the first. Both
meet the names in one order, `ClassSpec.unknownMarkers`: the check has that list in its report
(`unknownMarkers_check`), and the description fails with the head of it, or else gives what is described
when names that are unknown are passed over (`describe_eq`).

What is described in that way depends on the lists of names only through which names are in them, since
the markers of a class are a set and those of a field two switches. So do the rules of the check that
can make a report invalid: a repeated name is only warned of.
-/

set_option autoImplicit false

namespace AccessorGen

/-! ## The check -/

/-- The issues of a report that are about a name that no marker has. -/
def Report.unknownMarkers (r : Report) : List Issue := r.errors.filter (·.kind == .unknownMarker)

namespace Report

@[simp] theorem unknownMarkers_append (r s : Report) :
    (r ++ s).unknownMarkers = r.unknownMarkers ++ s.unknownMarkers := by
  simp [unknownMarkers]

@[simp] theorem unknownMarkers_empty : empty.unknownMarkers = [] := rfl

@[simp] theorem unknownMarkers_warning (w : Warning) : (warning w).unknownMarkers = [] := rfl

@[simp] theorem unknownMarkers_error (issue : Issue) :
    (error issue).unknownMarkers = if issue.kind = .unknownMarker then [issue] else [] := by
  by_cases h : issue.kind = .unknownMarker <;> simp [unknownMarkers, error, addError, empty, h]

@[simp] theorem unknownMarkers_onlyIf (condition : Bool) (r : Report) :
    (onlyIf condition r).unknownMarkers = if condition then r.unknownMarkers else [] := by
  cases condition <;> rfl

@[simp] theorem unknownMarkers_concat (rs : List Report) :
    (concat rs).unknownMarkers = rs.flatMap (·.unknownMarkers) := by
  induction rs with
  | nil => rfl
  | cons r rs ih =>
    rw [List.flatMap_cons, ← ih]
    exact unknownMarkers_append r (concat rs)

end Report

/-- The issue of a name that no marker has. -/
def unknownMarker? (location name : String) : Option Issue :=
  match Marker.ofName? name with
  | some _ => none
  | none => some ⟨"Unknown marker: " ++ name, some location, .unknownMarker⟩

/-- The issues of the names in the list that no marker has. -/
def unknownMarkers (location : String) (names : List String) : List Issue :=
  names.filterMap (unknownMarker? location)

/-- The issues of the class, then those of its fields. -/
def ClassSpec.unknownMarkers (c : ClassSpec) : List Issue :=
  AccessorGen.unknownMarkers c.name c.markers ++
    c.fields.flatMap fun f => AccessorGen.unknownMarkers (c.fieldLocation f) f.markers

theorem unknownMarkers_cons (location name : String) (rest : List String) :
    unknownMarkers location (name :: rest) =
      (unknownMarker? location name).toList ++ unknownMarkers location rest := by
  cases h : unknownMarker? location name <;> simp [unknownMarkers, h]

theorem unknownMarkers_checkIdentifier (what location text : String) :
    (checkIdentifier what location text).unknownMarkers = [] := by
  unfold checkIdentifier
  split <;> simp

theorem unknownMarkers_checkMarker (location : String) (onField : Bool) (seen : List Marker)
    (name : String) :
    (checkMarker location onField seen name).unknownMarkers =
      (unknownMarker? location name).toList := by
  unfold checkMarker unknownMarker?
  cases Marker.ofName? name with
  | none => rfl
  | some m => cases h : onField && !m.fitsField <;> simp [h]

theorem unknownMarkers_checkMarkersFrom (location : String) (onField : Bool) (seen : List Marker)
    (names : List String) :
    (checkMarkersFrom location onField seen names).unknownMarkers =
      unknownMarkers location names := by
  induction names generalizing seen with
  | nil => rfl
  | cons name rest ih =>
    rw [checkMarkersFrom, Report.unknownMarkers_append, unknownMarkers_checkMarker, ih,
      unknownMarkers_cons]

namespace ClassSpec

theorem unknownMarkers_checkName (c : ClassSpec) : c.checkName.unknownMarkers = [] := by
  unfold checkName
  by_cases hempty : c.name = ""
  · simp [hempty]
  · cases c.package <;> simp [hempty, unknownMarkers_checkIdentifier]

theorem unknownMarkers_checkSupertypes (c : ClassSpec) : c.checkSupertypes.unknownMarkers = [] := by
  simp [checkSupertypes]

theorem unknownMarkers_checkField (c : ClassSpec) (seen : List String) (f : FieldSpec) :
    (c.checkField seen f).unknownMarkers =
      AccessorGen.unknownMarkers (c.fieldLocation f) f.markers := by
  simp [checkField, checkMarkers, unknownMarkers_checkIdentifier, unknownMarkers_checkMarkersFrom]

theorem unknownMarkers_checkFieldsFrom (c : ClassSpec) (seen : List String) (fs : List FieldSpec) :
    (c.checkFieldsFrom seen fs).unknownMarkers =
      fs.flatMap fun f => AccessorGen.unknownMarkers (c.fieldLocation f) f.markers := by
  induction fs generalizing seen with
  | nil => rfl
  | cons f rest ih =>
    rw [checkFieldsFrom, Report.unknownMarkers_append, unknownMarkers_checkField, ih,
      List.flatMap_cons]

/-- **The check reports every unknown marker.** -/
theorem unknownMarkers_check (c : ClassSpec) : c.check.unknownMarkers = c.unknownMarkers := by
  simp [check, checkMarkers, ClassSpec.unknownMarkers, unknownMarkers_checkName,
    unknownMarkers_checkSupertypes, unknownMarkers_checkMarkersFrom, unknownMarkers_checkFieldsFrom]

end ClassSpec

/-! ## The description -/

/-- The result, unless there are issues; then the first of them is the error. -/
def unlessIssue {α : Type} (issues : List Issue) (result : α) : Except Error α :=
  match issues with
  | [] => .ok result
  | issue :: _ => .error (.validation [issue])

section

variable {α β : Type}

/-- A traversal stops at the first issue of all its elements. -/
theorem mapM_eq_unlessIssue {f : α → Except Error β} {issues : α → List Issue} {result : α → β}
    (h : ∀ a, f a = unlessIssue (issues a) (result a)) (as : List α) :
    as.mapM f = unlessIssue (as.flatMap issues) (as.map result) := by
  induction as with
  | nil => rfl
  | cons a as ih =>
    rw [List.mapM_cons, h, ih, List.flatMap_cons, List.map_cons]
    cases issues a with
    | cons issue rest => rfl
    | nil => cases as.flatMap issues <;> rfl

theorem unlessIssue_eq_error_iff {issues : List Issue} {a : α} {e : Error} :
    unlessIssue issues a = .error e ↔
      ∃ issue, issues.head? = some issue ∧ e = .validation [issue] := by
  cases issues with
  | nil => simp [unlessIssue]
  | cons issue rest => simp [unlessIssue, eq_comm]

end

theorem readMarkers_eq (location : String) (names : List String) :
    readMarkers location names =
      unlessIssue (unknownMarkers location names) (names.filterMap Marker.ofName?) := by
  induction names with
  | nil => rfl
  | cons name rest ih =>
    rw [readMarkers] at ih ⊢
    rw [List.mapM_cons, ih, unknownMarkers_cons, List.filterMap_cons, unknownMarker?]
    cases Marker.ofName? name with
    | none => rfl
    | some m => cases unknownMarkers location rest <;> rfl

/-- The field as it is described when names that no marker has are passed over. -/
def FieldSpec.described (f : FieldSpec) : FieldDecl :=
  let field : FieldDecl := { name := f.name, type := f.type, initializer := f.initializer }
  (f.markers.filterMap Marker.ofName?).foldl FieldDecl.mark (field.withModifiers f.allModifiers)

/-- The class as it is described when names that no marker has are passed over. -/
def ClassSpec.described (c : ClassSpec) : ClassDecl :=
  { ClassDecl.ofName c.name with
    package := c.package
    superclass := c.superclass
    interfaces := c.interfaces
    fields := c.fields.map (·.described)
    markers := .ofList (c.markers.filterMap Marker.ofName?) }

namespace ClassSpec

theorem describeField_eq (c : ClassSpec) (f : FieldSpec) :
    c.describeField f =
      unlessIssue (AccessorGen.unknownMarkers (c.fieldLocation f) f.markers) f.described := by
  rw [describeField, readMarkers_eq]
  cases AccessorGen.unknownMarkers (c.fieldLocation f) f.markers <;> rfl

/-- **A class is described, or the first unknown marker is the error.** -/
theorem describe_eq (c : ClassSpec) : c.describe = unlessIssue c.unknownMarkers c.described := by
  rw [describe, readMarkers_eq, mapM_eq_unlessIssue c.describeField_eq, unknownMarkers]
  cases AccessorGen.unknownMarkers c.name c.markers with
  | cons issue rest => rfl
  | nil =>
    cases c.fields.flatMap fun f => AccessorGen.unknownMarkers (c.fieldLocation f) f.markers <;> rfl

end ClassSpec

/-! ## Lists and sets -/

/-- The same field with its markers listed in another way: the same names, in any order and any number
of times each. -/
inductive FieldSpec.MarkedAlike (f : FieldSpec) : FieldSpec → Prop
  | relisted (names : List String) (h : ∀ name, name ∈ names ↔ name ∈ f.markers) :
      f.MarkedAlike { f with markers := names }

/-- The same class with its own markers and those of its fields listed in another way. -/
inductive ClassSpec.MarkedAlike (c : ClassSpec) : ClassSpec → Prop
  | relisted (names : List String) (fields : List FieldSpec)
      (h : ∀ name, name ∈ names ↔ name ∈ c.markers)
      (hfields : List.Forall₂ FieldSpec.MarkedAlike c.fields fields) :
      c.MarkedAlike { c with markers := names, fields }

/-- Whether every name in the marker lists of the class and its fields is that of a marker. -/
def ClassSpec.MarkersKnown (c : ClassSpec) : Prop :=
  (∀ name ∈ c.markers, ∃ m : Marker, name = m.name) ∧
    ∀ f ∈ c.fields, ∀ name ∈ f.markers, ∃ m : Marker, name = m.name

theorem unknownMarkers_eq_nil_iff {location : String} {names : List String} :
    unknownMarkers location names = [] ↔ ∀ name ∈ names, ∃ m : Marker, name = m.name := by
  rw [unknownMarkers, List.filterMap_eq_nil_iff]
  apply forall₂_congr
  intro name _
  rw [unknownMarker?]
  cases h : Marker.ofName? name with
  | none =>
    simp only [reduceCtorEq, false_iff, not_exists, ← Marker.ofName?_eq_some_iff]
    intro m hm
    rw [h] at hm
    cases hm
  | some m => exact iff_of_true rfl ⟨m, Marker.ofName?_eq_some_iff.mp h⟩

theorem ClassSpec.unknownMarkers_eq_nil_iff {c : ClassSpec} :
    c.unknownMarkers = [] ↔ c.MarkersKnown := by
  simp only [ClassSpec.unknownMarkers, List.append_eq_nil_iff, List.flatMap_eq_nil_iff,
    AccessorGen.unknownMarkers_eq_nil_iff, MarkersKnown]

theorem mem_markers_iff {names : List String} {m : Marker} :
    m ∈ names.filterMap Marker.ofName? ↔ m.name ∈ names := by
  simp [List.mem_filterMap, Marker.ofName?_eq_some_iff]

/-- Which markers are listed depends only on which names are. -/
theorem contains_markers_congr {names relisted : List String}
    (h : ∀ name, name ∈ relisted ↔ name ∈ names) (m : Marker) :
    (relisted.filterMap Marker.ofName?).contains m = (names.filterMap Marker.ofName?).contains m := by
  rw [List.contains_eq_mem, List.contains_eq_mem, decide_eq_decide, mem_markers_iff, mem_markers_iff]
  exact h m.name

namespace MarkerSet

theorem has_foldl_insert (ms : List Marker) (s : MarkerSet) (k : Marker) :
    (ms.foldl insert s).has k = (ms.contains k || s.has k) := by
  induction ms generalizing s with
  | nil => rfl
  | cons m rest ih =>
    rw [List.foldl_cons, ih, has_insert, List.contains_cons, Bool.beq_comm]
    cases k == m <;> cases rest.contains k <;> rfl

theorem has_ofList (ms : List Marker) (k : Marker) : (ofList ms).has k = ms.contains k := by
  rw [ofList, has_foldl_insert]
  cases k <;> exact Bool.or_false _

theorem ext_has {s t : MarkerSet} (h : ∀ m, s.has m = t.has m) : s = t := by
  obtain ⟨_, _, _, _⟩ := s
  obtain ⟨_, _, _, _⟩ := t
  rw [mk.injEq]
  exact ⟨h .allArgsConstructor, h .getter, h .setter, h .stringForm⟩

theorem ofList_congr {ms ns : List Marker} (h : ∀ m, ms.contains m = ns.contains m) :
    ofList ms = ofList ns := by
  apply ext_has
  intro m
  rw [has_ofList, has_ofList, h]

end MarkerSet

theorem foldl_mark_eq (ms : List Marker) (f : FieldDecl) :
    ms.foldl FieldDecl.mark f =
      { f with
        readMarked := ms.contains .getter || f.readMarked
        writeMarked := ms.contains .setter || f.writeMarked } := by
  induction ms generalizing f with
  | nil => rfl
  | cons m rest ih =>
    rw [List.foldl_cons, ih]
    cases m <;> simp [FieldDecl.mark]

theorem FieldSpec.MarkedAlike.wellFormed_iff {f g : FieldSpec} (h : f.MarkedAlike g) :
    g.WellFormed ↔ f.WellFormed := by
  cases h with
  | relisted names h =>
    constructor
    · intro hg
      exact { hg with markers := fun name hname => hg.markers name ((h name).mpr hname) }
    · intro hf
      exact { hf with markers := fun name hname => hf.markers name ((h name).mp hname) }

theorem FieldSpec.described_of_markedAlike {f g : FieldSpec} (h : f.MarkedAlike g) :
    g.described = f.described := by
  cases h with
  | relisted names h =>
    have hcontains := contains_markers_congr h
    simp only [FieldSpec.described, foldl_mark_eq, hcontains]
    rfl

namespace ClassSpec

variable {c d : ClassSpec}

theorem described_of_markedAlike (h : c.MarkedAlike d) : d.described = c.described := by
  cases h with
  | relisted names fields h hfields =>
    have hmarkers := MarkerSet.ofList_congr (contains_markers_congr h)
    have hdescribed : fields.map (·.described) = c.fields.map (·.described) :=
      (map_eq_map_of_forall₂ hfields fun _ _ hf => (FieldSpec.described_of_markedAlike hf).symm).symm
    simp only [described, hmarkers, hdescribed]

theorem markersKnown_of_markedAlike (h : c.MarkedAlike d) : d.MarkersKnown ↔ c.MarkersKnown := by
  cases h with
  | relisted names fields h hfields =>
    refine and_congr (forall_congr' fun name => imp_congr_left (h name)) ?_
    refine forall_mem_iff_of_forall₂ hfields fun f g hf => ?_
    cases hf with
    | relisted names h => exact forall_congr' fun name => imp_congr_left (h name)

theorem wellFormed_of_markedAlike (h : c.MarkedAlike d) : d.WellFormed ↔ c.WellFormed := by
  cases h with
  | relisted names fields h hfields =>
    have hnames : fields.map (·.name) = c.fields.map (·.name) :=
      (map_eq_map_of_forall₂ hfields fun _ _ hf => by cases hf; rfl).symm
    have hwellFormed : (∀ f ∈ fields, f.WellFormed) ↔ ∀ f ∈ c.fields, f.WellFormed :=
      forall_mem_iff_of_forall₂ hfields fun _ _ hf => hf.wellFormed_iff
    constructor
    · intro hd
      exact { hd with
        markers := fun name hname => hd.markers name ((h name).mpr hname)
        fields := hwellFormed.mp hd.fields
        distinct := hnames ▸ hd.distinct }
    · intro hc
      exact { hc with
        markers := fun name hname => hc.markers name ((h name).mp hname)
        fields := hwellFormed.mpr hc.fields
        distinct := hnames.symm ▸ hc.distinct }

/-- Repeated names are only warned of, and their order is of no account. -/
theorem isValid_check_of_markedAlike (h : c.MarkedAlike d) : d.check.isValid = c.check.isValid := by
  rw [Bool.eq_iff_iff, isValid_check_iff, isValid_check_iff]
  exact wellFormed_of_markedAlike h

theorem describe_of_markersKnown (h : c.MarkersKnown) : c.describe = .ok c.described := by
  rw [describe_eq, unknownMarkers_eq_nil_iff.mpr h]
  rfl

theorem exists_unknownMarker_iff :
    (∃ issue ∈ c.check.errors, issue.kind = .unknownMarker) ↔ c.unknownMarkers ≠ [] := by
  rw [← unknownMarkers_check, Report.unknownMarkers, ne_eq, List.filter_eq_nil_iff]
  simp

/-- **Describing a class and checking it agree about its markers.** The description fails exactly when the
check reports an unknown marker, and its error is then the first issue of that kind in the report, alone.
Otherwise the lists of names are read as sets: listing the same names in another order or more often
changes neither what the class is described as nor whether it passes the check. -/
theorem describe_agrees_with_check (c : ClassSpec) :
    ((∃ e, c.describe = .error e) ↔ ∃ issue ∈ c.check.errors, issue.kind = .unknownMarker) ∧
    (∀ e, c.describe = .error e ↔
      ∃ issue, c.check.errors.find? (·.kind == .unknownMarker) = some issue ∧
        e = .validation [issue]) ∧
    ∀ d, c.MarkedAlike d →
      (c.MarkersKnown → ∃ described, c.describe = .ok described ∧ d.describe = .ok described) ∧
      d.check.isValid = c.check.isValid := by
  have hfirst : ∀ e, c.describe = .error e ↔
      ∃ issue, c.check.errors.find? (·.kind == .unknownMarker) = some issue ∧
        e = .validation [issue] := by
    intro e
    rw [describe_eq, unlessIssue_eq_error_iff, ← unknownMarkers_check, Report.unknownMarkers,
      List.head?_filter]
  refine ⟨?_, hfirst, ?_⟩
  · rw [exists_unknownMarker_iff, describe_eq]
    cases c.unknownMarkers <;> simp [unlessIssue]
  · intro d hd
    refine ⟨?_, isValid_check_of_markedAlike hd⟩
    intro hknown
    refine ⟨c.described, describe_of_markersKnown hknown, ?_⟩
    rw [describe_of_markersKnown ((markersKnown_of_markedAlike hd).mpr hknown),
      described_of_markedAlike hd]

end ClassSpec

end AccessorGen
