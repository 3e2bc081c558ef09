import AccessorGen.Proofs.ClassOutcome
import AccessorGen.Proofs.Member.Arranged
import AccessorGen.Proofs.Schema.MarkerNames

/-!
# What the check warns of

Whether a field is static and whether it is marked is asked twice: by the check, of what the schema says,
and by generation, of what was described. The schema can say `static` in two ways, may leave the modifiers
out, and may put on a field a marker that is for classes only. All of this is settled when a field is
described (`FieldSpec.isStatic_described`, `FieldSpec.isMarked_described`), so both get the same answers.

The check warns of a marker that is listed twice and of markers that are without effect. The warnings of
the second kind are read off the described class alone, and they are right: what they are about generates
nothing.
-/

set_option autoImplicit false

namespace AccessorGen

/-! ## The warnings -/

/-- Whether the warning is about a marker that stands twice in a list. -/
def Warning.isRepetition : Warning → Bool
  | .repeatedMarker _ _ => true
  | .markedStaticField _ | .unmarkedClass _ | .remark _ => false

/-- The warnings of a report about what has no effect. -/
def Report.idleWarnings (r : Report) : List Warning := r.warnings.filter (!·.isRepetition)

namespace Report

@[simp] theorem idleWarnings_append (r s : Report) :
    (r ++ s).idleWarnings = r.idleWarnings ++ s.idleWarnings := by
  simp [idleWarnings]

@[simp] theorem idleWarnings_empty : empty.idleWarnings = [] := rfl

@[simp] theorem idleWarnings_error (issue : Issue) : (error issue).idleWarnings = [] := rfl

@[simp] theorem idleWarnings_warning (w : Warning) :
    (warning w).idleWarnings = if w.isRepetition then [] else [w] := by
  cases h : w.isRepetition <;> simp [idleWarnings, warning, addWarning, empty, h]

@[simp] theorem idleWarnings_onlyIf (condition : Bool) (r : Report) :
    (onlyIf condition r).idleWarnings = if condition then r.idleWarnings else [] := by
  cases condition <;> rfl

@[simp] theorem idleWarnings_concat (rs : List Report) :
    (concat rs).idleWarnings = rs.flatMap (·.idleWarnings) := by
  induction rs with
  | nil => rfl
  | cons r rs ih =>
    rw [List.flatMap_cons, ← ih]
    exact idleWarnings_append r (concat rs)

end Report

/-- Whether a marker counts that is put on the field. -/
def FieldSpec.isMarked (f : FieldSpec) : Bool := !(recognizedMarkers true f.markers).isEmpty

theorem idleWarnings_checkIdentifier (what location text : String) :
    (checkIdentifier what location text).idleWarnings = [] := by
  unfold checkIdentifier
  split <;> simp

theorem idleWarnings_checkMarker (location : String) (onField : Bool) (seen : List Marker)
    (name : String) : (checkMarker location onField seen name).idleWarnings = [] := by
  unfold checkMarker
  cases Marker.ofName? name with
  | none => rfl
  | some m => cases h : onField && !m.fitsField <;> simp [h, Warning.isRepetition]

theorem idleWarnings_checkMarkersFrom (location : String) (onField : Bool) (seen : List Marker)
    (names : List String) : (checkMarkersFrom location onField seen names).idleWarnings = [] := by
  induction names generalizing seen with
  | nil => rfl
  | cons name rest ih =>
    rw [checkMarkersFrom, Report.idleWarnings_append, idleWarnings_checkMarker, ih, List.append_nil]

namespace ClassSpec

theorem idleWarnings_checkName (c : ClassSpec) : c.checkName.idleWarnings = [] := by
  unfold checkName
  by_cases hempty : c.name = ""
  · simp [hempty]
  · cases c.package <;> simp [hempty, idleWarnings_checkIdentifier]

theorem idleWarnings_checkSupertypes (c : ClassSpec) : c.checkSupertypes.idleWarnings = [] := by
  simp [checkSupertypes]

theorem idleWarnings_checkField (c : ClassSpec) (seen : List String) (f : FieldSpec) :
    (c.checkField seen f).idleWarnings =
      if f.declaredStatic && f.isMarked then [.markedStaticField (c.fieldLocation f)] else [] := by
  simp [checkField, checkMarkers, idleWarnings_checkIdentifier, idleWarnings_checkMarkersFrom,
    FieldSpec.isMarked, Warning.isRepetition]

theorem idleWarnings_checkFieldsFrom (c : ClassSpec) (seen : List String) (fs : List FieldSpec) :
    (c.checkFieldsFrom seen fs).idleWarnings =
      (fs.filter fun f => f.declaredStatic && f.isMarked).map
        fun f => .markedStaticField (c.fieldLocation f) := by
  induction fs generalizing seen with
  | nil => rfl
  | cons f rest ih =>
    rw [checkFieldsFrom, Report.idleWarnings_append, idleWarnings_checkField, ih, List.filter_cons]
    cases f.declaredStatic && f.isMarked <;> rfl

/-- The check warns of each static field that is marked, and of a class in which nothing else is. -/
theorem idleWarnings_check (c : ClassSpec) :
    c.check.idleWarnings =
      ((c.fields.filter fun f => f.declaredStatic && f.isMarked).map
        fun f => .markedStaticField (c.fieldLocation f)) ++
      if c.isMarked then [] else [.unmarkedClass c.name] := by
  cases h : c.isMarked <;>
    simp [check, checkMarkers, idleWarnings_checkName, idleWarnings_checkSupertypes,
      idleWarnings_checkMarkersFrom, idleWarnings_checkFieldsFrom, Warning.isRepetition, h]

end ClassSpec

/-! ## The two answers -/

theorem mem_recognize_iff {onField : Bool} {seen : List Marker} {name : String} {m : Marker} :
    m ∈ recognize onField seen name ↔
      m ∈ seen ∨ name = m.name ∧ (onField = true → m.fitsField = true) := by
  rw [← Marker.ofName?_eq_some_iff, recognize]
  cases Marker.ofName? name with
  | none => simp
  | some k =>
    simp only [Option.some.injEq, Bool.or_eq_true, Bool.and_eq_true, Bool.not_eq_true',
      List.contains_iff_mem]
    split
    · next hdropped =>
      refine ⟨Or.inl, ?_⟩
      rintro (hm | ⟨rfl, hfits⟩)
      · exact hm
      · rcases hdropped with ⟨hon, hmisplaced⟩ | hseen
        · exact absurd (hfits hon) (Bool.eq_false_iff.mp hmisplaced)
        · exact hseen
    · next hkept =>
      rw [List.mem_append, List.mem_singleton]
      refine or_congr_right ⟨?_, fun h => h.1.symm⟩
      rintro rfl
      refine ⟨rfl, fun hon => ?_⟩
      by_contra hmisplaced
      exact hkept (Or.inl ⟨hon, Bool.eq_false_iff.mpr hmisplaced⟩)

/-- The markers that count are those that are named and may stand there. -/
theorem mem_recognizedMarkers_iff {onField : Bool} {names : List String} {m : Marker} :
    m ∈ recognizedMarkers onField names ↔
      m.name ∈ names ∧ (onField = true → m.fitsField = true) := by
  have hfrom : ∀ seen, m ∈ names.foldl (recognize onField) seen ↔
      m ∈ seen ∨ m.name ∈ names ∧ (onField = true → m.fitsField = true) := by
    induction names with
    | nil => simp
    | cons name rest ih =>
      intro seen
      rw [List.foldl_cons, ih, mem_recognize_iff, List.mem_cons, or_assoc, ← or_and_right,
        eq_comm (a := name)]
  rw [recognizedMarkers, hfrom]
  simp

theorem recognizedMarkers_ne_nil_iff {onField : Bool} {names : List String} :
    (!(recognizedMarkers onField names).isEmpty) = true ↔
      ∃ m : Marker, m.name ∈ names ∧ (onField = true → m.fitsField = true) := by
  rw [Bool.not_eq_true', List.isEmpty_eq_false_iff_exists_mem]
  exact exists_congr fun m => mem_recognizedMarkers_iff

namespace FieldSpec

theorem contains_static_allModifiers (f : FieldSpec) :
    f.allModifiers.contains "static" = f.declaredStatic := by
  have hsaid : (f.modifiers.getD ["private"]).contains "static" =
      (f.modifiers.getD []).contains "static" := by
    cases f.modifiers <;> rfl
  unfold allModifiers
  dsimp only
  rw [hsaid]
  cases hs : f.declaredStatic with
  | false =>
    rw [declaredStatic, Bool.or_eq_false_iff] at hs
    rw [Bool.false_and, if_neg Bool.false_ne_true, hsaid]
    exact hs.2
  | true =>
    cases hc : (f.modifiers.getD []).contains "static" with
    | true =>
      rw [Bool.not_true, Bool.and_false, if_neg Bool.false_ne_true, hsaid]
      exact hc
    | false => simp

theorem described_eq (f : FieldSpec) :
    f.described =
      { name := f.name
        type := f.type
        isStatic := f.declaredStatic
        modifiers := f.allModifiers
        initializer := f.initializer
        readMarked := (f.markers.filterMap Marker.ofName?).contains .getter
        writeMarked := (f.markers.filterMap Marker.ofName?).contains .setter } := by
  simp only [described, foldl_mark_eq, FieldDecl.withModifiers, contains_static_allModifiers,
    Bool.or_false]

/-- **The field is static for generation exactly when it is for the check.** -/
theorem isStatic_described (f : FieldSpec) : f.described.isStatic = f.declaredStatic := by
  rw [described_eq]

/-- **The field is marked for generation exactly when it is for the check.** -/
theorem isMarked_described (f : FieldSpec) :
    (f.described.readMarked || f.described.writeMarked) = f.isMarked := by
  rw [described_eq, Bool.eq_iff_iff, isMarked, recognizedMarkers_ne_nil_iff]
  simp only [Bool.or_eq_true, List.contains_iff_mem, mem_markers_iff, true_imp_iff]
  constructor
  · rintro (h | h)
    · exact ⟨.getter, h, rfl⟩
    · exact ⟨.setter, h, rfl⟩
  · rintro ⟨m, h, hfits⟩
    cases m with
    | getter => exact Or.inl h
    | setter => exact Or.inr h
    | allArgsConstructor | stringForm => cases hfits

end FieldSpec

namespace ClassSpec

theorem any_markers_described (c : ClassSpec) :
    c.described.markers.any = !(recognizedMarkers false c.markers).isEmpty := by
  rw [Bool.eq_iff_iff, MarkerSet.any_iff, recognizedMarkers_ne_nil_iff]
  refine exists_congr fun m => ?_
  show (MarkerSet.ofList (c.markers.filterMap Marker.ofName?)).has m = true ↔ _
  rw [MarkerSet.has_ofList, List.contains_iff_mem, mem_markers_iff]
  simp

theorem isMarked_described (c : ClassSpec) : c.described.isMarked = c.isMarked := by
  have hfields : (c.described.instanceFields.any fun f => f.readMarked || f.writeMarked) =
      c.fields.any fun f => !f.declaredStatic && f.isMarked := by
    simp only [described, ClassDecl.instanceFields, List.any_filter, List.any_map, Function.comp_def,
      FieldSpec.isStatic_described, FieldSpec.isMarked_described]
  rw [ClassDecl.isMarked, any_markers_described, hfields]
  rfl

end ClassSpec

/-! ## Classes without members -/

namespace ClassDecl

variable {c : ClassDecl}

theorem isMarked_eq_false_iff :
    c.isMarked = false ↔
      (c.markers.allArgsConstructor = false ∧ c.markers.getter = false ∧ c.markers.setter = false ∧
        c.markers.stringForm = false) ∧
      ∀ f ∈ c.instanceFields, f.readMarked = false ∧ f.writeMarked = false := by
  simp [isMarked, MarkerSet.any, and_assoc]

/-- What carries no marker asks for nothing. -/
theorem requests_eq_nil_of_not_isMarked (h : c.isMarked = false) : c.requests = [] := by
  obtain ⟨⟨hfactory, hget, hset, hstring⟩, hfields⟩ := isMarked_eq_false_iff.mp h
  refine Config.requests_eq_nil_iff.mpr ⟨hfactory, hstring, ?_, ?_⟩
  · refine List.filter_eq_nil_iff.mpr fun f hf => ?_
    simp [hget, (hfields f hf).1]
  · refine List.filter_eq_nil_iff.mpr fun f hf => ?_
    simp [hset, (hfields f hf).2]

/-- What carries a marker and asks for nothing has no field for its accessors. -/
theorem instanceFields_eq_nil_of_requests (hm : c.isMarked = true) (h : c.requests = []) :
    c.instanceFields = [] ∧ c.markers.allArgsConstructor = false ∧ c.markers.stringForm = false := by
  obtain ⟨hfactory, hstring, hread, hwrite⟩ := Config.requests_eq_nil_iff.mp h
  refine ⟨?_, hfactory, hstring⟩
  rw [readFields, List.filter_eq_nil_iff] at hread
  rw [writeFields, List.filter_eq_nil_iff] at hwrite
  simp only [Bool.or_eq_true, not_or, Bool.not_eq_true] at hread hwrite
  rw [List.eq_nil_iff_forall_not_mem]
  intro f hf
  -- one field is enough to see that the class has no accessor marker either
  have hunmarked : c.isMarked = false :=
    isMarked_eq_false_iff.mpr
      ⟨⟨hfactory, (hread f hf).1, (hwrite f hf).1, hstring⟩,
        fun g hg => ⟨(hread g hg).2, (hwrite g hg).2⟩⟩
  rw [hunmarked] at hm
  cases hm

end ClassDecl

/-- A class has no unit exactly when it asks for nothing. -/
theorem Config.classUnit_eq_ok_none_iff {config : Config} {c : ClassDecl} :
    config.classUnit c = .ok none ↔ c.requests = [] := by
  constructor
  · intro h
    rw [classUnit_eq] at h
    cases hf : c.touchedFields.find? config.hides with
    | some f =>
      rw [hf] at h
      cases h
    | none =>
      rw [hf, Option.elim_none, composeUnit_eq_ok_none_iff, List.map_eq_nil_iff] at h
      exact h
  · intro h
    have htouched : c.touchedFields = [] := by
      rw [← ClassDecl.flatMap_fields_requests, h]
      rfl
    rw [classUnit_eq, htouched, h]
    rfl

namespace ClassSpec

theorem eq_described_of_describe {c : ClassSpec} {d : ClassDecl} (h : c.describe = .ok d) :
    d = c.described := by
  rw [describe_eq] at h
  cases hu : c.unknownMarkers with
  | nil =>
    rw [hu] at h
    exact (Except.ok.inj h).symm
  | cons issue rest =>
    rw [hu] at h
    cases h

/-- **The warnings of the check are true of what is generated.** Field by field the check and the
description agree on what is static. The check warns of the static fields that are described with a marker,
of each in its place, and of a class that is described without any; and such a class has no unit, whatever
the configuration. A class that has no unit although it is marked has no instance field, and asks for
nothing but accessors. -/
theorem warnings_of_describe {c : ClassSpec} {d : ClassDecl} (h : c.describe = .ok d) :
    List.Forall₂ (fun s f => f.name = s.name ∧ f.isStatic = s.declaredStatic ∧
      f.modifiers.contains "static" = s.declaredStatic) c.fields d.fields ∧
    c.check.idleWarnings =
      ((d.fields.filter fun f => f.isStatic && (f.readMarked || f.writeMarked)).map
        fun f => .markedStaticField (c.name ++ "." ++ f.name)) ++
      (if d.isMarked then [] else [.unmarkedClass c.name]) ∧
    (d.isMarked = false → ∀ config : Config, config.classUnit d = .ok none) ∧
    (d.isMarked = true → ∀ config : Config, config.classUnit d = .ok none →
      d.instanceFields = [] ∧ d.markers.allArgsConstructor = false ∧ d.markers.stringForm = false) := by
  rw [eq_described_of_describe h]
  refine ⟨?_, ?_, fun hm config => ?_, fun hm config hunit => ?_⟩
  · refine List.forall₂_map_right_iff.mpr (List.forall₂_same.mpr fun f _ => ?_)
    rw [FieldSpec.described_eq]
    exact ⟨rfl, rfl, f.contains_static_allModifiers⟩
  · rw [idleWarnings_check, isMarked_described]
    congr 1
    simp only [described, List.filter_map, List.map_map, Function.comp_def,
      FieldSpec.isStatic_described, FieldSpec.isMarked_described]
    simp only [FieldSpec.described_eq]
    rfl
  · exact Config.classUnit_eq_ok_none_iff.mpr (ClassDecl.requests_eq_nil_of_not_isMarked hm)
  · exact ClassDecl.instanceFields_eq_nil_of_requests hm (Config.classUnit_eq_ok_none_iff.mp hunit)

/-- A class in which a marker stands on a static field, and one that is for classes on another field. -/
def registry : ClassSpec where
  name := "demo.Registry"
  fields := [
    { name := "COUNT", type := "int", isStatic := some true, markers := ["Getter", "Getter"] },
    { name := "LIMIT", type := "int", modifiers := some ["static", "final"] },
    { name := "label", type := "String", markers := ["ToString"] }]

theorem warnings_of_describe_registry :
    registry.describe = .ok registry.described ∧
      registry.check.idleWarnings =
        [.markedStaticField "demo.Registry.COUNT", .unmarkedClass "demo.Registry"] ∧
      ∀ config : Config, config.classUnit registry.described = .ok none := by
  have hdescribe : registry.describe = .ok registry.described := by
    rw [describe_eq, show registry.unknownMarkers = [] from by decide +kernel]
    rfl
  obtain ⟨-, hwarnings, hnone, -⟩ := warnings_of_describe hdescribe
  exact ⟨hdescribe, hwarnings.trans (by decide +kernel), hnone (by decide +kernel)⟩

end ClassSpec

end AccessorGen
