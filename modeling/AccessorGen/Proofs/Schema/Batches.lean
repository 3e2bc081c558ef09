import AccessorGen.Proofs.Schema.Described
import AccessorGen.Proofs.Schema.WellFormed

/-!
# Batches of schemas

The conversion of a class reads the marker names a second time, so it could fail by itself, and the check
has seen to it that it does not (`exists_describe_of_isValid`). What becomes of a batch is therefore
settled by the check alone.

The check of a batch differs from the checks of its files only in that names must differ across files as
well. That is one equation for two batches put together (`describeAll_cons_eq_ok_iff`), and the rest is an
induction over the files.
-/

set_option autoImplicit false

namespace AccessorGen

/-! ## Conversion after the check -/

theorem exists_readMarkers {location : String} {onField : Bool} {names : List String}
    (h : (checkMarkers location onField names).isValid = true) (location' : String) :
    ∃ markers, readMarkers location' names = .ok markers := by
  rw [isValid_checkMarkers, List.all_eq_true] at h
  apply exists_mapM_eq_ok
  intro name hname
  obtain ⟨m, rfl, -⟩ := acceptsMarker_iff.mp (h name hname)
  exact ⟨m, by rw [Marker.ofName?_name]⟩

namespace ClassSpec

theorem exists_describeField {c : ClassSpec} {f : FieldSpec} (h : c.acceptsField f = true) :
    ∃ g, c.describeField f = .ok g := by
  rw [acceptsField, Bool.and_eq_true] at h
  obtain ⟨markers, hmarkers⟩ := exists_readMarkers h.2 (c.fieldLocation f)
  rw [describeField, hmarkers]
  exact ⟨_, rfl⟩

/-- **A class that passes the check is described.** -/
theorem exists_describe_of_isValid {c : ClassSpec} (h : c.check.isValid = true) :
    ∃ d, c.describe = .ok d := by
  simp only [check, Report.isValid_append, Bool.and_eq_true, isValid_checkFieldsFrom] at h
  obtain ⟨⟨⟨⟨-, hmarkers⟩, -⟩, haccepts, -⟩, -⟩ := h
  obtain ⟨markers, hm⟩ := exists_readMarkers hmarkers c.name
  obtain ⟨fields, hf⟩ := exists_mapM_eq_ok fun f hf => exists_describeField (haccepts f hf)
  rw [describe, hm, hf]
  exact ⟨_, rfl⟩

end ClassSpec

theorem exists_mapM_describe {classes : List ClassSpec}
    (h : (checkClasses classes).isValid = true) :
    ∃ ds, classes.mapM (·.describe) = .ok ds :=
  exists_mapM_eq_ok fun c hc => ClassSpec.exists_describe_of_isValid ((isValid_checkClasses.mp h).1 c hc)

/-! ## One batch -/

theorem describeAll_of_valid {schemas : List Schema}
    (h : (checkClasses (allClasses schemas)).isValid = true) :
    describeAll schemas = (allClasses schemas).mapM (·.describe) := if_pos h

theorem describeAll_of_invalid {schemas : List Schema}
    (h : (checkClasses (allClasses schemas)).isValid = false) :
    describeAll schemas = .error (.validation (checkClasses (allClasses schemas)).errors) :=
  if_neg (by rw [h]; exact Bool.false_ne_true)

theorem describeAll_eq_ok_iff {schemas : List Schema} {ds : List ClassDecl} :
    describeAll schemas = .ok ds ↔
      (checkClasses (allClasses schemas)).isValid = true ∧
        (allClasses schemas).mapM (·.describe) = .ok ds := by
  cases h : (checkClasses (allClasses schemas)).isValid with
  | true => simp [describeAll_of_valid h]
  | false => simp [describeAll_of_invalid h]

theorem exists_describeAll_iff {schemas : List Schema} :
    (∃ ds, describeAll schemas = .ok ds) ↔
      (checkClasses (allClasses schemas)).isValid = true := by
  constructor
  · intro h
    obtain ⟨ds, hds⟩ := h
    exact (describeAll_eq_ok_iff.mp hds).1
  · intro h
    obtain ⟨ds, hds⟩ := exists_mapM_describe h
    exact ⟨ds, describeAll_eq_ok_iff.mpr ⟨h, hds⟩⟩

theorem describeAll_eq_error_iff {schemas : List Schema} {e : Error} :
    describeAll schemas = .error e ↔
      (checkClasses (allClasses schemas)).isValid = false ∧
        e = .validation (checkClasses (allClasses schemas)).errors := by
  cases h : (checkClasses (allClasses schemas)).isValid with
  | true =>
    obtain ⟨ds, hds⟩ := exists_describeAll_iff.mpr h
    simp [hds]
  | false =>
    rw [describeAll_of_invalid h]
    simp [eq_comm]

/-! ## Batches put together -/

/-- **Two batches pass together when each passes and they share no name.** -/
theorem isValid_checkClasses_append {cs ds : List ClassSpec} :
    (checkClasses (cs ++ ds)).isValid = true ↔
      (checkClasses cs).isValid = true ∧ (checkClasses ds).isValid = true ∧
        ∀ c ∈ cs, ∀ d ∈ ds, c.name ≠ d.name := by
  simp only [isValid_checkClasses, List.forall_mem_append, List.map_append, List.nodup_append,
    List.forall_mem_map]
  tauto

theorem allClasses_singleton (s : Schema) : allClasses [s] = s.classes := by
  simp [allClasses]

theorem allClasses_cons (s : Schema) (rest : List Schema) :
    allClasses (s :: rest) = s.classes ++ allClasses rest := List.flatMap_cons

/-- One more file: what is described is described of that file and of the others. -/
theorem describeAll_cons_eq_ok_iff {s : Schema} {rest : List Schema} {ds : List ClassDecl} :
    describeAll (s :: rest) = .ok ds ↔
      ∃ front, s.describe = .ok front ∧ ∃ back, describeAll rest = .ok back ∧
        ds = front ++ back ∧
        ∀ t ∈ rest, ∀ c ∈ s.classes, ∀ d ∈ t.classes, c.name ≠ d.name := by
  have hfile : ∀ front, s.describe = .ok front ↔
      (checkClasses s.classes).isValid = true ∧ s.classes.mapM (·.describe) = .ok front := by
    intro front
    rw [Schema.describe, describeAll_eq_ok_iff, allClasses_singleton]
  have hdistinct : (∀ c ∈ s.classes, ∀ d ∈ allClasses rest, c.name ≠ d.name) ↔
      ∀ t ∈ rest, ∀ c ∈ s.classes, ∀ d ∈ t.classes, c.name ≠ d.name := by
    constructor
    · intro h t ht c hc d hd
      exact h c hc d (List.mem_flatMap.mpr ⟨t, ht, hd⟩)
    · intro h c hc d hd
      obtain ⟨t, ht, hd⟩ := List.mem_flatMap.mp hd
      exact h t ht c hc d hd
  simp only [describeAll_eq_ok_iff, hfile, allClasses_cons, isValid_checkClasses_append,
    mapM_append_eq_ok_iff, hdistinct]
  constructor
  · intro h
    obtain ⟨⟨hs, hrest, hnames⟩, front, hfront, back, hback, rfl⟩ := h
    exact ⟨front, ⟨hs, hfront⟩, back, ⟨hrest, hback⟩, rfl, hnames⟩
  · intro h
    obtain ⟨front, ⟨hs, hfront⟩, back, ⟨hrest, hback⟩, rfl, hnames⟩ := h
    exact ⟨⟨hs, hrest, hnames⟩, front, hfront, back, hback, rfl⟩

/-- **The classes of several files are those of each file, one after the other.** -/
theorem describeAll_eq_ok_iff_forall₂ {schemas : List Schema} {ds : List ClassDecl} :
    describeAll schemas = .ok ds ↔
      (∃ parts, List.Forall₂ (fun s part => s.describe = .ok part) schemas parts ∧
        ds = parts.flatten) ∧
      schemas.Pairwise fun s t => ∀ c ∈ s.classes, ∀ d ∈ t.classes, c.name ≠ d.name := by
  -- over the files, each of which adds its classes in front
  induction schemas generalizing ds with
  | nil =>
    have hnil : describeAll [] = .ok [] := rfl
    rw [hnil]
    constructor
    · intro h
      exact ⟨⟨[], .nil, (Except.ok.inj h).symm⟩, .nil⟩
    · intro h
      obtain ⟨⟨parts, hparts, rfl⟩, -⟩ := h
      rw [List.forall₂_nil_left_iff.mp hparts]
      rfl
  | cons s rest ih =>
    rw [describeAll_cons_eq_ok_iff, List.pairwise_cons]
    constructor
    · intro h
      obtain ⟨front, hfront, back, hback, rfl, hdistinct⟩ := h
      obtain ⟨⟨parts, hparts, rfl⟩, hpairwise⟩ := ih.mp hback
      exact ⟨⟨front :: parts, .cons hfront hparts, rfl⟩, hdistinct, hpairwise⟩
    · intro h
      obtain ⟨⟨parts, hparts, rfl⟩, hdistinct, hpairwise⟩ := h
      obtain ⟨front, others, hfront, hothers, rfl⟩ := List.forall₂_cons_left_iff.mp hparts
      exact ⟨front, hfront, others.flatten, ih.mpr ⟨⟨others, hothers, rfl⟩, hpairwise⟩, rfl,
        hdistinct⟩

/-- **What becomes of a batch of schemas.** It is described exactly when the check of all its classes finds
no error, each class by itself and in order; otherwise the errors found are the error. And it is described
exactly when each file is described alone and no name stands in two of them, and then the classes are those
of the files one after the other. -/
theorem describeAll_outcome (schemas : List Schema) :
    ((∃ ds, describeAll schemas = .ok ds) ↔
      (checkClasses (allClasses schemas)).isValid = true) ∧
    (∀ e, describeAll schemas = .error e ↔
      (checkClasses (allClasses schemas)).isValid = false ∧
        e = .validation (checkClasses (allClasses schemas)).errors) ∧
    (∀ ds, describeAll schemas = .ok ds ↔
      (checkClasses (allClasses schemas)).isValid = true ∧
        List.Forall₂ (fun c d => c.describe = .ok d) (allClasses schemas) ds) ∧
    ∀ ds, describeAll schemas = .ok ds ↔
      (∃ parts, List.Forall₂ (fun s part => s.describe = .ok part) schemas parts ∧
        ds = parts.flatten) ∧
      schemas.Pairwise fun s t => ∀ c ∈ s.classes, ∀ d ∈ t.classes, c.name ≠ d.name := by
  refine ⟨exists_describeAll_iff, fun e => describeAll_eq_error_iff, fun ds => ?_, fun ds => ?_⟩
  · rw [describeAll_eq_ok_iff, mapM_eq_ok_iff]
  · exact describeAll_eq_ok_iff_forall₂

end AccessorGen
