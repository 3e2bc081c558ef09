import AccessorGen.Proofs.Schema.Checked

/-!
# Well-formed batches

What the check of schemas accepts, said without the check. A batch of classes is well formed when no two
classes share a name and each class is well formed by itself, and that is a matter of its texts alone:
identifiers between the dots of its name, a package that is a beginning of it, known markers, supertypes
and types that say something, and fields of different names.

The rules of the check and the clauses of the grammar do not correspond one to one. A name that is empty
has a rule of its own in the check, and none is needed here; a package is compared with the name as text
in the check, and segment by segment here, which is the same only because no segment is empty
(`packageEncloses_iff_prefix`).
-/

set_option autoImplicit false

namespace AccessorGen

/-! ## The grammar -/

/-- A letter, an underscore or a dollar sign, then letters, digits, underscores and dollar signs, and as
a whole not a reserved word. -/
def IsIdentifier (s : String) : Prop :=
  (∃ first rest, s.toList = first :: rest ∧
    (Text.isAlphabetic first = true ∨ first = '_' ∨ first = '$') ∧
    ∀ c ∈ rest, Text.isAlphanumeric c = true ∨ c = '_' ∨ c = '$') ∧
  s ∉ reservedWords

/-- Whether something is visible in the text. -/
def HasInk (s : String) : Prop := ∃ c ∈ s.toList, Text.isBlank c = false

structure FieldSpec.WellFormed (f : FieldSpec) : Prop where
  name : IsIdentifier f.name
  type : HasInk f.type
  markers : ∀ marker ∈ f.markers, marker = "Getter" ∨ marker = "Setter"

structure ClassSpec.WellFormed (c : ClassSpec) : Prop where
  name_ne : c.name ≠ ""
  segments : ∀ segment ∈ Text.segments c.name, IsIdentifier segment
  /-- A package that is given is the default one or the beginning of the name. -/
  package : ∀ p, c.package = some p → p = "" ∨
    Text.segments p ≠ [] ∧ Text.segments p <+: Text.segments c.name ∧
      Text.segments p ≠ Text.segments c.name
  markers : ∀ marker ∈ c.markers,
    marker ∈ ["AllArgsConstructor", "Getter", "Setter", "ToString"]
  superclass : ∀ type, c.superclass = some type → HasInk type
  interfaces : ∀ type ∈ c.interfaces, HasInk type
  fields : ∀ f ∈ c.fields, f.WellFormed
  distinct : (c.fields.map (·.name)).Nodup

/-! ## Texts -/

theorem isIdentifier_iff {s : String} : isIdentifier s = true ↔ IsIdentifier s := by
  rw [isIdentifier, Bool.and_eq_true]
  apply and_congr
  · cases hs : s.toList with
    | nil => simp [hasIdentifierForm]
    | cons a as =>
      simp [hasIdentifierForm, startsIdentifier, continuesIdentifier, or_assoc]
  · simp

theorem isDottedName_iff {s : String} :
    isDottedName s = true ↔ s ≠ "" ∧ ∀ segment ∈ Text.segments s, IsIdentifier segment := by
  have hall : isDottedName s = true ↔ ∀ segment ∈ Text.segments s, IsIdentifier segment := by
    simp [isDottedName, isIdentifier_iff]
  rw [hall]
  refine ⟨fun h => ⟨?_, h⟩, fun h => h.2⟩
  intro hs
  rw [← hall, hs] at h
  exact absurd h (by decide)

theorem isBlankText_eq_false_iff {s : String} : Text.isBlankText s = false ↔ HasInk s := by
  simp [Text.isBlankText, HasInk]

/-! ## Packages -/

/-- **A package encloses a dotted name when it is a proper beginning of it.** -/
theorem packageEncloses_iff_prefix {package name : String} (hname : isDottedName name = true) :
    packageEncloses package name = true ↔ package = "" ∨
      Text.segments package ≠ [] ∧ Text.segments package <+: Text.segments name ∧
        Text.segments package ≠ Text.segments name := by
  rw [packageEncloses_iff]
  apply or_congr_right
  constructor
  · intro h
    obtain ⟨rest, -, rfl⟩ := h
    rw [Text.segments_append]
    refine ⟨Text.segments_ne_nil package, List.prefix_append _ _, ?_⟩
    intro he
    exact Text.segments_ne_nil rest (List.self_eq_append_right.mp he)
  · intro h
    obtain ⟨-, ⟨inner, hinner⟩, hproper⟩ := h
    have hne : inner ≠ [] := by
      intro hnil
      rw [hnil, List.append_nil] at hinner
      exact hproper hinner
    have hcut : name = package ++ "." ++ String.intercalate "." inner := by
      rw [← Text.intercalate_segments name, ← hinner,
        String.intercalate_append_of_ne_nil (Text.segments_ne_nil package) hne,
        Text.intercalate_segments]
    refine ⟨String.intercalate "." inner, ?_, hcut⟩
    intro hrest
    -- with nothing behind the last dot the name would not be dotted
    rw [hrest] at hcut
    rw [hcut, isDottedName_append] at hname
    simp [show isDottedName "" = false from by decide] at hname

/-! ## Markers -/

theorem Marker.ofName?_eq_some_iff {name : String} {m : Marker} :
    Marker.ofName? name = some m ↔ name = m.name := by
  constructor
  · exact eq_name_of_ofName?
  · intro h
    rw [h, ofName?_name]

/-- Whether the text names a marker that may stand there. -/
def acceptsMarker (onField : Bool) (name : String) : Bool :=
  (Marker.ofName? name).any fun m => !onField || m.fitsField

theorem isValid_checkMarker (location : String) (onField : Bool) (seen : List Marker)
    (name : String) :
    (checkMarker location onField seen name).isValid = acceptsMarker onField name := by
  unfold checkMarker acceptsMarker
  cases Marker.ofName? name with
  | none => rfl
  | some m =>
    cases onField with
    | false => simp
    | true => cases hm : m.fitsField <;> simp [hm]

/-- Markers that were met before are only warned of. -/
theorem isValid_checkMarkersFrom (location : String) (onField : Bool) (seen : List Marker)
    (names : List String) :
    (checkMarkersFrom location onField seen names).isValid = names.all (acceptsMarker onField) := by
  induction names generalizing seen with
  | nil => rfl
  | cons name rest ih =>
    rw [checkMarkersFrom, Report.isValid_append, isValid_checkMarker, ih, List.all_cons]

theorem isValid_checkMarkers (location : String) (onField : Bool) (names : List String) :
    (checkMarkers location onField names).isValid = names.all (acceptsMarker onField) :=
  isValid_checkMarkersFrom location onField [] names

theorem acceptsMarker_iff {onField : Bool} {name : String} :
    acceptsMarker onField name = true ↔
      ∃ m : Marker, name = m.name ∧ (onField = true → m.fitsField = true) := by
  simp only [acceptsMarker, Option.any_eq_true, Marker.ofName?_eq_some_iff, Bool.or_eq_true,
    Bool.not_eq_true']
  cases onField <;> simp

theorem acceptsMarker_class {name : String} :
    acceptsMarker false name = true ↔
      name ∈ ["AllArgsConstructor", "Getter", "Setter", "ToString"] := by
  rw [acceptsMarker_iff]
  constructor
  · intro h
    obtain ⟨m, rfl, -⟩ := h
    exact List.mem_map_of_mem m.mem_all
  · intro h
    have hname : name ∈ Marker.all.map Marker.name := h
    obtain ⟨m, -, rfl⟩ := List.mem_map.mp hname
    exact ⟨m, rfl, nofun⟩

theorem acceptsMarker_field {name : String} :
    acceptsMarker true name = true ↔ name = "Getter" ∨ name = "Setter" := by
  rw [acceptsMarker_iff]
  constructor
  · intro h
    obtain ⟨m, rfl, hfits⟩ := h
    cases m with
    | getter => exact Or.inl rfl
    | setter => exact Or.inr rfl
    | allArgsConstructor | stringForm => exact absurd (hfits rfl) (by simp [Marker.fitsField])
  · intro h
    rcases h with rfl | rfl
    · exact ⟨.getter, rfl, fun _ => rfl⟩
    · exact ⟨.setter, rfl, fun _ => rfl⟩

/-! ## Classes -/

namespace ClassSpec

theorem isValid_checkSupertypes (c : ClassSpec) :
    c.checkSupertypes.isValid = true ↔
      (∀ type, c.superclass = some type → HasInk type) ∧ ∀ type ∈ c.interfaces, HasInk type := by
  have hrule : c.checkSupertypes.isValid =
      (c.superclass.toList ++ c.interfaces).all fun type => !Text.isBlankText type := by
    simp [checkSupertypes, List.all_map, Function.comp_def]
  rw [hrule, List.all_append, Bool.and_eq_true]
  simp [isBlankText_eq_false_iff]

theorem acceptsField_iff {c : ClassSpec} {f : FieldSpec} :
    c.acceptsField f = true ↔ f.WellFormed := by
  have hrules : c.acceptsField f = true ↔ IsIdentifier f.name ∧ HasInk f.type ∧
      ∀ marker ∈ f.markers, marker = "Getter" ∨ marker = "Setter" := by
    simp [acceptsField, isValid_checkMarkers, isIdentifier_iff, isBlankText_eq_false_iff,
      acceptsMarker_field, and_assoc]
  rw [hrules]
  constructor
  · intro h
    exact ⟨h.1, h.2.1, h.2.2⟩
  · intro h
    exact ⟨h.name, h.type, h.markers⟩

theorem isValid_checkName_iff {c : ClassSpec} :
    c.checkName.isValid = true ↔
      (c.name ≠ "" ∧ ∀ segment ∈ Text.segments c.name, IsIdentifier segment) ∧
        ∀ p, c.package = some p → p = "" ∨
          Text.segments p ≠ [] ∧ Text.segments p <+: Text.segments c.name ∧
            Text.segments p ≠ Text.segments c.name := by
  rw [isValid_checkName, Bool.and_eq_true, ← isDottedName_iff]
  apply and_congr_right
  intro hname
  simp only [Option.all_eq_true, packageEncloses_iff_prefix hname]

theorem isValid_check_iff {c : ClassSpec} : c.check.isValid = true ↔ c.WellFormed := by
  have hmarkers : (checkMarkers c.name false c.markers).isValid = true ↔
      ∀ marker ∈ c.markers, marker ∈ ["AllArgsConstructor", "Getter", "Setter", "ToString"] := by
    rw [isValid_checkMarkers, List.all_eq_true]
    exact forall₂_congr fun _ _ => acceptsMarker_class
  have hfields : (c.checkFieldsFrom [] c.fields).isValid = true ↔
      (∀ f ∈ c.fields, f.WellFormed) ∧ (c.fields.map (·.name)).Nodup := by
    simp [isValid_checkFieldsFrom, acceptsField_iff]
  have hrules : c.check.isValid = (c.checkName.isValid &&
      (checkMarkers c.name false c.markers).isValid && c.checkSupertypes.isValid &&
      (c.checkFieldsFrom [] c.fields).isValid) := by
    simp [check]
  rw [hrules, Bool.and_eq_true, Bool.and_eq_true, Bool.and_eq_true, isValid_checkName_iff, hmarkers,
    isValid_checkSupertypes, hfields]
  constructor
  · intro h
    obtain ⟨⟨⟨⟨⟨hne, hsegments⟩, hpackage⟩, hm⟩, hsuper, hinterfaces⟩, hf, hdistinct⟩ := h
    exact ⟨hne, hsegments, hpackage, hm, hsuper, hinterfaces, hf, hdistinct⟩
  · intro h
    exact ⟨⟨⟨⟨⟨h.name_ne, h.segments⟩, h.package⟩, h.markers⟩, h.superclass, h.interfaces⟩, h.fields,
      h.distinct⟩

end ClassSpec

/-- **The check accepts exactly the well-formed batches.** -/
theorem checkClasses_accepts_iff (classes : List ClassSpec) :
    (checkClasses classes).isValid = true ↔
      (classes.map (·.name)).Nodup ∧ ∀ c ∈ classes, c.WellFormed := by
  rw [isValid_checkClasses, and_comm]
  apply and_congr_right
  intro _
  exact forall₂_congr fun c _ => c.isValid_check_iff

end AccessorGen
