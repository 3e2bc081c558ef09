import AccessorGen.Proofs.Schema.Checked
import AccessorGen.Schema.Describe

/-!
# Classes out of schemas

What the check has established of a schema is still true of the class described by it, because the
description keeps names, packages and fields as they are. `ClassDecl.Sound` is what the rest of the
development may assume of such a class, and `sound_of_describeAll` is the only way to it.

For a sound class the names fit together: the qualified name is the package, a dot and the local name,
so nothing is lost between the name of a class and the name of its unit.
-/

set_option autoImplicit false

namespace AccessorGen

/-- What holds of a class that comes out of a schema. -/
structure ClassDecl.Sound (c : ClassDecl) : Prop where
  qualifiedName : isDottedName c.qualifiedName = true
  simpleName : c.simpleName = Text.lastSegment c.qualifiedName
  package : ∀ p, c.package = some p → packageEncloses p c.qualifiedName = true
  nodup : (c.fields.map (·.name)).Nodup
  names : ∀ name ∈ c.fields.map (·.name), isIdentifier name = true

/-! ## Descriptions -/

theorem mark_name (f : FieldDecl) (m : Marker) : (f.mark m).name = f.name := by
  cases m <;> rfl

theorem foldl_mark_name (ms : List Marker) (f : FieldDecl) :
    (ms.foldl FieldDecl.mark f).name = f.name := by
  induction ms generalizing f with
  | nil => rfl
  | cons m ms ih => rw [List.foldl_cons, ih, mark_name]

namespace ClassSpec

theorem name_of_describeField {c : ClassSpec} {f : FieldSpec} {g : FieldDecl}
    (h : c.describeField f = .ok g) : g.name = f.name := by
  unfold describeField at h
  cases hm : readMarkers (c.fieldLocation f) f.markers with
  | error e =>
    rw [hm] at h
    cases h
  | ok ms =>
    rw [hm] at h
    cases h
    exact foldl_mark_name ms _

/-- A described class has the names of the schema and fields of the same names, in the same order. -/
theorem describe_spec {c : ClassSpec} {d : ClassDecl} (h : c.describe = .ok d) :
    d.qualifiedName = c.name ∧ d.simpleName = Text.lastSegment c.name ∧ d.package = c.package ∧
      d.fields.map (·.name) = c.fields.map (·.name) := by
  unfold describe at h
  cases hm : readMarkers c.name c.markers with
  | error e =>
    rw [hm] at h
    cases h
  | ok ms =>
    cases hf : c.fields.mapM c.describeField with
    | error e =>
      rw [hm, hf] at h
      cases h
    | ok fields =>
      rw [hm, hf] at h
      cases h
      refine ⟨rfl, rfl, rfl, ?_⟩
      exact (map_eq_map_of_forall₂ (mapM_eq_ok_iff.mp hf) fun f g hg =>
        (name_of_describeField hg).symm).symm

theorem sound_of_describe {c : ClassSpec} {d : ClassDecl} (hvalid : c.check.isValid = true)
    (h : c.describe = .ok d) : d.Sound := by
  obtain ⟨hname, hpackage, hnodup, hnames⟩ := sound_of_isValid hvalid
  obtain ⟨hqualified, hsimple, hp, hfields⟩ := describe_spec h
  constructor
  · rw [hqualified]
    exact hname
  · rw [hsimple, hqualified]
  · intro p hdp
    rw [hqualified]
    exact hpackage p (hp ▸ hdp)
  · rw [hfields]
    exact hnodup
  · rw [hfields]
    intro name hn
    obtain ⟨f, hf, rfl⟩ := List.mem_map.mp hn
    exact hnames f hf

end ClassSpec

/-- **The classes out of schemas are sound, and no two have the same name.** -/
theorem sound_of_describeAll {schemas : List Schema} {classes : List ClassDecl}
    (h : describeAll schemas = .ok classes) :
    (∀ c ∈ classes, c.Sound) ∧ (classes.map (·.qualifiedName)).Nodup := by
  unfold describeAll at h
  dsimp only at h
  split at h
  · next hvalid =>
    obtain ⟨hchecks, hnodup⟩ := isValid_checkClasses.mp hvalid
    have hpairs := mapM_eq_ok_iff.mp h
    constructor
    · intro d hd
      obtain ⟨c, hc, hdescribe⟩ := exists_of_mem_of_forall₂ hpairs hd
      exact ClassSpec.sound_of_describe (hchecks c hc) hdescribe
    · rw [← map_eq_map_of_forall₂ hpairs fun c d hcd => (ClassSpec.describe_spec hcd).1.symm]
      exact hnodup
  · cases h

/-! ## The names of sound classes -/

namespace ClassDecl

variable {c : ClassDecl}

/-- Without a package of its own a class is taken to be all but the last segment deep. -/
theorem packageName_of_none (hs : c.simpleName = Text.lastSegment c.qualifiedName)
    (hp : c.package = none) :
    (c.packageName = "" ∧ '.' ∉ c.qualifiedName.toList) ∨
      c.qualifiedName = c.packageName ++ "." ++ c.simpleName := by
  rw [packageName, hp, hs]
  by_cases hdot : '.' ∈ c.qualifiedName.toList
  · obtain ⟨front, hq, -⟩ := Text.exists_append_lastSegment hdot
    have hsuffix : Text.beforeSuffix? (Text.lastSegment c.qualifiedName) c.qualifiedName =
        some (front ++ ".") := Text.beforeSuffix?_eq_some.mpr hq
    right
    rw [hsuffix, Option.bind_some, Text.beforeSuffix?_eq_some.mpr rfl]
    exact hq
  · have hsuffix : Text.beforeSuffix? (Text.lastSegment c.qualifiedName) c.qualifiedName =
        some "" := by
      rw [Text.lastSegment_of_not_mem hdot, Text.beforeSuffix?_eq_some, String.empty_append]
    left
    rw [hsuffix]
    exact ⟨rfl, hdot⟩

/-- **The qualified name is the package, a dot and the local name,** or the local name alone in the
default package, whenever the package that is given is in front of the name. -/
theorem qualifiedName_eq_of_package (hs : c.simpleName = Text.lastSegment c.qualifiedName)
    (h : ∀ p, c.package = some p → p = "" ∨ ∃ rest, c.qualifiedName = p ++ "." ++ rest) :
    (c.packageName = "" ∧ c.qualifiedName = c.localName) ∨
      (c.packageName ≠ "" ∧ c.qualifiedName = c.packageName ++ "." ++ c.localName) := by
  rcases c.localName_cases with ⟨hp, hl⟩ | hcut | ⟨hp, hno, -⟩
  · exact Or.inl ⟨hp, hl.symm⟩
  · exact Or.inr hcut
  · -- the package is in front of the name, so there is something behind it
    cases hpackage : c.package with
    | none =>
      rcases packageName_of_none hs hpackage with ⟨he, -⟩ | hq
      · exact absurd he hp
      · exact absurd hq (hno _)
    | some p =>
      have hsame : c.packageName = p := by rw [packageName, hpackage]
      rcases h p hpackage with he | ⟨rest, hq⟩
      · exact absurd (hsame.trans he) hp
      · exact absurd (hsame ▸ hq) (hno rest)

theorem Sound.qualifiedName_eq (h : c.Sound) :
    (c.packageName = "" ∧ c.qualifiedName = c.localName) ∨
      (c.packageName ≠ "" ∧ c.qualifiedName = c.packageName ++ "." ++ c.localName) := by
  apply qualifiedName_eq_of_package h.simpleName
  intro p hp
  rcases packageEncloses_iff.mp (h.package p hp) with he | ⟨rest, -, hq⟩
  · exact Or.inl he
  · exact Or.inr ⟨rest, hq⟩

theorem Sound.isDottedName_localName (h : c.Sound) : isDottedName c.localName = true := by
  have hq := h.qualifiedName
  rcases h.qualifiedName_eq with ⟨-, he⟩ | ⟨-, he⟩
  · rwa [he] at hq
  · rw [he, isDottedName_append, Bool.and_eq_true] at hq
    exact hq.2

theorem Sound.isDottedName_packageName (h : c.Sound) (hp : c.packageName ≠ "") :
    isDottedName c.packageName = true := by
  have hq := h.qualifiedName
  rcases h.qualifiedName_eq with ⟨he, -⟩ | ⟨-, he⟩
  · exact absurd he hp
  · rw [he, isDottedName_append, Bool.and_eq_true] at hq
    exact hq.1

theorem Sound.localName_eq (h : c.Sound) (hn : c.isNested = false) : c.localName = c.simpleName :=
  localName_eq_simpleName h.simpleName hn

/-- **The unit of a class that is written out itself has the name of the class.** -/
theorem Sound.qualified_unitName (h : c.Sound) (hn : c.isNested = false) :
    (c.unitName .augment).qualified = c.qualifiedName := by
  show (if c.packageName = "" then c.simpleName else c.packageName ++ "." ++ c.simpleName) = _
  rw [← h.localName_eq hn]
  rcases h.qualifiedName_eq with ⟨hp, he⟩ | ⟨hp, he⟩
  · rw [if_pos hp, he]
  · rw [if_neg hp, he]

theorem Sound.nodup_instanceNames (h : c.Sound) : c.instanceNames.Nodup :=
  h.nodup.sublist (List.filter_sublist.map _)

end ClassDecl

end AccessorGen
