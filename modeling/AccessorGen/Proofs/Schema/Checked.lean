import AccessorGen.Proofs.Naming
import AccessorGen.Proofs.Traversal

/-!
# What a valid report says

A report is valid when every rule is content, so each rule contributes one conjunct: the flag of an
appended report is the conjunction of the flags. What is left is to say of each rule what it accepts.
Two of them carry the names already met from one element to the next, and they accept exactly the lists
without repetition (`fresh_cons` is the step of both inductions).
-/

set_option autoImplicit false

namespace AccessorGen

namespace Report

@[simp] theorem isValid_empty : empty.isValid = true := rfl

@[simp] theorem isValid_error (issue : Issue) : (error issue).isValid = false := rfl

@[simp] theorem isValid_warning (w : Warning) : (warning w).isValid = true := rfl

@[simp] theorem isValid_onlyIf (condition : Bool) (r : Report) :
    (onlyIf condition r).isValid = (!condition || r.isValid) := by
  cases condition <;> rfl

@[simp] theorem isValid_concat (rs : List Report) : (concat rs).isValid = rs.all (·.isValid) := by
  induction rs with
  | nil => rfl
  | cons r rs ih =>
    rw [List.all_cons, ← ih]
    rfl

end Report

/-! ## Names -/

/-- A package encloses what goes on after it and a dot. -/
theorem packageEncloses_iff {package name : String} :
    packageEncloses package name = true ↔
      package = "" ∨ ∃ rest, rest ≠ "" ∧ name = package ++ "." ++ rest := by
  unfold packageEncloses
  rw [Bool.or_eq_true, beq_iff_eq]
  refine or_congr Iff.rfl ?_
  constructor
  · intro h
    cases hr : Text.afterPrefix? package name with
    | none => simp [hr] at h
    | some rest =>
      rw [hr] at h
      rw [Text.afterPrefix?_eq_some] at hr
      -- behind the package stand a dot and at least one more character
      dsimp only at h
      split at h
      · next a tail hlist =>
        refine ⟨String.ofList (a :: tail), ?_, ?_⟩
        · intro he
          rw [← String.toList_inj, String.toList_ofList] at he
          exact absurd he (by simp)
        · rw [hr, ← String.toList_inj]
          simp [hlist]
      · exact absurd h (by simp)
  · rintro ⟨rest, hne, rfl⟩
    rw [String.append_assoc, Text.afterPrefix?_eq_some.mpr rfl]
    cases hlist : rest.toList with
    | nil => exact absurd (String.toList_inj.mp hlist) hne
    | cons a tail => simp [hlist]

theorem isValid_checkName (c : ClassSpec) :
    c.checkName.isValid =
      (isDottedName c.name && c.package.all fun package => packageEncloses package c.name) := by
  unfold ClassSpec.checkName
  by_cases hempty : c.name = ""
  · rw [if_pos hempty, hempty]
    simp [show isDottedName "" = false from by decide]
  · rw [if_neg hempty, Report.isValid_append, Report.isValid_concat, List.all_map, isDottedName]
    congr 1
    · simp [Function.comp_def, isValid_checkIdentifier]
    · cases c.package <;> simp

/-! ## Lists without repetition -/

namespace ClassSpec

/-- Whether a field of the class passes the rules that look at it alone. -/
def acceptsField (c : ClassSpec) (f : FieldSpec) : Bool :=
  isIdentifier f.name && !Text.isBlankText f.type &&
    (checkMarkers (c.fieldLocation f) true f.markers).isValid

theorem isValid_checkField (c : ClassSpec) (seen : List String) (f : FieldSpec) :
    (c.checkField seen f).isValid = (!seen.contains f.name && c.acceptsField f) := by
  simp [checkField, acceptsField, isValid_checkIdentifier, Bool.and_assoc]

theorem isValid_checkFieldsFrom {c : ClassSpec} {seen : List String} {fs : List FieldSpec} :
    (c.checkFieldsFrom seen fs).isValid = true ↔
      (∀ f ∈ fs, c.acceptsField f = true) ∧ (fs.map (·.name)).Nodup ∧
        ∀ name ∈ fs.map (·.name), name ∉ seen := by
  induction fs generalizing seen with
  | nil => simp [checkFieldsFrom]
  | cons f fs ih =>
    rw [checkFieldsFrom, Report.isValid_append, Bool.and_eq_true, isValid_checkField,
      Bool.and_eq_true, ih, List.map_cons, fresh_cons, List.forall_mem_cons]
    simp only [Bool.not_eq_true', List.contains_eq_mem, decide_eq_false_iff_not]
    constructor
    · rintro ⟨⟨hseen, hf⟩, hfs, hfresh⟩
      exact ⟨⟨hf, hfs⟩, hseen, hfresh⟩
    · rintro ⟨⟨hf, hfs⟩, hseen, hfresh⟩
      exact ⟨⟨hseen, hf⟩, hfs, hfresh⟩

end ClassSpec

theorem isValid_checkClassesFrom {seen : List String} {cs : List ClassSpec} :
    (checkClassesFrom seen cs).isValid = true ↔
      (∀ c ∈ cs, c.check.isValid = true) ∧ (cs.map (·.name)).Nodup ∧
        ∀ name ∈ cs.map (·.name), name ∉ seen := by
  induction cs generalizing seen with
  | nil => simp [checkClassesFrom]
  | cons c cs ih =>
    rw [checkClassesFrom, Report.isValid_append, Report.isValid_append, Bool.and_eq_true,
      Bool.and_eq_true, ih, List.map_cons, fresh_cons, List.forall_mem_cons]
    simp only [Report.isValid_onlyIf, Report.isValid_error, Bool.or_false, Bool.not_eq_true',
      List.contains_eq_mem, decide_eq_false_iff_not]
    constructor
    · rintro ⟨⟨hseen, hc⟩, hcs, hfresh⟩
      exact ⟨⟨hc, hcs⟩, hseen, hfresh⟩
    · rintro ⟨⟨hc, hcs⟩, hseen, hfresh⟩
      exact ⟨⟨hseen, hc⟩, hcs, hfresh⟩

theorem isValid_checkClasses {cs : List ClassSpec} :
    (checkClasses cs).isValid = true ↔
      (∀ c ∈ cs, c.check.isValid = true) ∧ (cs.map (·.name)).Nodup := by
  rw [checkClasses, isValid_checkClassesFrom]
  simp

/-- A class that passes has a dotted name, a package that encloses it, and fields of different names
that are identifiers. -/
theorem ClassSpec.sound_of_isValid {c : ClassSpec} (h : c.check.isValid = true) :
    isDottedName c.name = true ∧ (∀ p, c.package = some p → packageEncloses p c.name = true) ∧
      (c.fields.map (·.name)).Nodup ∧ ∀ f ∈ c.fields, isIdentifier f.name = true := by
  simp only [check, Report.isValid_append, Bool.and_eq_true, isValid_checkName,
    isValid_checkFieldsFrom] at h
  obtain ⟨⟨⟨⟨⟨hname, hpackage⟩, -⟩, -⟩, hfields, hnodup, -⟩, -⟩ := h
  refine ⟨hname, fun p hp => ?_, hnodup, fun f hf => ?_⟩
  · rw [hp] at hpackage
    exact hpackage
  · have hf := hfields f hf
    simp only [acceptsField, Bool.and_eq_true] at hf
    exact hf.1.1

end AccessorGen
