import AccessorGen.Proofs.Reports
import AccessorGen.Proofs.Schema.Checked

/-!
# The report of a batch

The check of a batch carries along the names of the classes it has met, and puts the report of what is
left behind that of the class. Seen from the report, it is one operation after another on a report that
starts empty: an issue for a class whose name an earlier class has, then the report of the class merged in
(`batchOperations`). That the two come to the same is what merging in any grouping means, and it gives the
order of the issues and warnings of a batch.

Which class of several with one name is called the duplicate depends on the order of the batch. Whether
there is one does not, so neither does whether the batch passes.
-/

set_option autoImplicit false

namespace AccessorGen

/-! ## The rules -/

theorem consistent_checkIdentifier (what location text : String) :
    (checkIdentifier what location text).Consistent := by
  unfold checkIdentifier
  split
  · exact Report.consistent_error _
  · exact ((Report.consistent_error _).onlyIf _).append ((Report.consistent_error _).onlyIf _)

theorem consistent_checkMarker (location : String) (onField : Bool) (seen : List Marker)
    (name : String) : (checkMarker location onField seen name).Consistent := by
  unfold checkMarker
  split
  · exact Report.consistent_error _
  · split
    · exact Report.consistent_error _
    · exact (Report.consistent_warning _).onlyIf _

theorem consistent_checkMarkersFrom (location : String) (onField : Bool) (seen : List Marker)
    (names : List String) : (checkMarkersFrom location onField seen names).Consistent := by
  induction names generalizing seen with
  | nil => exact Report.consistent_empty
  | cons name rest ih => exact (consistent_checkMarker location onField seen name).append (ih _)

namespace ClassSpec

theorem consistent_checkName (c : ClassSpec) : c.checkName.Consistent := by
  unfold checkName
  split
  · exact Report.consistent_error _
  · apply Report.Consistent.append
    · apply Report.consistent_concat
      exact List.forall_mem_map.mpr fun segment _ => consistent_checkIdentifier _ _ segment
    · split
      · exact Report.consistent_empty
      · exact (Report.consistent_error _).onlyIf _

theorem consistent_checkSupertypes (c : ClassSpec) : c.checkSupertypes.Consistent := by
  apply Report.consistent_concat
  exact List.forall_mem_map.mpr fun _ _ => (Report.consistent_error _).onlyIf _

theorem consistent_checkField (c : ClassSpec) (seen : List String) (f : FieldSpec) :
    (c.checkField seen f).Consistent := by
  refine .append (.append (.append (.append ?fresh ?name) ?type) ?markers) ?static
  case fresh => exact (Report.consistent_error _).onlyIf _
  case name => exact consistent_checkIdentifier _ _ _
  case type => exact (Report.consistent_error _).onlyIf _
  case markers => exact consistent_checkMarkersFrom _ _ _ _
  case static => exact (Report.consistent_warning _).onlyIf _

theorem consistent_checkFieldsFrom (c : ClassSpec) (seen : List String) (fs : List FieldSpec) :
    (c.checkFieldsFrom seen fs).Consistent := by
  induction fs generalizing seen with
  | nil => exact Report.consistent_empty
  | cons f rest ih => exact (c.consistent_checkField seen f).append (ih _)

/-- **A class passes exactly when no issue is found in it.** -/
theorem consistent_check (c : ClassSpec) : c.check.Consistent := by
  refine .append (.append (.append (.append ?name ?markers) ?supertypes) ?fields) ?marked
  case name => exact c.consistent_checkName
  case markers => exact consistent_checkMarkersFrom _ _ _ _
  case supertypes => exact c.consistent_checkSupertypes
  case fields => exact c.consistent_checkFieldsFrom _ _
  case marked => exact (Report.consistent_warning _).onlyIf _

/-! ## One class of a batch -/

/-- The issue of a class whose name an earlier class has. -/
def duplicate (c : ClassSpec) : Issue :=
  ⟨"Duplicate class: " ++ c.name, some c.name, .duplicateClass⟩

/-- What the check of a batch does at the class, after those that are earlier. -/
def operationsAfter (c : ClassSpec) (earlier : List ClassSpec) : List Operation :=
  (if c.name ∈ earlier.map (·.name) then [.note (.issue c.duplicate)] else []) ++
    [.merge c.check.operations]

def notesAfter (c : ClassSpec) (earlier : List ClassSpec) : List Note :=
  (if c.name ∈ earlier.map (·.name) then [.issue c.duplicate] else []) ++ c.check.notes

theorem notesOf_operationsAfter (c : ClassSpec) (earlier : List ClassSpec) :
    notesOf (c.operationsAfter earlier) = c.notesAfter earlier := by
  unfold operationsAfter notesAfter
  split <;> simp [notesOf, Operation.notes]

theorem filterMap_issue?_notesAfter (c : ClassSpec) (earlier : List ClassSpec) :
    (c.notesAfter earlier).filterMap Note.issue? =
      (if c.name ∈ earlier.map (·.name) then [c.duplicate] else []) ++ c.check.errors := by
  rw [notesAfter, List.filterMap_append, Report.filterMap_issue?_notes]
  split <;> rfl

theorem filterMap_warning?_notesAfter (c : ClassSpec) (earlier : List ClassSpec) :
    (c.notesAfter earlier).filterMap Note.warning? = c.check.warnings := by
  rw [notesAfter, List.filterMap_append, Report.filterMap_warning?_notes]
  split <;> rfl

/-- The step of the check of a batch, which has met the names of the earlier classes. -/
theorem ofNotes_notesAfter {c : ClassSpec} {earlier : List ClassSpec} {seen : List String}
    (hseen : ∀ name, name ∈ seen ↔ name ∈ earlier.map (·.name)) :
    .ofNotes (c.notesAfter earlier) =
      Report.onlyIf (seen.contains c.name) (.error c.duplicate) ++ c.check := by
  have hmet : seen.contains c.name = decide (c.name ∈ earlier.map (·.name)) := by
    rw [List.contains_eq_mem, decide_eq_decide]
    exact hseen c.name
  rw [notesAfter, Report.ofNotes_append, c.consistent_check.ofNotes_notes, hmet]
  by_cases h : c.name ∈ earlier.map (·.name)
  · rw [if_pos h, decide_eq_true h]
    rfl
  · rw [if_neg h, decide_eq_false h]
    rfl

end ClassSpec

/-! ## Batches -/

/-- What the check of a batch does, class by class. -/
def batchOperations (classes : List ClassSpec) : List Operation :=
  classes.zipIdx.flatMap fun (c, i) => c.operationsAfter (classes.take i)

/-- What is found in the classes of a batch that come after the first ones, which have been met. -/
theorem checkClassesFrom_eq_ofNotes {first rest : List ClassSpec} {seen : List String}
    (hseen : ∀ name, name ∈ seen ↔ name ∈ first.map (·.name)) :
    checkClassesFrom seen rest =
      .ofNotes ((rest.zipIdx first.length).flatMap fun (c, i) =>
        c.notesAfter ((first ++ rest).take i)) := by
  -- over the rest; a class that is done goes to the end of the first ones
  induction rest generalizing first seen with
  | nil => rfl
  | cons c rest ih =>
    have hseen' : ∀ name, name ∈ c.name :: seen ↔ name ∈ (first ++ [c]).map (·.name) := by
      intro name
      rw [List.mem_cons, hseen, List.map_append, List.mem_append, or_comm]
      exact or_congr_right List.mem_singleton.symm
    have hrest := ih hseen'
    rw [List.length_append, List.append_assoc] at hrest
    rw [checkClassesFrom, hrest, List.zipIdx_cons, List.flatMap_cons, Report.ofNotes_append]
    dsimp only
    rw [List.take_left, ClassSpec.ofNotes_notesAfter hseen]
    rfl

theorem checkClasses_eq_ofNotes (classes : List ClassSpec) :
    checkClasses classes =
      .ofNotes (classes.zipIdx.flatMap fun (c, i) => c.notesAfter (classes.take i)) :=
  @checkClassesFrom_eq_ofNotes [] classes [] fun _ => Iff.rfl

/-- **The check of a batch adds to one report, class by class.** -/
theorem applyAll_batchOperations (classes : List ClassSpec) :
    Report.empty.applyAll (batchOperations classes) = checkClasses classes := by
  have hnotes : notesOf (batchOperations classes) =
      classes.zipIdx.flatMap fun (c, i) => c.notesAfter (classes.take i) := by
    simp only [batchOperations, notesOf_eq_flatMap, List.flatMap_assoc]
    simp only [← notesOf_eq_flatMap, ClassSpec.notesOf_operationsAfter]
  rw [Report.applyAll_empty, hnotes, checkClasses_eq_ofNotes]

theorem errors_checkClasses (classes : List ClassSpec) :
    (checkClasses classes).errors = classes.zipIdx.flatMap fun (c, i) =>
      (if c.name ∈ (classes.take i).map (·.name) then [c.duplicate] else []) ++ c.check.errors := by
  rw [checkClasses_eq_ofNotes, Report.errors_ofNotes, List.filterMap_flatMap]
  simp only [ClassSpec.filterMap_issue?_notesAfter]

theorem warnings_checkClasses (classes : List ClassSpec) :
    (checkClasses classes).warnings = classes.flatMap (·.check.warnings) := by
  rw [checkClasses_eq_ofNotes, Report.warnings_ofNotes, List.filterMap_flatMap]
  simp only [ClassSpec.filterMap_warning?_notesAfter]
  rw [← List.flatMap_map Prod.fst fun c : ClassSpec => c.check.warnings, List.zipIdx_map_fst]

/-- **Whether a batch passes does not depend on the order of its classes.** -/
theorem isValid_checkClasses_of_perm {classes reordered : List ClassSpec}
    (h : classes.Perm reordered) :
    (checkClasses reordered).isValid = (checkClasses classes).isValid := by
  rw [Bool.eq_iff_iff, isValid_checkClasses, isValid_checkClasses]
  apply and_congr
  · exact forall_congr' fun c => imp_congr_left h.mem_iff.symm
  · exact (h.map (·.name)).nodup_iff.symm

/-- **A report holds what operations have noted in it, each note once and in its place.** However deep the
reports that were merged have themselves been merged from others, the errors and the warnings are those of
all notes one after another, and the flag is up exactly as long as there are no errors. Merging is
associative, and the empty report is neutral on both sides.

The report of a batch is one of these, and so is that of a class. Class by class, the batch has the issue
of a name that an earlier class has and then the issues of the class, and it has the warnings of its
classes. Whether it is valid does not depend on the order of the classes. -/
theorem reports_accumulate :
    (∀ ops : List Operation,
      ((Report.empty.applyAll ops).isValid = true ↔ (Report.empty.applyAll ops).errors = []) ∧
      (Report.empty.applyAll ops).errors = (notesOf ops).filterMap Note.issue? ∧
      (Report.empty.applyAll ops).warnings = (notesOf ops).filterMap Note.warning?) ∧
    (∀ r s t : Report, (r.merge s).merge t = r.merge (s.merge t) ∧
      Report.empty.merge r = r ∧ r.merge Report.empty = r) ∧
    (∀ c : ClassSpec, ∃ ops, Report.empty.applyAll ops = c.check) ∧
    ∀ classes : List ClassSpec,
      Report.empty.applyAll (batchOperations classes) = checkClasses classes ∧
      ((checkClasses classes).errors = classes.zipIdx.flatMap fun (c, i) =>
        (if c.name ∈ (classes.take i).map (·.name) then [c.duplicate] else []) ++ c.check.errors) ∧
      (checkClasses classes).warnings = classes.flatMap (·.check.warnings) ∧
      ∀ reordered, classes.Perm reordered →
        (checkClasses reordered).isValid = (checkClasses classes).isValid := by
  refine ⟨fun ops => ?_, fun r s t => ?_, fun c => ?_, fun classes => ?_⟩
  · rw [Report.applyAll_empty]
    exact ⟨Report.consistent_ofNotes _, rfl, rfl⟩
  · exact ⟨r.merge_assoc s t, r.empty_merge, r.merge_empty⟩
  · exact Report.exists_applyAll_iff.mpr c.consistent_check
  · exact ⟨applyAll_batchOperations classes, errors_checkClasses classes,
      warnings_checkClasses classes, fun _ => isValid_checkClasses_of_perm⟩

end AccessorGen
