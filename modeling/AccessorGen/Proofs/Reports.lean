import AccessorGen.Report

/-!
# What a report holds

A report is filled by operations: an issue or a warning is noted in it, or another report is merged into
it that was filled in the same way. What is noted keeps its order through all of this. A report holds the
notes that were made in it and in the reports merged into it, in the order in which they were made, as if
there had been one report only (`applyAll_ofNotes`).

The flag is kept beside the errors, and the operations keep the two in step. No more than that is asked
of a report for it to have come about by operations (`exists_applyAll_iff`).
-/

set_option autoImplicit false

namespace AccessorGen

/-- What is noted in a report at once. -/
inductive Note
  | issue (issue : Issue)
  | warning (warning : Warning)
  deriving DecidableEq, Repr

namespace Note

def issue? : Note → Option Issue
  | .issue i => some i
  | .warning _ => none

def warning? : Note → Option Warning
  | .issue _ => none
  | .warning w => some w

end Note

/-- An operation on a report. What is merged into the report is what other operations have made of the
empty one. -/
inductive Operation
  | note (note : Note)
  | merge (operations : List Operation)

/-! ## Operations -/

namespace Report

def note (r : Report) : Note → Report
  | .issue i => r.addError i
  | .warning w => r.addWarning w

mutual

def apply (r : Report) : Operation → Report
  | .note n => r.note n
  | .merge operations => r.merge (empty.applyAll operations)

def applyAll (r : Report) : List Operation → Report
  | [] => r
  | op :: rest => (r.apply op).applyAll rest

end

end Report

mutual

/-- The notes that an operation makes, those of a merged report included. -/
def Operation.notes : Operation → List Note
  | .note n => [n]
  | .merge operations => notesOf operations

/-- The notes that the operations make, one after another. -/
def notesOf : List Operation → List Note
  | [] => []
  | op :: rest => op.notes ++ notesOf rest

end

theorem notesOf_eq_flatMap (ops : List Operation) : notesOf ops = ops.flatMap (·.notes) := by
  induction ops with
  | nil => rfl
  | cons op rest ih => rw [notesOf, ih, List.flatMap_cons]

theorem notesOf_map_note (ns : List Note) : notesOf (ns.map .note) = ns := by
  rw [notesOf_eq_flatMap, List.flatMap_map]
  exact List.flatMap_singleton' ns

/-! ## Reports by their notes -/

namespace Report

theorem merge_assoc (r s t : Report) : (r.merge s).merge t = r.merge (s.merge t) := by
  simp only [merge, Bool.and_assoc, List.append_assoc]

theorem empty_merge (r : Report) : empty.merge r = r := rfl

theorem merge_empty (r : Report) : r.merge empty = r := by
  simp only [merge, empty, Bool.and_true, List.append_nil]

/-- The report that holds the notes. -/
def ofNotes (ns : List Note) : Report :=
  ⟨(ns.filterMap Note.issue?).isEmpty, ns.filterMap Note.issue?, ns.filterMap Note.warning?⟩

@[simp] theorem ofNotes_nil : ofNotes [] = empty := rfl

theorem errors_ofNotes (ns : List Note) : (ofNotes ns).errors = ns.filterMap Note.issue? := rfl

theorem warnings_ofNotes (ns : List Note) : (ofNotes ns).warnings = ns.filterMap Note.warning? := rfl

theorem ofNotes_append (ms ns : List Note) : ofNotes (ms ++ ns) = (ofNotes ms).merge (ofNotes ns) := by
  simp only [ofNotes, merge, List.filterMap_append, mk.injEq, and_self, and_true]
  cases ms.filterMap Note.issue? <;> rfl

theorem note_eq_merge (r : Report) (n : Note) : r.note n = r.merge (ofNotes [n]) := by
  cases n with
  | issue i => simp [note, addError, merge, ofNotes, Note.issue?, Note.warning?]
  | warning w => simp [note, addWarning, merge, ofNotes, Note.issue?, Note.warning?]

-- The notes made before are left open: one operation is followed by another on the same report, and the
-- operations of a report that is merged in start from none.
mutual

theorem apply_ofNotes (ns : List Note) (op : Operation) :
    (ofNotes ns).apply op = ofNotes (ns ++ op.notes) := by
  cases op with
  | note n => rw [apply, Operation.notes, note_eq_merge, ofNotes_append]
  | merge operations =>
    rw [apply, Operation.notes, ofNotes_append, ← ofNotes_nil, applyAll_ofNotes, List.nil_append]

/-- **What operations make of a report holds their notes behind its own.** -/
theorem applyAll_ofNotes (ns : List Note) (ops : List Operation) :
    (ofNotes ns).applyAll ops = ofNotes (ns ++ notesOf ops) := by
  cases ops with
  | nil => rw [applyAll, notesOf, List.append_nil]
  | cons op rest =>
    rw [applyAll, notesOf, apply_ofNotes, applyAll_ofNotes, List.append_assoc]

end

theorem applyAll_empty (ops : List Operation) : empty.applyAll ops = ofNotes (notesOf ops) :=
  applyAll_ofNotes [] ops

example (i j : Issue) (w : Warning) :
    empty.applyAll [.note (.issue i), .merge [.merge [.note (.warning w)], .note (.issue j)]] =
      ⟨false, [i, j], [w]⟩ := rfl

/-! ## The flag and the errors -/

/-- Whether the flag is up exactly as long as there are no errors. -/
def Consistent (r : Report) : Prop := r.isValid = true ↔ r.errors = []

theorem consistent_ofNotes (ns : List Note) : (ofNotes ns).Consistent := List.isEmpty_iff

theorem consistent_empty : empty.Consistent := consistent_ofNotes []

theorem consistent_error (issue : Issue) : (error issue).Consistent := consistent_ofNotes [.issue issue]

theorem consistent_warning (w : Warning) : (warning w).Consistent := consistent_ofNotes [.warning w]

theorem Consistent.append {r s : Report} (hr : r.Consistent) (hs : s.Consistent) :
    (r ++ s).Consistent := by
  rw [Consistent, isValid_append, errors_append, Bool.and_eq_true, List.append_eq_nil_iff]
  exact and_congr hr hs

theorem Consistent.onlyIf {r : Report} (h : r.Consistent) (condition : Bool) :
    (onlyIf condition r).Consistent := by
  cases condition with
  | true => exact h
  | false => exact consistent_empty

theorem consistent_concat {rs : List Report} (h : ∀ r ∈ rs, r.Consistent) : (concat rs).Consistent := by
  induction rs with
  | nil => exact consistent_empty
  | cons r rs ih =>
    rw [List.forall_mem_cons] at h
    exact h.1.append (ih h.2)

/-- The issues and the warnings of a report as notes. In which order the two lists are taken cannot be
seen from the report. -/
def notes (r : Report) : List Note := r.errors.map .issue ++ r.warnings.map .warning

/-- Operations that note what the report holds. -/
def operations (r : Report) : List Operation := r.notes.map .note

@[simp] theorem notesOf_operations (r : Report) : notesOf r.operations = r.notes :=
  notesOf_map_note r.notes

theorem filterMap_issue?_notes (r : Report) : r.notes.filterMap Note.issue? = r.errors := by
  simp [notes, List.filterMap_map, Function.comp_def, Note.issue?]

theorem filterMap_warning?_notes (r : Report) : r.notes.filterMap Note.warning? = r.warnings := by
  simp [notes, List.filterMap_map, Function.comp_def, Note.warning?]

theorem Consistent.ofNotes_notes {r : Report} (h : r.Consistent) : ofNotes r.notes = r := by
  have hflag : r.errors.isEmpty = r.isValid := by
    rw [Bool.eq_iff_iff, List.isEmpty_iff]
    exact h.symm
  rw [ofNotes, filterMap_issue?_notes, filterMap_warning?_notes, hflag]

/-- **A report can come about by operations exactly when its flag agrees with its errors.** -/
theorem exists_applyAll_iff {r : Report} :
    (∃ ops, empty.applyAll ops = r) ↔ r.Consistent := by
  constructor
  · rintro ⟨ops, rfl⟩
    rw [applyAll_empty]
    exact consistent_ofNotes _
  · intro h
    refine ⟨r.operations, ?_⟩
    rw [applyAll_empty, notesOf_operations, h.ofNotes_notes]

end Report

end AccessorGen
