import AccessorGen.Proofs.RoundClasswise
import AccessorGen.Proofs.Sessions

/-!
# Sessions into memory

Memory takes every unit, so nothing stops a step but generation, and what a step answers can be said of
the settings and the step alone (`Config.answer`). The memory itself only grows: a step adds the units that
it answers with (`act_collects`), which are those of its classes if it succeeds and none if it fails. That
makes every session all or nothing, step by step.

The memory before a step appears in none of this. Units of earlier steps are only ever in front.
-/

set_option autoImplicit false

namespace AccessorGen

/-- What memory keeps of a unit. -/
def SourceUnit.record (u : SourceUnit) : String × String := (u.qualifiedName, u.source)

/-- The units that an answer tells of. -/
def Answer.units : Answer → List SourceUnit
  | .configured _ => []
  | .emitted units => units
  | .written unit => unit.toList

/-- What the units of an action leave in memory; nothing if it failed. -/
def Action.records {σ : Type} (a : Action σ Answer) : List (String × String) :=
  match a.result with
  | .error _ => []
  | .ok answer => answer.units.map (·.record)

/-- The classes that the step is about. -/
def Step.classes : Step → List ClassDecl
  | .configure _ => []
  | .emit classes => classes
  | .write c => [c]

theorem Action.records_of_ok {σ : Type} {a : Action σ Answer} {answer : Answer}
    (h : a.result = .ok answer) : a.records = answer.units.map (·.record) := by
  unfold records
  rw [h]

theorem Action.records_of_error {σ : Type} {a : Action σ Answer} {e : Error}
    (h : a.result = .error e) : a.records = [] := by
  unfold records
  rw [h]

/-! ## Answers -/

namespace Config

/-- What the step answers under these settings as far as generation decides. -/
def answer (config : Config) : Step → Except Error Answer
  | .configure next => .ok (.configured next)
  | .emit classes => (config.roundUnits classes).map .emitted
  | .write c => (config.classUnit c).map .written

/-- **A step that succeeds answers with the units of its classes,** in their order. -/
theorem units_of_answer {config : Config} {step : Step} {answer : Answer}
    (h : config.answer step = .ok answer) :
    answer.units = step.classes.filterMap config.unit? := by
  cases step with
  | configure next =>
    cases h
    rfl
  | emit classes =>
    obtain ⟨units, hround, rfl⟩ := map_eq_ok_iff.mp h
    exact (roundUnits_eq_ok_iff.mp hround).2.2
  | write c =>
    obtain ⟨unit, hunit, rfl⟩ := map_eq_ok_iff.mp h
    show unit.toList = [c].filterMap config.unit?
    rw [← unit?_of_ok hunit]
    cases hc : config.unit? c with
    | none => rw [List.filterMap_cons_none hc, List.filterMap_nil, Option.toList_none]
    | some u => rw [List.filterMap_cons_some hc, List.filterMap_nil, Option.toList_some]

end Config

/-! ## Deliveries -/

theorem deliver_collects (target : CollectedUnits) (units : List SourceUnit) :
    (deliver target units).target.units = target.units ++ units.map (·.record) ∧
      (deliver target units).result = .ok () := by
  induction units generalizing target with
  | nil => exact ⟨(List.append_nil _).symm, rfl⟩
  | cons u rest ih =>
    obtain ⟨hunits, hresult⟩ := ih ⟨target.units ++ [u.record]⟩
    refine ⟨hunits.trans ?_, hresult⟩
    rw [List.map_cons, List.append_assoc, List.singleton_append]

namespace Session

variable {s : Session CollectedUnits} {step : Step}

/-- A step answers what generation says. -/
theorem result_act (s : Session CollectedUnits) (step : Step) :
    (s.act step).result = s.config.answer step := by
  cases step with
  | configure next => rfl
  | emit classes =>
    show ((s.config.deliverRound classes s.target).result).map Answer.emitted = _
    rw [Config.answer]
    cases h : s.config.roundUnits classes with
    | error e => rw [(Config.deliverRound_of_error h s.target).2]
    | ok units =>
      rw [(Config.deliverRound_of_ok h s.target).2, (deliver_collects s.target units).2]
      rfl
  | write c =>
    show ((s.config.deliverClass c s.target).result).map Answer.written = _
    rw [Config.answer]
    cases h : s.config.classUnit c with
    | error e => rw [(Config.deliverClass_of_error h s.target).2]
    | ok unit =>
      rw [(Config.deliverClass_of_ok h s.target).2, (deliver_collects s.target unit.toList).2]
      rfl

theorem generated_eq_map_answer {σ : Type} (s : Session σ) (step : Step) :
    s.generated step = (s.config.answer step).map (·.units) := by
  cases step with
  | configure next => rfl
  | emit classes =>
    rw [generated, Config.answer]
    cases s.config.roundUnits classes <;> rfl
  | write c =>
    rw [generated, Config.answer]
    cases s.config.classUnit c <;> rfl

/-- **A step adds to the memory the units that it answers with,** and nothing else. -/
theorem act_collects (s : Session CollectedUnits) (step : Step) :
    (s.act step).target.units = s.target.units ++ (s.act step).records := by
  have hgenerated := generated_eq_map_answer s step
  rw [← result_act] at hgenerated
  cases h : (s.act step).result with
  | error e =>
    rw [h] at hgenerated
    rw [(act_of_generated_error hgenerated).1, Action.records_of_error h, List.append_nil]
  | ok answer =>
    rw [h] at hgenerated
    rw [(act_of_generated_ok hgenerated).1, Action.records_of_ok h]
    exact (deliver_collects s.target answer.units).1

/-- **A step that fails changes nothing,** neither the memory nor the settings. -/
theorem after_of_error {e : Error} (h : (s.act step).result = .error e) : s.after step = s := by
  have htarget : (s.act step).target = s.target := by
    have hunits := act_collects s step
    rw [Action.records_of_error h, List.append_nil] at hunits
    exact congrArg CollectedUnits.mk hunits
  have hconfig : s.configAfter step = s.config := by
    cases step with
    | configure next => cases h
    | emit | write => rfl
  unfold after
  rw [htarget, hconfig]

/-! ## Runs -/

/-- What is in the memory after each step of a run: what was in it before, then what the steps so far
have added. -/
theorem run_collects {steps : List Step} {i : Nat} {a : Action CollectedUnits Answer}
    (h : (s.run steps)[i]? = some a) :
    a.target.units = s.target.units ++ ((s.run steps).take (i + 1)).flatMap (·.records) := by
  -- on the steps, from the session that the first of them leaves
  induction steps generalizing s i with
  | nil => cases h
  | cons first rest ih =>
    have hfirst := act_collects s first
    rw [run, List.take_succ_cons, List.flatMap_cons]
    cases i with
    | zero =>
      cases h
      rw [List.take_zero, List.flatMap_nil, List.append_nil]
      exact hfirst
    | succ i =>
      rw [ih h]
      show (s.act first).target.units ++ _ = _
      rw [hfirst, List.append_assoc]

/-- **All or nothing, through all of a session.** After each step the memory holds what it held at the
start and then what the steps so far have added, in their order: a step that succeeds adds the units of
its classes in their order, one that fails adds nothing and leaves the session as it was. Whether a step
succeeds, and with what answer, is a matter of the settings and the step, and never of the units that are
in the memory. -/
theorem all_or_nothing (s : Session CollectedUnits) (steps : List Step) :
    (∀ i a, (s.run steps)[i]? = some a →
      a.target.units = s.target.units ++ ((s.run steps).take (i + 1)).flatMap (·.records)) ∧
    ∀ step,
      s.run (steps ++ [step]) = s.run steps ++ [(s.afterAll steps).act step] ∧
      ((s.afterAll steps).act step).result = (s.afterAll steps).config.answer step ∧
      (∀ answer, ((s.afterAll steps).act step).result = .ok answer →
        ((s.afterAll steps).act step).records =
          (step.classes.filterMap (s.afterAll steps).config.unit?).map (·.record)) ∧
      ∀ e, ((s.afterAll steps).act step).result = .error e →
        ((s.afterAll steps).act step).records = [] ∧
          (s.afterAll steps).after step = s.afterAll steps := by
  refine ⟨fun i a h => run_collects h, fun step => ⟨run_concat s steps step, result_act _ step, ?_, ?_⟩⟩
  · intro answer h
    rw [Action.records_of_ok h]
    rw [result_act] at h
    rw [Config.units_of_answer h]
  · intro e h
    exact ⟨Action.records_of_error h, after_of_error h⟩

end Session

end AccessorGen
