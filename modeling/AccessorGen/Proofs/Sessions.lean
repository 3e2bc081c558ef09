import AccessorGen.Proofs.Overwrites
import AccessorGen.Session

/-!
# Sessions into a directory

A session generates by rounds and by single classes, under settings that change, into a directory of which
nothing is known. What generates the units of a step and what writes them are kept apart
(`Session.generated`, `Session.taken`): a step that generates nothing touches nothing, and every other one is
a delivery, so `SourceDirectory.took_deliver` says what each step does to the directory. Whole sessions
follow by induction, and at every moment the directory agrees with its record.
-/

set_option autoImplicit false

namespace AccessorGen

/-! ## Generation -/

namespace Config

variable {config : Config}

/-- Generating a class touches no files, so no file makes it fail. -/
theorem classUnit_ne_file (config : Config) (c : ClassDecl) (fault : FileFault) :
    config.classUnit c ≠ .error (.file fault) := by
  intro h
  rw [classUnit_eq] at h
  cases hf : c.touchedFields.find? config.hides with
  | some f =>
    rw [hf] at h
    cases h
  | none =>
    rw [hf, Option.elim_none, composeUnit] at h
    split at h
    · cases h
    · split at h
      · cases h
      · dsimp only at h
        split at h <;> cases h

theorem roundUnits_ne_file (config : Config) (classes : List ClassDecl) (fault : FileFault) :
    config.roundUnits classes ≠ .error (.file fault) := by
  intro h
  obtain ⟨-, c, -, -, -, -, hc | ⟨u, -, -, he⟩⟩ := generateFrom_eq_error h
  · exact classUnit_ne_file config c fault hc
  · cases he

theorem noSlash_of_classUnit {c : ClassDecl} (hc : c.NoSlash)
    (hending : '/' ∉ config.strategy.ending.toList) {u : SourceUnit}
    (h : config.classUnit c = .ok (some u)) : u.name.NoSlash := by
  rw [name_of_classUnit h]
  exact hc.unitName hending

section

variable {σ : Type} [Destination σ]

theorem deliverRound_of_error {classes : List ClassDecl} {e : Error}
    (h : config.roundUnits classes = .error e) (target : σ) :
    (config.deliverRound classes target).target = target ∧
      (config.deliverRound classes target).result = .error e := by
  unfold deliverRound
  rw [h]
  exact ⟨rfl, rfl⟩

/-- Writing a class is delivering its unit, if it has one. -/
theorem deliverClass_of_ok {c : ClassDecl} {unit : Option SourceUnit}
    (h : config.classUnit c = .ok unit) (target : σ) :
    (config.deliverClass c target).target = (deliver target unit.toList).target ∧
      (config.deliverClass c target).result =
        (deliver target unit.toList).result.map fun _ => unit := by
  unfold deliverClass
  rw [h]
  cases unit with
  | none => exact ⟨rfl, rfl⟩
  | some u =>
    simp only [Option.toList_some, deliver]
    cases Destination.write target u with
    | error fault => exact ⟨rfl, rfl⟩
    | ok next => exact ⟨rfl, rfl⟩

theorem deliverClass_of_error {c : ClassDecl} {e : Error} (h : config.classUnit c = .error e)
    (target : σ) :
    (config.deliverClass c target).target = target ∧
      (config.deliverClass c target).result = .error e := by
  unfold deliverClass
  rw [h]
  exact ⟨rfl, rfl⟩

end

end Config

/-! ## Steps -/

/-- There is no slash in a name of the step: in those of its classes, in the suffix that it sets. -/
def Step.NoSlash : Step → Prop
  | .configure config => '/' ∉ config.strategy.ending.toList
  | .emit classes => ∀ c ∈ classes, c.NoSlash
  | .write c => c.NoSlash

namespace Session

/-- The units that the step generates. -/
def generated {σ : Type} (s : Session σ) : Step → Except Error (List SourceUnit)
  | .configure _ => .ok []
  | .emit classes => s.config.roundUnits classes
  | .write c => (s.config.classUnit c).map Option.toList

theorem generated_write_eq_ok {σ : Type} {s : Session σ} {c : ClassDecl} {units : List SourceUnit}
    (h : s.generated (.write c) = .ok units) :
    ∃ unit, s.config.classUnit c = .ok unit ∧ units = unit.toList := by
  obtain ⟨unit, hunit, rfl⟩ := map_eq_ok_iff.mp h
  exact ⟨unit, hunit, rfl⟩

theorem generated_write_eq_error {σ : Type} {s : Session σ} {c : ClassDecl} {e : Error}
    (h : s.generated (.write c) = .error e) : s.config.classUnit c = .error e := by
  rw [generated] at h
  cases hunit : s.config.classUnit c with
  | error e' =>
    rw [hunit] at h
    cases h
    rfl
  | ok unit =>
    rw [hunit] at h
    cases h

theorem generated_ne_file {σ : Type} (s : Session σ) (step : Step) (fault : FileFault) :
    s.generated step ≠ .error (.file fault) := by
  intro h
  cases step with
  | configure config => cases h
  | emit classes => exact Config.roundUnits_ne_file s.config classes fault h
  | write c => exact Config.classUnit_ne_file s.config c fault (generated_write_eq_error h)

section

variable {σ : Type} [Destination σ] {s : Session σ} {step : Step}

/-- The units that the step writes. -/
def taken (s : Session σ) (step : Step) : List SourceUnit :=
  match s.generated step with
  | .error _ => []
  | .ok units => AccessorGen.taken s.target units

/-- A step that fails in generation does nothing. -/
theorem act_of_generated_error {e : Error} (h : s.generated step = .error e) :
    (s.act step).target = s.target ∧ (s.act step).result = .error e := by
  cases step with
  | configure config => cases h
  | emit classes =>
    obtain ⟨htarget, hresult⟩ := Config.deliverRound_of_error h s.target
    exact ⟨htarget, congrArg (·.map Answer.emitted) hresult⟩
  | write c =>
    obtain ⟨htarget, hresult⟩ := Config.deliverClass_of_error (generated_write_eq_error h) s.target
    exact ⟨htarget, congrArg (·.map Answer.written) hresult⟩

/-- Every other step is a delivery. -/
theorem act_of_generated_ok {units : List SourceUnit} (h : s.generated step = .ok units) :
    (s.act step).target = (deliver s.target units).target ∧
      ∃ answer, (s.act step).result = (deliver s.target units).result.map fun _ => answer := by
  have hmap : ∀ {α : Type} (x : Except Error Unit) (a : α) (f : α → Answer),
      (x.map fun _ => a).map f = x.map fun _ => f a := by
    intro α x a f
    cases x <;> rfl
  cases step with
  | configure config =>
    cases h
    exact ⟨rfl, .configured config, rfl⟩
  | emit classes =>
    obtain ⟨htarget, hresult⟩ := Config.deliverRound_of_ok h s.target
    exact ⟨htarget, .emitted units, (congrArg (·.map Answer.emitted) hresult).trans (hmap _ _ _)⟩
  | write c =>
    obtain ⟨unit, hunit, rfl⟩ := generated_write_eq_ok h
    obtain ⟨htarget, hresult⟩ := Config.deliverClass_of_ok hunit s.target
    exact ⟨htarget, .written unit, (congrArg (·.map Answer.written) hresult).trans (hmap _ _ _)⟩

/-! ## Runs -/

/-- The session after the steps. -/
def afterAll (s : Session σ) (steps : List Step) : Session σ := steps.foldl after s

/-- The units that the steps write, one after the other. -/
def takenAll (s : Session σ) : List Step → List SourceUnit
  | [] => []
  | step :: rest => s.taken step ++ (s.after step).takenAll rest

/-- What a run does last it does in the session after the steps before. -/
theorem run_concat (s : Session σ) (steps : List Step) (step : Step) :
    s.run (steps ++ [step]) = s.run steps ++ [(s.afterAll steps).act step] := by
  induction steps generalizing s with
  | nil => rfl
  | cons first rest ih => exact congrArg (s.act first :: ·) (ih (s.after first))

end

/-! ## Sessions into a directory -/

variable {s : Session SourceDirectory} {step : Step} {steps : List Step}

/-- The file system refuses nothing for itself, and there is no slash in the suffix. -/
structure Plain (s : Session SourceDirectory) : Prop where
  limits : s.target.tree.limits = none
  ending : '/' ∉ s.config.strategy.ending.toList

theorem Plain.noSlash_of_generated (hs : s.Plain) (hstep : step.NoSlash) {units : List SourceUnit}
    (h : s.generated step = .ok units) : ∀ u ∈ units, u.name.NoSlash := by
  intro u hu
  cases step with
  | configure config =>
    cases h
    cases hu
  | emit classes =>
    obtain ⟨c, hc, hunit⟩ := Config.exists_class_of_mem h hu
    exact Config.noSlash_of_classUnit (hstep c hc) hs.ending hunit
  | write c =>
    obtain ⟨unit, hunit, rfl⟩ := generated_write_eq_ok h
    rw [Option.mem_toList.mp hu] at hunit
    exact Config.noSlash_of_classUnit hstep hs.ending hunit

theorem Plain.noSlash_of_taken (hs : s.Plain) (hstep : step.NoSlash) :
    ∀ u ∈ s.taken step, u.name.NoSlash := by
  intro u hu
  unfold taken at hu
  cases h : s.generated step with
  | error e =>
    rw [h] at hu
    cases hu
  | ok units =>
    rw [h] at hu
    exact hs.noSlash_of_generated hstep h u (mem_of_mem_taken hu)

/-- **A step leaves the directory with the units it has written.** -/
theorem Plain.took_act (hs : s.Plain) (step : Step) :
    s.target.Took (s.taken step) (s.act step).target := by
  unfold taken
  cases h : s.generated step with
  | error e =>
    rw [(act_of_generated_error h).1]
    exact SourceDirectory.Took.refl s.target
  | ok units =>
    rw [(act_of_generated_ok h).1]
    exact SourceDirectory.took_deliver hs.limits units

theorem Plain.after (hs : s.Plain) (hstep : step.NoSlash) : (s.after step).Plain := by
  refine ⟨(hs.took_act step).limits.trans hs.limits, ?_⟩
  cases step with
  | configure config => exact hstep
  | emit | write => exact hs.ending

theorem Plain.afterAll (hs : s.Plain) (hsteps : ∀ step ∈ steps, step.NoSlash) :
    (s.afterAll steps).Plain := by
  induction steps generalizing s with
  | nil => exact hs
  | cons step rest ih =>
    apply ih (hs.after (hsteps step List.mem_cons_self))
    intro later hlater
    exact hsteps later (List.mem_cons_of_mem _ hlater)

/-- **A run leaves the directory with the units that its steps have written.** -/
theorem Plain.took_afterAll (hs : s.Plain) (hsteps : ∀ step ∈ steps, step.NoSlash) :
    s.target.Took (s.takenAll steps) (s.afterAll steps).target ∧
      ∀ u ∈ s.takenAll steps, u.name.NoSlash := by
  induction steps generalizing s with
  | nil => exact ⟨SourceDirectory.Took.refl s.target, fun u hu => by cases hu⟩
  | cons step rest ih =>
    have hstep := hsteps step List.mem_cons_self
    obtain ⟨htook, hnames⟩ := ih (hs.after hstep) fun later hlater =>
      hsteps later (List.mem_cons_of_mem _ hlater)
    refine ⟨(hs.took_act step).trans htook, ?_⟩
    intro u hu
    rcases List.mem_append.mp hu with hu | hu
    · exact hs.noSlash_of_taken hstep u hu
    · exact hnames u hu

/-- What a step does to the directory, and where it stops. -/
structure Accounts (s : Session SourceDirectory) (step : Step) : Prop where
  /-- The units that were written are all there is to it. -/
  took : s.target.Took (s.taken step) (s.act step).target
  /-- Nothing was touched if generation failed. -/
  failed : ∀ e, s.generated step = .error e →
    (s.act step).target = s.target ∧ (s.act step).result = .error e
  /-- Every unit was written if the step succeeded. -/
  done : ∀ answer, (s.act step).result = .ok answer → s.generated step = .ok (s.taken step)
  /-- The units in front of the one that could not be written were, and no others. -/
  stopped : ∀ fault, (s.act step).result = .error (.file fault) →
    ∃ u rest, s.generated step = .ok (s.taken step ++ u :: rest) ∧
      Destination.write (s.act step).target u = .error fault

theorem Plain.accounts (hs : s.Plain) (step : Step) : s.Accounts step := by
  refine ⟨hs.took_act step, fun e h => act_of_generated_error h, ?_, ?_⟩
  · intro answer hresult
    cases h : s.generated step with
    | error e =>
      rw [(act_of_generated_error h).2] at hresult
      cases hresult
    | ok units =>
      obtain ⟨-, given, hgiven⟩ := act_of_generated_ok h
      rcases deliver_outcome s.target units with ⟨-, htaken⟩ | ⟨u, rest, fault, -, hfault, -⟩
      · rw [taken, h]
        exact congrArg Except.ok htaken.symm
      · rw [hgiven, hfault] at hresult
        cases hresult
  · intro fault hresult
    cases h : s.generated step with
    | error e =>
      -- the error of the file system is none of generation
      rw [(act_of_generated_error h).2] at hresult
      cases hresult
      exact absurd h (generated_ne_file s step fault)
    | ok units =>
      obtain ⟨htarget, given, hgiven⟩ := act_of_generated_ok h
      rw [hgiven] at hresult
      rcases deliver_outcome s.target units with ⟨hok, -⟩ | ⟨u, rest, fault', hunits, herror, hwrite⟩
      · rw [hok] at hresult
        cases hresult
      · rw [herror] at hresult
        cases hresult
        refine ⟨u, rest, ?_, by rw [htarget]; exact hwrite⟩
        rw [taken, h]
        exact congrArg Except.ok hunits

/-- **Through all of a session the directory agrees with its record.** -/
theorem afterAll_holds (config : Config) (root : String) (tree : FileTree)
    (hlimits : tree.limits = none) (hending : '/' ∉ config.strategy.ending.toList)
    (hsteps : ∀ step ∈ steps, step.NoSlash) :
    let start : Session SourceDirectory := ⟨config, { root, tree }⟩
    (start.afterAll steps).target.Holds (start.takenAll steps) tree ∧
      ∀ step : Step, step.NoSlash → (start.afterAll steps).Accounts step := by
  intro start
  have hstart : start.Plain := ⟨hlimits, hending⟩
  obtain ⟨htook, hnames⟩ := hstart.took_afterAll hsteps
  refine ⟨htook.holds rfl hnames, ?_⟩
  intro step _
  exact (hstart.afterAll hsteps).accounts step

/-- A tree in which a directory stands where the second of two files should. -/
def blockedTree : FileTree where
  nodes := [(["out"], .directory), (["out", "shop"], .directory),
    (["out", "shop", "Item_PartLombok.java"], .directory)]

theorem afterAll_holds_blocked :
    let start : Session SourceDirectory := ⟨Config.companions, { root := "out", tree := blockedTree }⟩
    let steps : List Step := [.emit Config.shopClasses, .configure {}]
    (start.takenAll steps).length = 1 ∧
      (start.afterAll steps).target.Holds (start.takenAll steps) blockedTree ∧
      ∀ step : Step, step.NoSlash → (start.afterAll steps).Accounts step := by
  intro start steps
  have hshop : ∀ c ∈ Config.shopClasses, c.NoSlash := by
    intro c hc
    constructor <;> revert c <;> decide +kernel
  have hsteps : ∀ step ∈ steps, step.NoSlash := by
    intro step hstep
    rcases List.mem_cons.mp hstep with rfl | hstep
    · exact hshop
    · rw [List.mem_singleton.mp hstep]
      show '/' ∉ _
      decide
  have htaken : start.takenAll steps =
      AccessorGen.taken start.target (Config.shopClasses.map Config.companions.unitOf) := by
    have hround : start.generated (.emit Config.shopClasses) = _ := Config.roundUnits_shopClasses
    show start.taken (.emit Config.shopClasses) ++ [] = _
    rw [List.append_nil, taken, hround]
  refine ⟨?_, afterAll_holds Config.companions "out" blockedTree rfl (by decide) hsteps⟩
  rw [htaken]
  decide +kernel

end Session

end AccessorGen
