import AccessorGen.Command.Run
import AccessorGen.Proofs.Sessions

/-!
# Runs that only check

A run with `--check` stops where another one would start to write. Up to there both are the same
(`Options.FailsEarly`, `Options.Generates`), so a checking run fails exactly where the other one fails
before its first write, and it knows the names of the units that the other one delivers. What it cannot
know is the directory: a delivery can still meet a file or a directory in its way.

Which units a delivery writes and what that leaves in the tree is taken from `Overwrites`, where nothing is
assumed of the names of the units. So nothing is assumed of the suffix either, not even that no slash is in
it; without one, each unit has a file to itself.
-/

set_option autoImplicit false

namespace AccessorGen.Command

/-! ## Words -/

namespace Options

/-- The same options, and `--check`. -/
def checking (o : Options) : Options := { o with check := true }

variable {o p : Options}

/-- Every other flag is raised as it would be without `--check`. -/
theorem raise?_checking {f : Flag} (hf : f ≠ .check) (h : o.raise? f = some p) :
    o.checking.raise? f = some p.checking ∧ p.check = o.check := by
  cases f with
  | check => exact absurd rfl hf
  | noJavadoc | generatedMark | verbose =>
    simp only [raise?, Option.ite_none_left_eq_some, Option.some.injEq] at h
    obtain ⟨hnew, rfl⟩ := h
    exact ⟨if_neg hnew, rfl⟩

theorem set?_checking {value : String} {s : Setting} (h : o.set? value s = some p) :
    o.checking.set? value s = some p.checking ∧ p.check = o.check := by
  cases s with
  | out | suffix =>
    simp only [set?, Option.ite_none_left_eq_some, Option.some.injEq] at h
    obtain ⟨hnew, rfl⟩ := h
    exact ⟨if_neg hnew, rfl⟩
  | strategy =>
    simp only [set?, Option.ite_none_left_eq_some] at h
    obtain ⟨hnew, h⟩ := h
    have hset : o.checking.set? value .strategy = _ := if_neg hnew
    rw [hset]
    split at h
    · cases h
      exact ⟨rfl, rfl⟩
    · cases h
      exact ⟨rfl, rfl⟩
    · cases h

theorem addSchema?_checking {path : String} (h : o.addSchema? path = some p) :
    o.checking.addSchema? path = some p.checking ∧ p.check = o.check := by
  simp only [addSchema?, Option.ite_none_left_eq_some, Option.some.injEq] at h
  obtain ⟨hpath, rfl⟩ := h
  exact ⟨if_neg hpath, rfl⟩

theorem raise?_check (h : o.raise? .check = some p) : p = o.checking := by
  simp only [raise?, Option.ite_none_left_eq_some, Option.some.injEq] at h
  exact h.2.symm

end Options

variable {o p : Options}

/-- Meanings that ask for a run which does not check ask for the same run with the check, once the flag
is raised before them. -/
theorem gather_checking {tokens : List Token} (h : gather o tokens = .run p) (hp : p.check = false) :
    o.check = false ∧ gather o.checking tokens = .run p.checking := by
  fun_induction gather o tokens with
  | case2 o hschemas =>
    cases h
    exact ⟨hp, if_neg hschemas⟩
  | case5 o f rest raised hraise ih =>
    obtain ⟨hraised, hrest⟩ := ih h
    by_cases hf : f = .check
    · -- the flag cannot come again
      subst hf
      rw [Options.raise?_check hraise] at hraised
      cases hraised
    · obtain ⟨hsame, hcheck⟩ := Options.raise?_checking hf hraise
      rw [gather, hsame]
      exact ⟨hcheck.symm.trans hraised, hrest⟩
  | case7 o s value rest settled hset ih =>
    obtain ⟨hsettled, hrest⟩ := ih h
    obtain ⟨hsame, hcheck⟩ := Options.set?_checking hset
    rw [gather, hsame]
    exact ⟨hcheck.symm.trans hsettled, hrest⟩
  | case9 o path rest added hadd ih =>
    obtain ⟨hadded, hrest⟩ := ih h
    obtain ⟨hsame, hcheck⟩ := Options.addSchema?_checking hadd
    rw [gather, hsame]
    exact ⟨hcheck.symm.trans hadded, hrest⟩
  | case1 | case3 | case4 | case6 | case8 | case10 => cases h

/-- The flag in front of a command line turns its run into one that checks. -/
theorem ofWords_check {words : List String} (h : Invocation.ofWords words = .run o)
    (ho : o.check = false) : Invocation.ofWords ("--check" :: words) = .run o.checking := by
  have hword : readWord "--check" = ⟨[.flag .check], none⟩ := rfl
  unfold Invocation.ofWords
  rw [readWords, if_neg (by decide), hword]
  exact (gather_checking h ho).2

/-! ## Up to the first write -/

/-- A fault that ends the run before its first write. -/
inductive Options.FailsEarly (o : Options) (tree : FileTree) : RunFault → Prop
  /-- A schema cannot be loaded. -/
  | load {e : Error} (h : Schema.loadAll tree.readText o.schemas = .error e) :
      FailsEarly o tree (.error e)
  /-- The schemas and the command line do not go together. -/
  | settle {schemas : List Schema} {fault : SettingsFault}
      (hload : Schema.loadAll tree.readText o.schemas = .ok schemas)
      (h : o.settle schemas = .error fault) : FailsEarly o tree (.settings fault)
  /-- The classes are not valid. -/
  | describe {schemas : List Schema} {config : Config} {e : Error}
      (hload : Schema.loadAll tree.readText o.schemas = .ok schemas)
      (hsettle : o.settle schemas = .ok config) (h : describeAll schemas = .error e) :
      FailsEarly o tree (.error e)
  /-- The round gives no units. -/
  | generate {schemas : List Schema} {config : Config} {classes : List ClassDecl} {e : Error}
      (hload : Schema.loadAll tree.readText o.schemas = .ok schemas)
      (hsettle : o.settle schemas = .ok config) (hdescribe : describeAll schemas = .ok classes)
      (h : config.roundUnits classes = .error e) : FailsEarly o tree (.error e)

/-- The run comes to its first write with these settings and these units. -/
def Options.Generates (o : Options) (tree : FileTree) (config : Config) (units : List SourceUnit) :
    Prop :=
  ∃ schemas classes, Schema.loadAll tree.readText o.schemas = .ok schemas ∧
    o.settle schemas = .ok config ∧ describeAll schemas = .ok classes ∧
    config.roundUnits classes = .ok units

variable {tree : FileTree}

/-- A run fails before its first write, or comes to it. -/
theorem failsEarly_or_generates (o : Options) (tree : FileTree) :
    (∃ fault, o.FailsEarly tree fault) ∨ ∃ config units, o.Generates tree config units := by
  cases hload : Schema.loadAll tree.readText o.schemas with
  | error e => exact Or.inl ⟨_, .load hload⟩
  | ok schemas =>
    cases hsettle : o.settle schemas with
    | error fault => exact Or.inl ⟨_, .settle hload hsettle⟩
    | ok config =>
      cases hdescribe : describeAll schemas with
      | error e => exact Or.inl ⟨_, .describe hload hsettle hdescribe⟩
      | ok classes =>
        cases hround : config.roundUnits classes with
        | error e => exact Or.inl ⟨_, .generate hload hsettle hdescribe hround⟩
        | ok units => exact Or.inr ⟨config, units, schemas, classes, hload, hsettle, hdescribe, hround⟩

theorem plan_of_ok {schemas : List Schema} {config : Config} {classes : List ClassDecl}
    (hload : Schema.loadAll tree.readText o.schemas = .ok schemas)
    (hsettle : o.settle schemas = .ok config) (hdescribe : describeAll schemas = .ok classes) :
    o.plan tree.readText = .ok ⟨config, classes⟩ := by
  apply bind_eq_ok_iff.mpr
  refine ⟨schemas, by rw [hload]; rfl, bind_eq_ok_iff.mpr ⟨config, by rw [hsettle]; rfl, ?_⟩⟩
  exact bind_eq_ok_iff.mpr ⟨classes, by rw [hdescribe]; rfl, rfl⟩

/-- A fault before the first write is met in the plan or in the round. -/
theorem Options.FailsEarly.plan_or_round {fault : RunFault} (h : o.FailsEarly tree fault) :
    o.plan tree.readText = .error fault ∨
      ∃ p e, o.plan tree.readText = .ok p ∧ p.config.roundUnits p.classes = .error e ∧
        fault = .error e := by
  cases h with
  | load h => exact Or.inl (bind_eq_error_iff.mpr (Or.inl (by rw [h]; rfl)))
  | @settle schemas fault hload h =>
    apply Or.inl
    apply bind_eq_error_iff.mpr
    refine Or.inr ⟨schemas, by rw [hload]; rfl, bind_eq_error_iff.mpr (Or.inl ?_)⟩
    rw [h]
    rfl
  | @describe schemas config e hload hsettle h =>
    apply Or.inl
    apply bind_eq_error_iff.mpr
    refine Or.inr ⟨schemas, by rw [hload]; rfl, bind_eq_error_iff.mpr (Or.inr ⟨config, ?_, ?_⟩)⟩
    · rw [hsettle]
      rfl
    · exact bind_eq_error_iff.mpr (Or.inl (by rw [h]; rfl))
  | generate hload hsettle hdescribe h =>
    exact Or.inr ⟨_, _, plan_of_ok hload hsettle hdescribe, h, rfl⟩

/-! ## Runs -/

theorem run_of_plan_error {fault : RunFault} (h : o.plan tree.readText = .error fault) :
    o.run tree = ⟨1, "", failureText fault.message, tree⟩ := by
  unfold Options.run
  rw [h]

/-- A run that checks plans the same. -/
theorem run_checking_of_plan_ok {p : Plan} (h : o.plan tree.readText = .ok p) :
    o.checking.run tree = check tree p := by
  have hplan : o.checking.plan tree.readText = .ok p := h
  unfold Options.run
  rw [hplan]
  rfl

theorem run_of_plan_ok (hcheck : o.check = false) {p : Plan} (h : o.plan tree.readText = .ok p) :
    o.run tree = emit tree o.outPath p := by
  unfold Options.run
  rw [h]
  exact if_neg (by simp [hcheck])

theorem check_of_error {p : Plan} {e : Error} (h : p.config.roundUnits p.classes = .error e) :
    check tree p = ⟨1, "", failureText e.message, tree⟩ := by
  unfold check
  rw [h]

theorem check_of_ok {p : Plan} {units : List SourceUnit}
    (h : p.config.roundUnits p.classes = .ok units) :
    check tree p = ⟨0, unlines (units.map (·.qualifiedName)), "", tree⟩ := by
  unfold check
  rw [h]

theorem emit_of_error {p : Plan} {e : Error} (h : p.config.roundUnits p.classes = .error e)
    (out : String) : emit tree out p = ⟨1, "", generationFailureText out e, tree⟩ := by
  obtain ⟨htarget, hresult⟩ := Config.deliverRound_of_error h ({ root := out, tree } : SourceDirectory)
  unfold emit
  dsimp only
  rw [hresult, htarget]

/-- The directory that the run writes to. -/
def Options.directory (o : Options) (tree : FileTree) : SourceDirectory := { root := o.outPath, tree }

/-- The run delivers the units. It names the paths of their files, and of all files these have changed,
to the source of the last unit at each place. -/
structure Options.Delivers (o : Options) (tree : FileTree) (config : Config) (units : List SourceUnit)
    (real : Outcome) : Prop where
  exitCode : real.exitCode = 0
  stdout : real.stdout = unlines (units.map fun u => (o.directory tree).pathOf u.name)
  stderr : real.stderr = ""
  files : ∀ q, real.tree.file? q =
    (((o.directory tree).lastAt units q).map fun u => Content.text u.source).or (tree.file? q)
  /-- Without a slash in the suffix each unit has a place to itself. -/
  apart : '/' ∉ config.strategy.ending.toList →
    (units.map fun u => (o.directory tree).placeOf u.name).Nodup
  /-- Then each file holds what its unit holds. -/
  own : (units.map fun u => (o.directory tree).placeOf u.name).Nodup → ∀ u ∈ units,
    real.tree.file? ((o.directory tree).placeOf u.name) = some (.text u.source)

/-- The run fails at a unit that cannot be written into the tree that it leaves. -/
structure Options.Stops (o : Options) (tree : FileTree) (units : List SourceUnit) (real : Outcome) :
    Prop where
  exitCode : real.exitCode = 1
  stdout : real.stdout = ""
  fault : ∃ u ∈ units, ∃ fault,
    real.tree.write ((o.directory tree).pathOf u.name) (.text u.source) = .error fault ∧
      real.stderr = generationFailureText o.outPath (.file fault)

theorem emit_of_ok {p : Plan} {units : List SourceUnit}
    (h : p.config.roundUnits p.classes = .ok units) :
    emit tree o.outPath p =
      let delivery := deliver (o.directory tree) units
      match delivery.result with
      | .error e => ⟨1, "", generationFailureText o.outPath e, delivery.target.tree⟩
      | .ok _ => ⟨0, unlines delivery.target.written, "", delivery.target.tree⟩ := by
  obtain ⟨htarget, hresult⟩ := Config.deliverRound_of_ok h (o.directory tree)
  unfold Options.directory at htarget hresult ⊢
  unfold emit
  dsimp only
  rw [hresult, htarget]
  cases (deliver (SourceDirectory.mk o.outPath tree []) units).result <;> rfl

/-- A run that comes to its first write stops at a unit or delivers all of them. -/
theorem emit_outcome {p : Plan} {units : List SourceUnit} (hlimits : tree.limits = none)
    (hsound : ∀ c ∈ p.classes, c.Sound) (h : p.config.roundUnits p.classes = .ok units) :
    o.Stops tree units (emit tree o.outPath p) ∨
      o.Delivers tree p.config units (emit tree o.outPath p) := by
  have htook := SourceDirectory.took_deliver (s := o.directory tree) hlimits units
  rw [emit_of_ok h]
  dsimp only
  rcases deliver_outcome (o.directory tree) units with
    ⟨hresult, htaken⟩ | ⟨u, rest, fault, hunits, hresult, hwrite⟩
  · rw [hresult]
    rw [htaken] at htook
    refine Or.inr ⟨rfl, congrArg unlines htook.written, rfl, htook.files, fun hending => ?_,
      fun hnodup u hu => ?_⟩
    · apply SourceDirectory.nodup_placeOf
      · exact fun u hu => (Config.endsIn_of_roundUnits hsound h hu).isComponent_path hending
      · exact Config.nodup_map_of_roundUnits hsound h fun n m hn hm => hn.eq_of_path_eq hm
    · show (deliver (o.directory tree) units).target.tree.file? _ = _
      rw [htook.files, SourceDirectory.lastAt_of_nodup hnodup hu]
      rfl
  · rw [hresult]
    have hmem : u ∈ units := by
      rw [hunits]
      simp
    refine Or.inl ⟨rfl, rfl, u, hmem, fault, ?_, rfl⟩
    rw [← SourceDirectory.pathOf_congr htook.root]
    rcases bind_eq_error_iff.mp hwrite with hfault | ⟨after, -, hreturn⟩
    · exact hfault
    · cases hreturn

/-- What a run that checks says of the one that does not. -/
structure Options.Foretells (o : Options) (tree : FileTree) (checked real : Outcome) : Prop where
  /-- It touches nothing. -/
  untouched : checked.tree = tree
  /-- It fails exactly if the other one fails before its first write. -/
  fails : checked.exitCode ≠ 0 ↔ ∃ fault, o.FailsEarly tree fault
  /-- Then both fail, the same fault is told by both, and nothing is written. -/
  told : ∀ fault, o.FailsEarly tree fault →
    checked = ⟨1, "", failureText fault.message, tree⟩ ∧
      (real = checked ∨ ∃ e, fault = .error e ∧ (∀ f, e ≠ .file f) ∧
        real = ⟨1, "", generationFailureText o.outPath e, tree⟩)
  /-- Otherwise it names the units, each by a name of its own, and the other one delivers them if it
  does not stop at one of them. -/
  named : checked.exitCode = 0 → ∃ config units, o.Generates tree config units ∧
    checked = ⟨0, unlines (units.map (·.qualifiedName)), "", tree⟩ ∧
    (units.map (·.qualifiedName)).Nodup ∧ (o.Stops tree units real ∨ o.Delivers tree config units real)

/-- Whether the run has delivered the units is seen from its exit code. -/
theorem Options.Foretells.delivers {checked real : Outcome} (h : o.Foretells tree checked real)
    (hchecked : checked.exitCode = 0) (hreal : real.exitCode = 0) :
    ∃ config units, o.Generates tree config units ∧ o.Delivers tree config units real := by
  obtain ⟨config, units, hunits, -, -, hstops | hdelivers⟩ := h.named hchecked
  · rw [hstops.exitCode] at hreal
    cases hreal
  · exact ⟨config, units, hunits, hdelivers⟩

theorem Options.Foretells.stops {checked real : Outcome} (h : o.Foretells tree checked real)
    (hchecked : checked.exitCode = 0) (hreal : real.exitCode ≠ 0) :
    ∃ config units, o.Generates tree config units ∧ o.Stops tree units real := by
  obtain ⟨config, units, hunits, -, -, hstops | hdelivers⟩ := h.named hchecked
  · exact ⟨config, units, hunits, hstops⟩
  · exact absurd hdelivers.exitCode hreal

/-- The fault is told by both runs. -/
theorem told_of_failsEarly (hcheck : o.check = false) {fault : RunFault}
    (h : o.FailsEarly tree fault) :
    o.checking.run tree = ⟨1, "", failureText fault.message, tree⟩ ∧
      (o.run tree = o.checking.run tree ∨ ∃ e, fault = .error e ∧ (∀ f, e ≠ .file f) ∧
        o.run tree = ⟨1, "", generationFailureText o.outPath e, tree⟩) := by
  rcases h.plan_or_round with hplan | ⟨p, e, hplan, hround, rfl⟩
  · have hchecked : o.checking.run tree = ⟨1, "", failureText fault.message, tree⟩ :=
      run_of_plan_error hplan
    exact ⟨hchecked, Or.inl ((run_of_plan_error hplan).trans hchecked.symm)⟩
  · refine ⟨(run_checking_of_plan_ok hplan).trans (check_of_error hround), Or.inr ⟨e, rfl, ?_, ?_⟩⟩
    · intro f he
      rw [he] at hround
      exact Config.roundUnits_ne_file p.config p.classes f hround
    · exact (run_of_plan_ok hcheck hplan).trans (emit_of_error hround o.outPath)

theorem foretells_of_failsEarly (hcheck : o.check = false) {fault : RunFault}
    (h : o.FailsEarly tree fault) : o.Foretells tree (o.checking.run tree) (o.run tree) := by
  have hchecked := (told_of_failsEarly hcheck h).1
  refine { untouched := ?_, fails := ?_, told := ?_, named := ?_ }
  · rw [hchecked]
  · rw [hchecked]
    exact ⟨fun _ => ⟨fault, h⟩, fun _ => Nat.one_ne_zero⟩
  · exact fun other hother => told_of_failsEarly hcheck hother
  · intro hzero
    rw [hchecked] at hzero
    cases hzero

theorem foretells_of_generates (hlimits : tree.limits = none) (hcheck : o.check = false)
    {config : Config} {units : List SourceUnit} (h : o.Generates tree config units) :
    o.Foretells tree (o.checking.run tree) (o.run tree) := by
  have hunits := h
  obtain ⟨schemas, classes, hload, hsettle, hdescribe, hround⟩ := h
  have hplan := plan_of_ok hload hsettle hdescribe
  have hchecked := (run_checking_of_plan_ok hplan).trans (check_of_ok hround)
  have hsound := (sound_of_describeAll hdescribe).1
  -- a fault would be told by the run that checks
  have hnone : ∀ fault, ¬o.FailsEarly tree fault := by
    intro fault hfault
    cases hchecked.symm.trans (told_of_failsEarly hcheck hfault).1
  refine { untouched := ?_, fails := ?_, told := ?_, named := ?_ }
  · rw [hchecked]
  · rw [hchecked]
    refine ⟨fun hne => absurd rfl hne, fun hfails => ?_⟩
    obtain ⟨fault, hfault⟩ := hfails
    exact absurd hfault (hnone fault)
  · exact fun fault hfault => absurd hfault (hnone fault)
  · intro _
    refine ⟨config, units, hunits, hchecked, ?_, ?_⟩
    · exact Config.nodup_map_of_roundUnits hsound hround fun n m hn hm => hn.eq_of_qualified_eq hm
    · rw [run_of_plan_ok hcheck hplan]
      exact emit_outcome hlimits hsound hround

theorem run_of_ofWords {words : List String} (h : Invocation.ofWords words = .run o)
    (tree : FileTree) : run tree words = o.run tree := by
  unfold run
  rw [h]

/-- **`--check` foretells the run.** Wherever a command line asks for a run, it does so with the flag as
well; and whichever command line asks for the same run with the check, what it does says what the run does
that writes. It touches nothing, fails exactly if the other one fails before its first write, and then at
the same fault. If it succeeds it names the units that the other one delivers in that order, unless a unit
cannot be written. -/
theorem check_foretells (hlimits : tree.limits = none) {words : List String}
    (hwords : Invocation.ofWords words = .run o) (hcheck : o.check = false) :
    Invocation.ofWords ("--check" :: words) = .run o.checking ∧
      ∀ checking, Invocation.ofWords checking = .run o.checking →
        o.Foretells tree (run tree checking) (run tree words) := by
  refine ⟨ofWords_check hwords hcheck, fun checking hchecking => ?_⟩
  rw [run_of_ofWords hwords, run_of_ofWords hchecking]
  rcases failsEarly_or_generates o tree with ⟨fault, hfault⟩ | ⟨config, units, hunits⟩
  · exact foretells_of_failsEarly hcheck hfault
  · exact foretells_of_generates hlimits hcheck hunits

/-- A schema of two classes, and the directory of their package without a file in it. -/
def shopTree : FileTree where
  nodes := [
    (["shop.toml"], .file (.text ("[[class]]\nname = \"shop.Item\"\nmarkers = [\"ToString\"]\n" ++
      "[[class]]\nname = \"shop.Cart\"\nmarkers = [\"ToString\"]\n"))),
    (["out"], .directory), (["out", "shop"], .directory)]

/-- The same tree with a directory where the file of the second class should be. -/
def obstructedTree : FileTree where
  nodes := shopTree.nodes ++ [(["out", "shop", "Cart.java"], .directory)]

def shopOptions : Options := { schemas := ["shop.toml"], out := some "out" }

/-- Of the same options, one run delivers both units and one stops at the second. -/
theorem check_foretells_shop :
    Invocation.ofWords ["shop.toml", "-o", "out"] = .run shopOptions ∧
      shopOptions.check = false ∧
      Invocation.ofWords ["--check", "shop.toml", "-o", "out"] = .run shopOptions.checking ∧
    (shopTree.limits = none ∧
      shopOptions.Foretells shopTree (run shopTree ["--check", "shop.toml", "-o", "out"])
        (run shopTree ["shop.toml", "-o", "out"]) ∧
      (run shopTree ["--check", "shop.toml", "-o", "out"]).stdout = "shop.Item\nshop.Cart\n" ∧
      (run shopTree ["shop.toml", "-o", "out"]).stdout =
        "out/shop/Item.java\nout/shop/Cart.java\n" ∧
      ∃ config units, shopOptions.Generates shopTree config units ∧
        shopOptions.Delivers shopTree config units (run shopTree ["shop.toml", "-o", "out"])) ∧
    (obstructedTree.limits = none ∧
      shopOptions.Foretells obstructedTree (run obstructedTree ["--check", "shop.toml", "-o", "out"])
        (run obstructedTree ["shop.toml", "-o", "out"]) ∧
      (run obstructedTree ["--check", "shop.toml", "-o", "out"]).stdout = "shop.Item\nshop.Cart\n" ∧
      (run obstructedTree ["shop.toml", "-o", "out"]).exitCode = 1 ∧
      ∃ config units, shopOptions.Generates obstructedTree config units ∧
        shopOptions.Stops obstructedTree units
          (run obstructedTree ["shop.toml", "-o", "out"])) := by
  have hwords : Invocation.ofWords ["shop.toml", "-o", "out"] = .run shopOptions := by
    decide +kernel
  obtain ⟨hchecking, hshop⟩ := check_foretells (rfl : shopTree.limits = none) hwords rfl
  obtain ⟨-, hobstructed⟩ := check_foretells (rfl : obstructedTree.limits = none) hwords rfl
  refine ⟨hwords, rfl, hchecking, ?_, ?_⟩
  · have hforetells := hshop _ hchecking
    have hchecked : (run shopTree ["--check", "shop.toml", "-o", "out"]).exitCode = 0 ∧
        (run shopTree ["--check", "shop.toml", "-o", "out"]).stdout = "shop.Item\nshop.Cart\n" := by
      decide +kernel
    have hreal : (run shopTree ["shop.toml", "-o", "out"]).exitCode = 0 ∧
        (run shopTree ["shop.toml", "-o", "out"]).stdout =
          "out/shop/Item.java\nout/shop/Cart.java\n" := by
      decide +kernel
    exact ⟨rfl, hforetells, hchecked.2, hreal.2, hforetells.delivers hchecked.1 hreal.1⟩
  · have hforetells := hobstructed _ hchecking
    have hchecked : (run obstructedTree ["--check", "shop.toml", "-o", "out"]).exitCode = 0 ∧
        (run obstructedTree ["--check", "shop.toml", "-o", "out"]).stdout =
          "shop.Item\nshop.Cart\n" := by
      decide +kernel
    have hreal : (run obstructedTree ["shop.toml", "-o", "out"]).exitCode = 1 := by decide +kernel
    exact ⟨rfl, hforetells, hchecked.2, hreal, hforetells.stops hchecked.1 (by simp [hreal])⟩

end AccessorGen.Command
