import AccessorGen.Proofs.ClassOutcome
import AccessorGen.Proofs.Schema.Described
import AccessorGen.Round

/-!
# What becomes of a round

A round goes through its classes with the names already used in hand. It gives units exactly when each
class gives what it would give by itself and no two units share a name (`generateFrom_eq_ok_iff`), and
when it fails there is a class at which it fails, all classes before it being done
(`generateFrom_eq_error`). Nothing else is ever needed of the recursion.

On classes out of schemas the reasons to fail thin out. Fields have different names, so no slot is
repeated; under the strategy that writes the classes themselves the names of the units are those of the
classes, so no unit is repeated either.
-/

set_option autoImplicit false

namespace AccessorGen

namespace Config

variable {config : Config}

/-! ## Rounds of any classes -/

theorem generateNext_of_error {c : ClassDecl} {e : Error} (h : config.classUnit c = .error e)
    (taken : List UnitName) : config.generateNext taken c = .error e := by
  unfold generateNext
  rw [h]
  rfl

theorem generateNext_of_none {c : ClassDecl} (h : config.classUnit c = .ok none)
    (taken : List UnitName) : config.generateNext taken c = .ok none := by
  unfold generateNext
  rw [h]
  rfl

theorem generateNext_of_some {c : ClassDecl} {u : SourceUnit}
    (h : config.classUnit c = .ok (some u)) (taken : List UnitName) :
    config.generateNext taken c =
      if u.name ∈ taken then .error (.duplicateUnit u.qualifiedName) else .ok (some u) := by
  unfold generateNext
  rw [h]
  by_cases hu : u.name ∈ taken
  · rw [if_pos hu]
    exact if_pos (by simpa using hu)
  · rw [if_neg hu]
    exact if_neg (by simpa using hu)

theorem generateNext_eq_ok_iff {taken : List UnitName} {c : ClassDecl} {unit : Option SourceUnit} :
    config.generateNext taken c = .ok unit ↔
      config.classUnit c = .ok unit ∧ ∀ u, unit = some u → u.name ∉ taken := by
  cases h : config.classUnit c with
  | error e =>
    rw [generateNext_of_error h]
    simp
  | ok made =>
    cases made with
    | none =>
      rw [generateNext_of_none h]
      simp only [Except.ok.injEq]
      constructor
      · rintro rfl
        exact ⟨rfl, fun u hu => by cases hu⟩
      · exact fun h => h.1
    | some u =>
      rw [generateNext_of_some h]
      by_cases hu : u.name ∈ taken
      · rw [if_pos hu]
        constructor
        · intro h
          cases h
        · rintro ⟨h, hfree⟩
          cases h
          exact absurd hu (hfree u rfl)
      · rw [if_neg hu]
        constructor
        · intro h
          cases h
          exact ⟨rfl, fun v hv => by cases hv; exact hu⟩
        · exact fun h => h.1

theorem generateNext_eq_error {taken : List UnitName} {c : ClassDecl} {e : Error}
    (h : config.generateNext taken c = .error e) :
    config.classUnit c = .error e ∨
      ∃ u, config.classUnit c = .ok (some u) ∧ u.name ∈ taken ∧
        e = .duplicateUnit u.qualifiedName := by
  cases hunit : config.classUnit c with
  | error e' =>
    rw [generateNext_of_error hunit] at h
    cases h
    exact Or.inl rfl
  | ok made =>
    cases made with
    | none =>
      rw [generateNext_of_none hunit] at h
      cases h
    | some u =>
      rw [generateNext_of_some hunit] at h
      by_cases hu : u.name ∈ taken
      · rw [if_pos hu] at h
        cases h
        exact Or.inr ⟨u, rfl, hu, rfl⟩
      · rw [if_neg hu] at h
        cases h

theorem generateFrom_cons_eq_ok_iff {taken : List UnitName} {c : ClassDecl}
    {rest : List ClassDecl} {units : List SourceUnit} :
    config.generateFrom taken (c :: rest) = .ok units ↔
      ∃ unit, config.generateNext taken c = .ok unit ∧
        ∃ below, config.generateFrom (takenAfter taken unit) rest = .ok below ∧
          units = unit.toList ++ below := by
  rw [generateFrom, bind_eq_ok_iff]
  refine exists_congr fun unit => and_congr_right fun _ => ?_
  rw [bind_eq_ok_iff]
  refine exists_congr fun below => and_congr_right fun _ => ?_
  exact ⟨fun h => by cases h; rfl, fun h => by rw [h]; rfl⟩

theorem generateFrom_cons_eq_error {taken : List UnitName} {c : ClassDecl}
    {rest : List ClassDecl} {e : Error} (h : config.generateFrom taken (c :: rest) = .error e) :
    config.generateNext taken c = .error e ∨
      ∃ unit, config.generateNext taken c = .ok unit ∧
        config.generateFrom (takenAfter taken unit) rest = .error e := by
  rw [generateFrom] at h
  rcases bind_eq_error_iff.mp h with h | ⟨unit, hunit, h⟩
  · exact Or.inl h
  · rcases bind_eq_error_iff.mp h with h | ⟨below, -, h⟩
    · exact Or.inr ⟨unit, hunit, h⟩
    · cases h

/-- One more unit with a name of its own. -/
theorem distinct_cons {taken : List UnitName} {unit : Option SourceUnit} {below : List SourceUnit} :
    (((unit.toList ++ below).map (·.name)).Nodup ∧
        ∀ n ∈ (unit.toList ++ below).map (·.name), n ∉ taken) ↔
      (∀ u, unit = some u → u.name ∉ taken) ∧ (below.map (·.name)).Nodup ∧
        ∀ n ∈ below.map (·.name), n ∉ takenAfter taken unit := by
  cases unit with
  | none => simp [takenAfter]
  | some u =>
    simp only [Option.some.injEq, forall_eq']
    exact fresh_cons

/-- **A round gives units exactly when the classes do and the names of the units are different.** -/
theorem generateFrom_eq_ok_iff {taken : List UnitName} {classes : List ClassDecl}
    {units : List SourceUnit} :
    config.generateFrom taken classes = .ok units ↔
      ∃ us, List.Forall₂ (fun c u => config.classUnit c = .ok u) classes us ∧
        units = us.flatMap (·.toList) ∧ (units.map (·.name)).Nodup ∧
        ∀ n ∈ units.map (·.name), n ∉ taken := by
  -- on the classes, with the names taken so far
  induction classes generalizing taken units with
  | nil =>
    simp only [generateFrom, List.forall₂_nil_left_iff]
    constructor
    · intro h
      cases h
      exact ⟨[], rfl, rfl, List.nodup_nil, fun n hn => absurd hn List.not_mem_nil⟩
    · rintro ⟨us, rfl, rfl, -, -⟩
      rfl
  | cons c rest ih =>
    rw [generateFrom_cons_eq_ok_iff]
    constructor
    · rintro ⟨unit, hnext, below, hrest, rfl⟩
      obtain ⟨hunit, hfree⟩ := generateNext_eq_ok_iff.mp hnext
      obtain ⟨us, hus, rfl, hdistinct⟩ := ih.mp hrest
      exact ⟨unit :: us, hus.cons hunit, rfl, distinct_cons.mpr ⟨hfree, hdistinct⟩⟩
    · rintro ⟨us, hus, rfl, hdistinct⟩
      cases hus with
      | @cons _ unit _ us hunit hus =>
        rw [List.flatMap_cons] at hdistinct
        obtain ⟨hfree, hbelow⟩ := distinct_cons.mp hdistinct
        exact ⟨unit, generateNext_eq_ok_iff.mpr ⟨hunit, hfree⟩, us.flatMap (·.toList),
          ih.mpr ⟨us, hus, rfl, hbelow⟩, rfl⟩

/-- **Where a round fails.** Every class before that one has gone through. -/
theorem generateFrom_eq_error {taken : List UnitName} {classes : List ClassDecl} {e : Error}
    (h : config.generateFrom taken classes = .error e) :
    ∃ before c after earlier, classes = before ++ c :: after ∧
      config.generateFrom taken before = .ok earlier ∧
      (config.classUnit c = .error e ∨
        ∃ u, config.classUnit c = .ok (some u) ∧
          (u.name ∈ earlier.map (·.name) ∨ u.name ∈ taken) ∧
          e = .duplicateUnit u.qualifiedName) := by
  induction classes generalizing taken with
  | nil => cases h
  | cons c rest ih =>
    rcases generateFrom_cons_eq_error h with hnext | ⟨unit, hnext, hrest⟩
    · refine ⟨[], c, rest, [], rfl, rfl, ?_⟩
      rcases generateNext_eq_error hnext with hunit | ⟨u, hu, htaken, he⟩
      · exact Or.inl hunit
      · exact Or.inr ⟨u, hu, Or.inr htaken, he⟩
    · obtain ⟨before, d, after, earlier, rfl, hbefore, hd⟩ := ih hrest
      refine ⟨c :: before, d, after, unit.toList ++ earlier, rfl, ?_, ?_⟩
      · exact generateFrom_cons_eq_ok_iff.mpr ⟨unit, hnext, earlier, hbefore, rfl⟩
      · rcases hd with hd | ⟨u, hu, hused, he⟩
        · exact Or.inl hd
        · refine Or.inr ⟨u, hu, ?_, he⟩
          -- a name that was taken on the way is that of the unit just made
          cases unit with
          | none => exact hused
          | some v =>
            rcases hused with hused | hused
            · exact Or.inl (List.mem_cons_of_mem _ hused)
            · rcases List.mem_cons.mp hused with hsame | hused
              · exact Or.inl (hsame ▸ List.mem_cons_self)
              · exact Or.inr hused

theorem exists_class_of_mem {taken : List UnitName} {classes : List ClassDecl}
    {units : List SourceUnit} (h : config.generateFrom taken classes = .ok units) {u : SourceUnit}
    (hu : u ∈ units) : ∃ c ∈ classes, config.classUnit c = .ok (some u) := by
  obtain ⟨us, hus, rfl, -⟩ := generateFrom_eq_ok_iff.mp h
  obtain ⟨unit, hunit, hmem⟩ := List.mem_flatMap.mp hu
  obtain ⟨c, hc, hmade⟩ := exists_of_mem_of_forall₂ hus hunit
  exact ⟨c, hc, by rw [hmade, Option.mem_toList.mp hmem]⟩

theorem classUnit_ok_of_mem {taken : List UnitName} {classes : List ClassDecl}
    {units : List SourceUnit} (h : config.generateFrom taken classes = .ok units) {c : ClassDecl}
    (hc : c ∈ classes) : ∃ unit, config.classUnit c = .ok unit := by
  obtain ⟨us, hus, -⟩ := generateFrom_eq_ok_iff.mp h
  obtain ⟨unit, -, hunit⟩ := exists_of_mem_of_forall₂ hus.flip hc
  exact ⟨unit, hunit⟩

/-! ## Rounds of sound classes -/

/-- The errors of a sound class. -/
theorem classUnit_eq_error {c : ClassDecl} (hn : c.instanceNames.Nodup) {e : Error}
    (h : config.classUnit c = .error e) :
    (config.strategy.isCompanion = true ∧
        ∃ f ∈ c.touchedFields, f.isPrivate = true ∧ e = inaccessible c f) ∨
      (config.strategy.isCompanion = false ∧ c.isNested = true ∧ c.requests ≠ [] ∧
        e = .nestedClass c.qualifiedName) := by
  rw [classUnit_of_nodup config hn] at h
  split at h
  · cases h
  · next hne =>
    split at h
    · next f hf =>
      cases h
      have hhidden := List.find?_some hf
      simp only [hides, Bool.and_eq_true] at hhidden
      exact Or.inl ⟨hhidden.1, f, List.mem_of_find?_eq_some hf, hhidden.2, rfl⟩
    · split at h
      · next hnested =>
        cases h
        simp only [Bool.and_eq_true, Bool.not_eq_true'] at hnested
        exact Or.inr ⟨hnested.2, hnested.1, hne, rfl⟩
      · cases h

/-- The classes that ask for something, each with its unit. -/
theorem forall₂_requests {classes : List ClassDecl} {us : List (Option SourceUnit)}
    (hn : ∀ c ∈ classes, c.instanceNames.Nodup)
    (h : List.Forall₂ (fun c u => config.classUnit c = .ok u) classes us) :
    List.Forall₂ (fun c u => config.classUnit c = .ok (some u))
      (classes.filter fun c => !c.requests.isEmpty) (us.flatMap (·.toList)) := by
  induction h with
  | nil => exact .nil
  | @cons c unit classes us hunit _ ih =>
    have ih := ih fun d hd => hn d (List.mem_cons_of_mem _ hd)
    have hnodup := hn c List.mem_cons_self
    rw [List.flatMap_cons]
    cases unit with
    | none =>
      rw [List.filter_cons_of_neg (by simp [requests_eq_nil_of_classUnit hnodup hunit])]
      exact ih
    | some u =>
      rw [List.filter_cons_of_pos (by simp [(eq_unitOf_of_classUnit hnodup hunit).2])]
      exact ih.cons hunit

/-- Two classes that go to one unit. -/
theorem unitName_eq_of_name_eq {c d : ClassDecl} (hc : c.instanceNames.Nodup)
    (hd : d.instanceNames.Nodup) {u v : SourceUnit} (hu : config.classUnit c = .ok (some u))
    (hv : config.classUnit d = .ok (some v)) (h : u.name = v.name) :
    c.unitName config.strategy = d.unitName config.strategy := by
  rw [(eq_unitOf_of_classUnit hc hu).1, (eq_unitOf_of_classUnit hd hv).1] at h
  exact h

/-- **A round of sound classes fails at a class by itself, or at the second of two that go to one
unit.** -/
theorem roundUnits_eq_error {classes : List ClassDecl} (hn : ∀ c ∈ classes, c.instanceNames.Nodup)
    {e : Error} (h : config.roundUnits classes = .error e) :
    ∃ before d after, classes = before ++ d :: after ∧
      (∀ c ∈ before, ∃ unit, config.classUnit c = .ok unit) ∧
      (config.classUnit d = .error e ∨
        ∃ c ∈ before, ∃ u v, config.classUnit c = .ok (some u) ∧ config.classUnit d = .ok (some v) ∧
          c.unitName config.strategy = d.unitName config.strategy ∧
          e = .duplicateUnit v.qualifiedName) := by
  obtain ⟨before, d, after, earlier, hclasses, hbefore, hd⟩ := generateFrom_eq_error h
  refine ⟨before, d, after, hclasses, fun c hc => classUnit_ok_of_mem hbefore hc, ?_⟩
  rcases hd with hd | ⟨v, hv, hused | hused, he⟩
  · exact Or.inl hd
  · obtain ⟨u, hu, hname⟩ := List.mem_map.mp hused
    obtain ⟨c, hc, hunit⟩ := exists_class_of_mem hbefore hu
    have hsame := unitName_eq_of_name_eq (hn c (by simp [hclasses, hc])) (hn d (by simp [hclasses]))
      hunit hv hname
    exact Or.inr ⟨c, hc, u, v, hunit, hv, hsame, he⟩
  · exact absurd hused List.not_mem_nil

/-- Written out themselves, the classes that have a unit are not nested. -/
theorem isNested_of_classUnit_augment {c : ClassDecl} (hs : config.strategy = .augment)
    {u : SourceUnit} (h : config.classUnit c = .ok (some u)) : c.isNested = false := by
  apply isNested_of_classUnit h
  rw [hs]
  rfl

/-- Written out themselves, different classes go to different units. -/
theorem unitName_augment_ne {before after : List ClassDecl} {c d : ClassDecl}
    (hnodup : ((before ++ d :: after).map (·.qualifiedName)).Nodup) (hc : c ∈ before)
    (hsc : c.Sound) (hsd : d.Sound) (hnc : c.isNested = false) (hnd : d.isNested = false) :
    c.unitName .augment ≠ d.unitName .augment := by
  intro hsame
  have hq : c.qualifiedName = d.qualifiedName := by
    rw [← hsc.qualified_unitName hnc, ← hsd.qualified_unitName hnd, hsame]
  rw [List.map_append, List.map_cons, List.nodup_append] at hnodup
  exact hnodup.2.2 c.qualifiedName (List.mem_map_of_mem hc) d.qualifiedName List.mem_cons_self hq

theorem eq_of_unitName_companion {suffix : String} {c d : ClassDecl}
    (h : c.unitName (.companion suffix) = d.unitName (.companion suffix)) :
    c.packageName = d.packageName ∧ Text.flattenDots c.localName = Text.flattenDots d.localName := by
  have hpackage := congrArg UnitName.package h
  have hsimple : Text.flattenDots c.localName ++ suffix = Text.flattenDots d.localName ++ suffix :=
    congrArg UnitName.simpleName h
  rw [String.append_left_inj] at hsimple
  exact ⟨hpackage, hsimple⟩

/-- A round of the classes of schemas that writes them out themselves fails at the first class that is
nested and asks for something, and nowhere else. -/
theorem roundUnits_augment_eq_error {classes : List ClassDecl} (hs : config.strategy = .augment)
    (hsound : ∀ c ∈ classes, c.Sound) (hnodup : (classes.map (·.qualifiedName)).Nodup) {e : Error}
    (h : config.roundUnits classes = .error e) :
    ∃ before c after, classes = before ++ c :: after ∧ c.isNested = true ∧ c.requests ≠ [] ∧
      (∀ d ∈ before, d.isNested = true → d.requests = []) ∧ e = .nestedClass c.qualifiedName := by
  have hn : ∀ c ∈ classes, c.instanceNames.Nodup := fun c hc => (hsound c hc).nodup_instanceNames
  obtain ⟨before, d, after, rfl, hbefore, hd⟩ := roundUnits_eq_error hn h
  have hdmem : d ∈ before ++ d :: after := by simp
  rcases hd with hd | ⟨c, hc, u, v, hu, hv, hsame, -⟩
  · rcases classUnit_eq_error (hn d hdmem) hd with ⟨hcompanion, -⟩ | ⟨-, hnested, hne, he⟩
    · rw [hs] at hcompanion
      cases hcompanion
    · refine ⟨before, d, after, rfl, hnested, hne, fun c hc hcn => ?_, he⟩
      have hnc := hn c (List.mem_append_left _ hc)
      obtain ⟨unit, hunit⟩ := hbefore c hc
      cases unit with
      | none => exact requests_eq_nil_of_classUnit hnc hunit
      | some u =>
        rw [isNested_of_classUnit_augment hs hunit] at hcn
        cases hcn
  · -- two units of one name would be those of two classes of one name
    have hcmem : c ∈ before ++ d :: after := List.mem_append_left _ hc
    have hflatc := isNested_of_classUnit_augment hs hu
    have hflatd := isNested_of_classUnit_augment hs hv
    rw [hs] at hsame
    exact absurd hsame
      (unitName_augment_ne hnodup hc (hsound c hcmem) (hsound d hdmem) hflatc hflatd)

theorem exists_roundUnits_error {classes : List ClassDecl} (hs : config.strategy = .augment)
    (hn : ∀ c ∈ classes, c.instanceNames.Nodup) {c : ClassDecl} (hc : c ∈ classes)
    (hnested : c.isNested = true) (hne : c.requests ≠ []) :
    ∃ e, config.roundUnits classes = .error e := by
  cases h : config.roundUnits classes with
  | error e => exact ⟨e, rfl⟩
  | ok units =>
    obtain ⟨unit, hunit⟩ := classUnit_ok_of_mem h hc
    cases unit with
    | none => exact absurd (requests_eq_nil_of_classUnit (hn c hc) hunit) hne
    | some u =>
      rw [isNested_of_classUnit_augment hs hunit] at hnested
      cases hnested

/-- Nothing is lost on the way: the units are those of the classes that ask for something, in their
order, and go by the names of the classes. -/
theorem forall₂_of_roundUnits_augment {classes : List ClassDecl} (hs : config.strategy = .augment)
    (hsound : ∀ c ∈ classes, c.Sound) {units : List SourceUnit}
    (h : config.roundUnits classes = .ok units) :
    List.Forall₂ (fun c u => config.classUnit c = .ok (some u) ∧ u.qualifiedName = c.qualifiedName)
      (classes.filter fun c => !c.requests.isEmpty) units := by
  have hn : ∀ c ∈ classes, c.instanceNames.Nodup := fun c hc => (hsound c hc).nodup_instanceNames
  obtain ⟨us, hus, rfl, -⟩ := generateFrom_eq_ok_iff.mp h
  have hpairs := (List.forall₂_and_left _ _).mpr
    ⟨fun c hc => List.mem_of_mem_filter hc, forall₂_requests hn hus⟩
  refine hpairs.imp fun c u hcu => ⟨hcu.2, ?_⟩
  have hflat := isNested_of_classUnit_augment hs hcu.2
  obtain ⟨rfl, -⟩ := eq_unitOf_of_classUnit (hn c hcu.1) hcu.2
  show (c.unitName config.strategy).qualified = c.qualifiedName
  rw [hs]
  exact (hsound c hcu.1).qualified_unitName hflat

/-- A round of companions fails at a private field, or at the second of two classes with one package
and one flattened local name. -/
theorem roundUnits_companion_eq_error {classes : List ClassDecl}
    (hs : config.strategy.isCompanion = true) (hn : ∀ c ∈ classes, c.instanceNames.Nodup) {e : Error}
    (h : config.roundUnits classes = .error e) :
    (∃ c ∈ classes, ∃ f ∈ c.touchedFields, f.isPrivate = true ∧
        e = .inaccessibleField c.qualifiedName f.name) ∨
      ∃ (i j : Nat) (c d : ClassDecl), i < j ∧ classes[i]? = some c ∧ classes[j]? = some d ∧
        c.requests ≠ [] ∧ d.requests ≠ [] ∧ c.packageName = d.packageName ∧
        Text.flattenDots c.localName = Text.flattenDots d.localName ∧
        e = .duplicateUnit (d.unitName config.strategy).qualified := by
  obtain ⟨before, d, after, rfl, -, hd⟩ := roundUnits_eq_error hn h
  have hdmem : d ∈ before ++ d :: after := by simp
  rcases hd with hd | ⟨c, hc, u, v, hu, hv, hsame, he⟩
  · rcases classUnit_eq_error (hn d hdmem) hd with ⟨-, f, hf, hprivate, he⟩ | ⟨haugment, -⟩
    · exact Or.inl ⟨d, hdmem, f, hf, hprivate, he⟩
    · rw [hs] at haugment
      cases haugment
  · obtain ⟨-, hcne⟩ := eq_unitOf_of_classUnit (hn c (List.mem_append_left _ hc)) hu
    obtain ⟨rfl, hdne⟩ := eq_unitOf_of_classUnit (hn d hdmem) hv
    obtain ⟨i, hi⟩ := List.getElem?_of_mem hc
    have hlt : i < before.length := (List.getElem?_eq_some_iff.mp hi).1
    obtain ⟨hpackage, hlocal⟩ : c.packageName = d.packageName ∧
        Text.flattenDots c.localName = Text.flattenDots d.localName := by
      cases hstrategy : config.strategy with
      | augment =>
        rw [hstrategy] at hs
        cases hs
      | companion suffix =>
        rw [hstrategy] at hsame
        exact eq_of_unitName_companion hsame
    -- the second of the two stands right behind the classes before it
    refine Or.inr ⟨i, before.length, c, d, hlt, ?_, ?_, hcne, hdne, hpackage, hlocal, he⟩
    · rw [List.getElem?_append_left hlt]
      exact hi
    · rw [List.getElem?_append_right (Nat.le_refl _), Nat.sub_self]
      rfl

/-- The errors that no round of sound classes ends with. -/
theorem roundUnits_ne_internal {classes : List ClassDecl}
    (hn : ∀ c ∈ classes, c.instanceNames.Nodup) (className name : String) :
    config.roundUnits classes ≠ .error (.unknownField className name) ∧
      config.roundUnits classes ≠ .error (.duplicateMember className name) := by
  -- the errors that there are, by their shapes
  have herror : ∀ e, config.roundUnits classes = .error e →
      (∃ c f, e = inaccessible c f) ∨ (∃ n, e = .nestedClass n) ∨ ∃ n, e = .duplicateUnit n := by
    intro e h
    obtain ⟨before, d, after, rfl, -, hd⟩ := roundUnits_eq_error hn h
    rcases hd with hd | ⟨-, -, -, v, -, -, -, he⟩
    · rcases classUnit_eq_error (hn d (by simp)) hd with ⟨-, f, -, -, he⟩ | ⟨-, -, -, he⟩
      · exact Or.inl ⟨d, f, he⟩
      · exact Or.inr (Or.inl ⟨d.qualifiedName, he⟩)
    · exact Or.inr (Or.inr ⟨v.qualifiedName, he⟩)
  constructor <;>
  · intro h
    rcases herror _ h with ⟨c, f, he⟩ | ⟨n, he⟩ | ⟨n, he⟩ <;> cases he

/-- **The outcome of a round of classes out of schemas.** A field that is missing and a member that is
repeated cannot come up. A round that writes the classes out themselves fails exactly if one of them is
nested and asks for something, at the first such class; otherwise each class that asks for something
has its unit, in their order and of the same name. A round of companions fails at a private field, or
at a second class with the package and the flattened local name of one before it. -/
theorem round_outcome (config : Config) {schemas : List Schema} {classes : List ClassDecl}
    (h : describeAll schemas = .ok classes) :
    (∀ className name, config.roundUnits classes ≠ .error (.unknownField className name) ∧
      config.roundUnits classes ≠ .error (.duplicateMember className name)) ∧
    (config.strategy = .augment →
      ((∃ e, config.roundUnits classes = .error e) ↔
        ∃ c ∈ classes, c.isNested = true ∧ c.requests ≠ []) ∧
      (∀ e, config.roundUnits classes = .error e →
        ∃ before c after, classes = before ++ c :: after ∧ c.isNested = true ∧ c.requests ≠ [] ∧
          (∀ d ∈ before, d.isNested = true → d.requests = []) ∧
          e = .nestedClass c.qualifiedName) ∧
      ∀ units, config.roundUnits classes = .ok units →
        List.Forall₂
          (fun c u => config.classUnit c = .ok (some u) ∧ u.qualifiedName = c.qualifiedName)
          (classes.filter fun c => !c.requests.isEmpty) units) ∧
    (config.strategy.isCompanion = true → ∀ e, config.roundUnits classes = .error e →
      (∃ c ∈ classes, ∃ f ∈ c.touchedFields, f.isPrivate = true ∧
        e = .inaccessibleField c.qualifiedName f.name) ∨
      ∃ (i j : Nat) (c d : ClassDecl), i < j ∧ classes[i]? = some c ∧ classes[j]? = some d ∧
        c.requests ≠ [] ∧ d.requests ≠ [] ∧ c.packageName = d.packageName ∧
        Text.flattenDots c.localName = Text.flattenDots d.localName ∧
        e = .duplicateUnit (d.unitName config.strategy).qualified) := by
  obtain ⟨hsound, hnodup⟩ := sound_of_describeAll h
  have hn : ∀ c ∈ classes, c.instanceNames.Nodup := fun c hc => (hsound c hc).nodup_instanceNames
  refine ⟨roundUnits_ne_internal hn, fun hs => ⟨⟨?_, ?_⟩, fun e he => ?_, fun units hu => ?_⟩,
    fun hs e he => roundUnits_companion_eq_error hs hn he⟩
  · rintro ⟨e, he⟩
    obtain ⟨before, c, after, rfl, hnested, hne, -⟩ :=
      roundUnits_augment_eq_error hs hsound hnodup he
    exact ⟨c, by simp, hnested, hne⟩
  · rintro ⟨c, hc, hnested, hne⟩
    exact exists_roundUnits_error hs hn hc hnested hne
  · exact roundUnits_augment_eq_error hs hsound hnodup he
  · exact forall₂_of_roundUnits_augment hs hsound hu

/-- Two files whose classes differ in name and go to one companion. -/
def clashingSchemas : List Schema := [
  { classes := [{ name := "shop.Outer_Inner", markers := ["ToString"] }] },
  { classes := [{ name := "shop.Outer.Inner", package := some "shop", markers := ["ToString"] }] }]

def clashingClasses : List ClassDecl := [
  { ClassDecl.ofName "shop.Outer_Inner" with markers := .ofList [.stringForm] },
  { ClassDecl.ofName "shop.Outer.Inner" with
    package := some "shop"
    markers := .ofList [.stringForm] }]

theorem round_outcome_clashing :
    describeAll clashingSchemas = .ok clashingClasses ∧
      (∃ e, roundUnits {} clashingClasses = .error e) ∧
      ∀ e, roundUnits { strategy := .companion "Lombok" } clashingClasses = .error e →
        ∃ name, e = .duplicateUnit name := by
  have h : describeAll clashingSchemas = .ok clashingClasses := by
    unfold describeAll
    exact if_pos (by decide +kernel)
  refine ⟨h, ?_, fun e he => ?_⟩
  · exact ((round_outcome {} h).2.1 rfl).1.mpr
      ⟨clashingClasses[1], by simp [clashingClasses], by decide +kernel, by decide +kernel⟩
  · have hnone : ∀ c ∈ clashingClasses, c.touchedFields = [] := by decide +kernel
    rcases (round_outcome _ h).2.2 rfl e he with
      ⟨c, hc, f, hf, -⟩ | ⟨-, -, -, d, -, -, -, -, -, -, -, he⟩
    · rw [hnone c hc] at hf
      exact absurd hf List.not_mem_nil
    · exact ⟨_, he⟩

end Config

end AccessorGen
