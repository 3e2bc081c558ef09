import AccessorGen.Proofs.RoundOutcome
import Mathlib.Data.List.Basic

/-!
# Rounds class by class

A round adds nothing to its classes except that it compares the names of their units. What it gives is
read off what each class gives by itself (`roundUnits_eq_ok_iff`), so the order of the classes decides
about the order of the units and about which of several faults is met first, and about nothing else.

That a class fails in a round is a relation (`FailsAt`) and not a search: a fault has a position, and
there may be many of them. That the round reports the first is then a theorem.
-/

set_option autoImplicit false

namespace AccessorGen

namespace Config

variable {config : Config}

/-- The unit of the class by itself, if it does not fail and asks for something. -/
def unit? (config : Config) (c : ClassDecl) : Option SourceUnit :=
  match config.classUnit c with
  | .error _ => none
  | .ok unit => unit

/-- The class fails at this place of a round. -/
inductive FailsAt (config : Config) (classes : List ClassDecl) (i : Nat) : Error → Prop
  /-- It fails by itself. -/
  | alone {c : ClassDecl} {e : Error} (hc : classes[i]? = some c)
      (h : config.classUnit c = .error e) : FailsAt config classes i e
  /-- Its unit has the name of the unit of an earlier class. -/
  | clash {c d : ClassDecl} {u v : SourceUnit} {j : Nat} (hc : classes[i]? = some c)
      (hu : config.classUnit c = .ok (some u)) (hj : j < i) (hd : classes[j]? = some d)
      (hv : config.classUnit d = .ok (some v)) (hname : v.name = u.name) :
      FailsAt config classes i (.duplicateUnit u.qualifiedName)

/-- The two classes do not go to one unit. -/
def Apart (config : Config) (c d : ClassDecl) : Prop :=
  ∀ u, config.unit? c = some u → ∀ v, config.unit? d = some v → u.name ≠ v.name

theorem Apart.symm {c d : ClassDecl} (h : config.Apart c d) : config.Apart d c :=
  fun v hv u hu hname => h u hu v hv hname.symm

theorem unit?_of_ok {c : ClassDecl} {unit : Option SourceUnit} (h : config.classUnit c = .ok unit) :
    config.unit? c = unit := by
  unfold unit?
  rw [h]

/-! ## What a round is made of -/

/-- The classes and what they give, where none fails. -/
theorem forall₂_classUnit_iff {classes : List ClassDecl} {us : List (Option SourceUnit)} :
    List.Forall₂ (fun c u => config.classUnit c = .ok u) classes us ↔
      (∀ c ∈ classes, ∃ unit, config.classUnit c = .ok unit) ∧ us = classes.map config.unit? := by
  constructor
  · intro h
    refine ⟨fun c hc => ?_, ?_⟩
    · obtain ⟨unit, -, hunit⟩ := exists_of_mem_of_forall₂ h.flip hc
      exact ⟨unit, hunit⟩
    · have hmap := map_eq_map_of_forall₂ (f := config.unit?) (g := id) h fun c u => unit?_of_ok
      rw [hmap, List.map_id]
  · intro h
    obtain ⟨hall, rfl⟩ := h
    rw [List.forall₂_map_right_iff, List.forall₂_same]
    intro c hc
    obtain ⟨unit, hunit⟩ := hall c hc
    rw [unit?_of_ok hunit]
    exact hunit

theorem flatMap_unit? (classes : List ClassDecl) :
    (classes.map config.unit?).flatMap (·.toList) = classes.filterMap config.unit? := by
  rw [List.flatMap_map]
  exact (List.filterMap_eq_flatMap_toList _ _).symm

/-- Different names among the units are a matter of two classes at a time. -/
theorem nodup_names_iff {classes : List ClassDecl} :
    ((classes.filterMap config.unit?).map (·.name)).Nodup ↔ classes.Pairwise config.Apart := by
  rw [List.Nodup, List.pairwise_map, List.pairwise_filterMap]
  exact Iff.rfl

/-- **A round gives units exactly when each class does and no two of them go to one unit,** and then
it gives the units of the classes. -/
theorem roundUnits_eq_ok_iff {classes : List ClassDecl} {units : List SourceUnit} :
    config.roundUnits classes = .ok units ↔
      (∀ c ∈ classes, ∃ unit, config.classUnit c = .ok unit) ∧ classes.Pairwise config.Apart ∧
        units = classes.filterMap config.unit? := by
  unfold roundUnits
  rw [generateFrom_eq_ok_iff]
  constructor
  · intro h
    obtain ⟨us, hus, hunits, hnodup, -⟩ := h
    obtain ⟨hall, rfl⟩ := forall₂_classUnit_iff.mp hus
    rw [flatMap_unit?] at hunits
    subst hunits
    exact ⟨hall, nodup_names_iff.mp hnodup, rfl⟩
  · intro h
    obtain ⟨hall, hapart, rfl⟩ := h
    exact ⟨classes.map config.unit?, forall₂_classUnit_iff.mpr ⟨hall, rfl⟩, (flatMap_unit? _).symm,
      nodup_names_iff.mpr hapart, fun n _ => List.not_mem_nil⟩

/-! ## Where a round fails -/

/-- Each place has at most one fault. -/
theorem FailsAt.unique {classes : List ClassDecl} {i : Nat} {e e' : Error}
    (h : config.FailsAt classes i e) (h' : config.FailsAt classes i e') : e = e' := by
  cases h with
  | @alone c _ hc hunit =>
    cases h' with
    | @alone c' _ hc' hunit' =>
      cases hc.symm.trans hc'
      exact Except.error.inj (hunit.symm.trans hunit')
    | @clash c' _ u' _ _ hc' hu' _ _ _ _ =>
      cases hc.symm.trans hc'
      cases hunit.symm.trans hu'
  | @clash c _ u _ _ hc hu _ _ _ _ =>
    cases h' with
    | @alone c' _ hc' hunit' =>
      cases hc.symm.trans hc'
      cases hu.symm.trans hunit'
    | @clash c' _ u' _ _ hc' hu' _ _ _ _ =>
      cases hc.symm.trans hc'
      cases hu.symm.trans hu'
      rfl

/-- A fault is there already in the classes up to it. -/
theorem FailsAt.of_append {before after : List ClassDecl} {i : Nat} {e : Error}
    (h : config.FailsAt (before ++ after) i e) (hi : i < before.length) :
    config.FailsAt before i e := by
  cases h with
  | alone hc hunit =>
    rw [List.getElem?_append_left hi] at hc
    exact .alone hc hunit
  | clash hc hu hj hd hv hname =>
    rw [List.getElem?_append_left hi] at hc
    rw [List.getElem?_append_left (Nat.lt_trans hj hi)] at hd
    exact .clash hc hu hj hd hv hname

theorem not_failsAt_of_ok {classes : List ClassDecl} {units : List SourceUnit}
    (h : config.roundUnits classes = .ok units) (i : Nat) (e : Error) :
    ¬config.FailsAt classes i e := by
  obtain ⟨hall, hapart, -⟩ := roundUnits_eq_ok_iff.mp h
  intro hfails
  cases hfails with
  | @alone c _ hc hunit =>
    obtain ⟨unit, hok⟩ := hall c (List.mem_of_getElem? hc)
    cases hok.symm.trans hunit
  | @clash c d u v j hc hu hj hd hv hname =>
    obtain ⟨hi, rfl⟩ := List.getElem?_eq_some_iff.mp hc
    obtain ⟨hj', rfl⟩ := List.getElem?_eq_some_iff.mp hd
    exact List.pairwise_iff_getElem.mp hapart j i hj' hi hj v (unit?_of_ok hv) u (unit?_of_ok hu) hname

theorem failsAt_of_error {classes : List ClassDecl} {e : Error}
    (h : config.roundUnits classes = .error e) :
    ∃ i, config.FailsAt classes i e ∧ ∀ j < i, ∀ e', ¬config.FailsAt classes j e' := by
  obtain ⟨before, c, after, earlier, rfl, hbefore, hc⟩ := generateFrom_eq_error h
  have hat : (before ++ c :: after)[before.length]? = some c := by simp
  refine ⟨before.length, ?_, fun j hj e' hfails =>
    not_failsAt_of_ok hbefore j e' (hfails.of_append hj)⟩
  rcases hc with hc | ⟨u, hu, hused | hused, rfl⟩
  · exact .alone hat hc
  · obtain ⟨v, hv, hname⟩ := List.mem_map.mp hused
    obtain ⟨d, hd, hunit⟩ := exists_class_of_mem hbefore hv
    obtain ⟨j, hj⟩ := List.getElem?_of_mem hd
    have hlt : j < before.length := (List.getElem?_eq_some_iff.mp hj).1
    refine .clash hat hu hlt ?_ hunit hname
    rw [List.getElem?_append_left hlt]
    exact hj
  · exact absurd hused List.not_mem_nil

/-- **The error of a round is that of the first place at which it fails.** -/
theorem roundUnits_eq_error_iff {classes : List ClassDecl} {e : Error} :
    config.roundUnits classes = .error e ↔
      ∃ i, config.FailsAt classes i e ∧ ∀ j < i, ∀ e', ¬config.FailsAt classes j e' := by
  refine ⟨failsAt_of_error, fun h => ?_⟩
  obtain ⟨i, hfails, hfirst⟩ := h
  cases hround : config.roundUnits classes with
  | ok units => exact absurd hfails (not_failsAt_of_ok hround i e)
  | error e' =>
    obtain ⟨i', hfails', hfirst'⟩ := failsAt_of_error hround
    -- neither of two first places is before the other
    have hsame : i' = i := by
      rcases Nat.lt_trichotomy i' i with hlt | heq | hlt
      · exact absurd hfails' (hfirst i' hlt e')
      · exact heq
      · exact absurd hfails (hfirst' i hlt e)
    subst hsame
    rw [hfails'.unique hfails]

theorem exists_error_iff {classes : List ClassDecl} :
    (∃ e, config.roundUnits classes = .error e) ↔ ∃ i e, config.FailsAt classes i e := by
  constructor
  · intro h
    obtain ⟨e, he⟩ := h
    obtain ⟨i, hfails, -⟩ := failsAt_of_error he
    exact ⟨i, e, hfails⟩
  · intro h
    obtain ⟨i, e, hfails⟩ := h
    cases hround : config.roundUnits classes with
    | error e' => exact ⟨e', rfl⟩
    | ok units => exact absurd hfails (not_failsAt_of_ok hround i e)

theorem roundUnits_eq_ok_iff_not_failsAt {classes : List ClassDecl} {units : List SourceUnit} :
    config.roundUnits classes = .ok units ↔
      (∀ i e, ¬config.FailsAt classes i e) ∧ units = classes.filterMap config.unit? := by
  constructor
  · intro h
    exact ⟨not_failsAt_of_ok h, (roundUnits_eq_ok_iff.mp h).2.2⟩
  · intro h
    obtain ⟨hnone, rfl⟩ := h
    cases hround : config.roundUnits classes with
    | ok units => rw [(roundUnits_eq_ok_iff.mp hround).2.2]
    | error e =>
      obtain ⟨i, e, hfails⟩ := exists_error_iff.mp ⟨e, hround⟩
      exact absurd hfails (hnone i e)

/-! ## Other orders and parts -/

theorem roundUnits_of_perm {classes other : List ClassDecl} (hperm : classes.Perm other)
    {units : List SourceUnit} (h : config.roundUnits classes = .ok units) :
    config.roundUnits other = .ok (other.filterMap config.unit?) := by
  obtain ⟨hall, hapart, -⟩ := roundUnits_eq_ok_iff.mp h
  have hother := (hperm.pairwise_iff fun {_ _} => Apart.symm).mp hapart
  exact roundUnits_eq_ok_iff.mpr ⟨fun c hc => hall c (hperm.mem_iff.mpr hc), hother, rfl⟩

theorem roundUnits_append_eq_ok_iff {front back : List ClassDecl} {units : List SourceUnit} :
    config.roundUnits (front ++ back) = .ok units ↔
      ∃ us vs, config.roundUnits front = .ok us ∧ config.roundUnits back = .ok vs ∧
        (∀ u ∈ us, ∀ v ∈ vs, u.name ≠ v.name) ∧ units = us ++ vs := by
  simp only [roundUnits_eq_ok_iff, List.forall_mem_append, List.pairwise_append, List.filterMap_append]
  constructor
  · intro h
    obtain ⟨⟨hfront, hback⟩, ⟨hafront, haback, hbetween⟩, rfl⟩ := h
    refine ⟨_, _, ⟨hfront, hafront, rfl⟩, ⟨hback, haback, rfl⟩, fun u hu v hv => ?_, rfl⟩
    obtain ⟨c, hc, hcu⟩ := List.mem_filterMap.mp hu
    obtain ⟨d, hd, hdv⟩ := List.mem_filterMap.mp hv
    exact hbetween c hc d hd u hcu v hdv
  · intro h
    obtain ⟨_, _, ⟨hfront, hafront, rfl⟩, ⟨hback, haback, rfl⟩, hbetween, rfl⟩ := h
    refine ⟨⟨hfront, hback⟩, ⟨hafront, haback, fun c hc d hd u hcu v hdv => ?_⟩, rfl⟩
    exact hbetween u (List.mem_filterMap.mpr ⟨c, hc, hcu⟩) v (List.mem_filterMap.mpr ⟨d, hd, hdv⟩)

/-- **A round is its classes one by one.** It fails exactly if some class fails by itself or has a unit
of the name of an earlier one's, with the error of the first such class; otherwise it gives the units of
the classes by themselves, in their order. Hence the order of the classes does not decide whether there
are units, and in another order there are the same units in that order; and two rounds can be made one
exactly if each of them gives units and they have no name in common. -/
theorem roundUnits_classwise (config : Config) (classes : List ClassDecl) :
    ((∃ e, config.roundUnits classes = .error e) ↔ ∃ i e, config.FailsAt classes i e) ∧
    (∀ e, config.roundUnits classes = .error e ↔
      ∃ i, config.FailsAt classes i e ∧ ∀ j < i, ∀ e', ¬config.FailsAt classes j e') ∧
    (∀ units, config.roundUnits classes = .ok units ↔
      (∀ i e, ¬config.FailsAt classes i e) ∧ units = classes.filterMap config.unit?) ∧
    (∀ other, classes.Perm other →
      ((∃ units, config.roundUnits classes = .ok units) ↔
        ∃ units, config.roundUnits other = .ok units) ∧
      ∀ units, config.roundUnits classes = .ok units →
        config.roundUnits other = .ok (other.filterMap config.unit?) ∧
          units.Perm (other.filterMap config.unit?)) ∧
    ∀ back units, config.roundUnits (classes ++ back) = .ok units ↔
      ∃ us vs, config.roundUnits classes = .ok us ∧ config.roundUnits back = .ok vs ∧
        (∀ u ∈ us, ∀ v ∈ vs, u.name ≠ v.name) ∧ units = us ++ vs := by
  refine ⟨exists_error_iff, fun e => roundUnits_eq_error_iff,
    fun units => roundUnits_eq_ok_iff_not_failsAt, fun other hperm => ⟨⟨?_, ?_⟩, ?_⟩,
    fun back units => roundUnits_append_eq_ok_iff⟩
  · intro h
    obtain ⟨units, hunits⟩ := h
    exact ⟨_, roundUnits_of_perm hperm hunits⟩
  · intro h
    obtain ⟨units, hunits⟩ := h
    exact ⟨_, roundUnits_of_perm hperm.symm hunits⟩
  · intro units h
    rw [(roundUnits_eq_ok_iff.mp h).2.2]
    exact ⟨roundUnits_of_perm hperm h, hperm.filterMap config.unit?⟩

end Config

end AccessorGen
