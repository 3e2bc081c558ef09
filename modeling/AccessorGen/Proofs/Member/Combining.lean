import AccessorGen.Proofs.ClassOutcome
import AccessorGen.Proofs.Member.Arranged
import AccessorGen.Proofs.Member.Marking
import Mathlib.Data.List.Sort

/-!
# Markers of two classes taken together

Two descriptions of one class may mark it differently. Marked as both of them say, it asks for what the one
or the other asks for and for nothing else (`mem_requests_withMarkersOf`). Whether a class becomes a unit is
a question to each of its requests alone (`exists_classUnit_iff`), and the member of a request does not
depend on what else is requested. So success, failure and members of the class with both markings are read
off the two, and more markers never cost a member.
-/

set_option autoImplicit false

namespace AccessorGen

namespace MarkerSet

/-- The markers of either set. -/
def union (s t : MarkerSet) : MarkerSet where
  allArgsConstructor := s.allArgsConstructor || t.allArgsConstructor
  getter := s.getter || t.getter
  setter := s.setter || t.setter
  stringForm := s.stringForm || t.stringForm

@[simp] theorem has_union (s t : MarkerSet) (m : Marker) :
    (s.union t).has m = (s.has m || t.has m) := by cases m <;> rfl

end MarkerSet

namespace FieldDecl

/-- The field with the markers of the other as well. -/
def withMarkersOf (f g : FieldDecl) : FieldDecl :=
  { f with
    readMarked := f.readMarked || g.readMarked
    writeMarked := f.writeMarked || g.writeMarked }

@[simp] theorem unmarked_withMarkersOf (f g : FieldDecl) :
    (f.withMarkersOf g).unmarked = f.unmarked := rfl

@[simp] theorem carries_withMarkersOf (f g : FieldDecl) (m : Marker) :
    (f.withMarkersOf g).carries m = (f.carries m || g.carries m) := by cases m <;> rfl

@[simp] theorem isStatic_withMarkersOf (f g : FieldDecl) :
    (f.withMarkersOf g).isStatic = f.isStatic := rfl

theorem isStatic_eq_of_unmarked {f g : FieldDecl} (h : f.unmarked = g.unmarked) :
    f.isStatic = g.isStatic := by
  rw [← f.unmarked_isStatic, h, g.unmarked_isStatic]

end FieldDecl

namespace ClassDecl

/-- The class with the markers of the other as well, on the class and field by field. -/
def withMarkersOf (c d : ClassDecl) : ClassDecl :=
  { c with
    markers := c.markers.union d.markers
    fields := List.zipWith FieldDecl.withMarkersOf c.fields d.fields }

variable {c d : ClassDecl}

/-! ## What is asked for -/

theorem forall₂_fields (h : c.unmarked = d.unmarked) :
    List.Forall₂ (fun f g => f.unmarked = g.unmarked) c.fields d.fields := by
  have hfields : c.fields.map (·.unmarked) = d.fields.map (·.unmarked) :=
    congrArg ClassDecl.fields h
  rw [← List.forall₂_eq_eq_eq, List.forall₂_map_left_iff, List.forall₂_map_right_iff] at hfields
  exact hfields

theorem map_unmarked_zipWith {fs gs : List FieldDecl}
    (h : List.Forall₂ (fun f g => f.unmarked = g.unmarked) fs gs) :
    (List.zipWith FieldDecl.withMarkersOf fs gs).map (·.unmarked) = fs.map (·.unmarked) := by
  induction h with
  | nil => rfl
  | cons _ _ ih => simp [ih]

/-- Apart from its markers the class is what it was. -/
theorem unmarked_withMarkersOf (h : c.unmarked = d.unmarked) :
    (c.withMarkersOf d).unmarked = c.unmarked := by
  have hfields := map_unmarked_zipWith (forall₂_fields h)
  simp only [withMarkersOf, unmarked, hfields]

/-- Choosing by what either field of a pair asks is choosing by the one and by the other. -/
theorem mem_filter_zipWith {fs gs : List FieldDecl}
    (h : List.Forall₂ (fun f g => f.unmarked = g.unmarked) fs gs) {p q r : FieldDecl → Bool}
    (hr : ∀ f g, f.unmarked = g.unmarked → r (f.withMarkersOf g) = (p f || q g)) (k : FieldDecl) :
    k ∈ ((List.zipWith FieldDecl.withMarkersOf fs gs).filter r).map (·.unmarked) ↔
      k ∈ (fs.filter p).map (·.unmarked) ∨ k ∈ (gs.filter q).map (·.unmarked) := by
  induction h with
  | nil => simp
  | @cons f g fs gs hfg _ ih =>
    rw [List.zipWith_cons_cons, List.filter_cons, List.filter_cons, List.filter_cons, hr f g hfg]
    cases p f <;> cases q g <;> simp [ih, hfg, or_assoc, or_left_comm]

theorem mem_asking_withMarkersOf (h : c.unmarked = d.unmarked) (m : Marker) (k : FieldDecl) :
    k ∈ ((c.withMarkersOf d).asking m).map (·.unmarked) ↔
      k ∈ (c.asking m).map (·.unmarked) ∨ k ∈ (d.asking m).map (·.unmarked) := by
  rw [asking_eq, asking_eq, asking_eq]
  apply mem_filter_zipWith (forall₂_fields h)
  intro f g hfg
  have hstatic := FieldDecl.isStatic_eq_of_unmarked hfg
  simp only [withMarkersOf, MarkerSet.has_union, FieldDecl.carries_withMarkersOf,
    FieldDecl.isStatic_withMarkersOf, ← hstatic]
  cases c.markers.has m <;> cases d.markers.has m <;> cases f.carries m <;> simp

/-- What the class asks for, whatever else its fields carry. -/
theorem mem_map_unmarked_requests (r : Request) :
    r ∈ c.requests.map (·.unmarked) ↔
      match r with
      | .constructor fields => c.markers.allArgsConstructor = true ∧ fields = c.unmarked.instanceFields
      | .read f => f ∈ (c.asking .getter).map (·.unmarked)
      | .write f => f ∈ (c.asking .setter).map (·.unmarked)
      | .stringify fields => c.markers.stringForm = true ∧ fields = c.unmarked.instanceFields := by
  rw [map_unmarked_requests]
  cases r <;> cases c.markers.allArgsConstructor <;> cases c.markers.stringForm <;> simp

/-- **With the markers of both a class asks for what either asks for.** -/
theorem mem_requests_withMarkersOf (h : c.unmarked = d.unmarked) (r : Request) :
    r ∈ (c.withMarkersOf d).requests.map (·.unmarked) ↔
      r ∈ c.requests.map (·.unmarked) ∨ r ∈ d.requests.map (·.unmarked) := by
  simp only [mem_map_unmarked_requests, unmarked_withMarkersOf h, ← h]
  cases r with
  | constructor fields => simp [withMarkersOf, MarkerSet.union, or_and_right]
  | read f => exact mem_asking_withMarkersOf h .getter f
  | write f => exact mem_asking_withMarkersOf h .setter f
  | stringify fields => simp [withMarkersOf, MarkerSet.union, or_and_right]

theorem nodup_instanceNames_of_unmarked (h : c.unmarked = d.unmarked) (hn : c.instanceNames.Nodup) :
    d.instanceNames.Nodup := by
  rw [← instanceNames_unmarked, ← h, instanceNames_unmarked]
  exact hn

end ClassDecl

/-- The members that came of a class, none where there is no unit. -/
def unitMembers : Option SourceUnit → List Member
  | none => []
  | some u => u.members

namespace Member

/-- Of two lists by strictly rising slot the one with fewer members is a part of the other. -/
theorem sublist_of_subset {ms ns : List Member} (hms : ms.Pairwise SlotBefore)
    (hns : ns.Pairwise SlotBefore) (h : ms ⊆ ns) : ms.Sublist ns :=
  List.sublist_of_subperm_of_pairwise (List.subperm_of_subset (hms.imp SlotBefore.ne) h) hms hns

end Member

namespace Config

variable {config : Config} {c d : ClassDecl}

/-! ## Request by request -/

/-- Nothing keeps the request from being met: its fields are in reach, and the class is not nested if it is
to be written out itself. -/
def CanMeet (config : Config) (c : ClassDecl) (r : Request) : Prop :=
  (∀ f ∈ r.fields, config.hides f = false) ∧
    (config.strategy.isCompanion = false → c.isNested = false)

theorem find?_touchedFields_eq_none_iff :
    c.touchedFields.find? config.hides = none ↔
      ∀ r ∈ c.requests, ∀ f ∈ r.fields, config.hides f = false := by
  rw [← ClassDecl.flatMap_fields_requests, List.find?_eq_none]
  simp only [List.mem_flatMap, Bool.not_eq_true]
  exact ⟨fun h r hr f hf => h f ⟨r, hr, hf⟩, fun h f ⟨r, hr, hf⟩ => h r hr f hf⟩

/-- **A class does not fail exactly when each of its requests can be met.** -/
theorem exists_classUnit_iff (hn : c.instanceNames.Nodup) :
    (∃ unit, config.classUnit c = .ok unit) ↔ ∀ r ∈ c.requests, config.CanMeet c r := by
  by_cases hne : c.requests = []
  · simp [classUnit_of_nodup config hn, hne]
  have hflat : (c.isNested && !config.strategy.isCompanion) = false ↔
      (config.strategy.isCompanion = false → c.isNested = false) := by
    cases config.strategy.isCompanion <;> simp
  have hok : (∃ unit, config.classUnit c = .ok unit) ↔
      c.touchedFields.find? config.hides = none ∧
        (c.isNested && !config.strategy.isCompanion) = false := by
    rw [classUnit_of_nodup config hn, if_neg hne]
    cases c.touchedFields.find? config.hides <;>
      cases c.isNested && !config.strategy.isCompanion <;> simp
  rw [hok, find?_touchedFields_eq_none_iff, hflat]
  -- that the class is not nested is asked of each request, and there is one
  obtain ⟨s, hs⟩ := List.exists_mem_of_ne_nil _ hne
  exact ⟨fun h r hr => ⟨h.1 r hr, h.2⟩, fun h => ⟨fun r hr => (h r hr).1, (h s hs).2⟩⟩

theorem canMeet_unmarked (r : Request) :
    config.CanMeet c.unmarked r.unmarked ↔ config.CanMeet c r := by
  have hfields : r.unmarked.fields = r.fields.map (·.unmarked) := by cases r <;> rfl
  rw [CanMeet, CanMeet, hfields, List.forall_mem_map]
  rfl

theorem exists_classUnit_iff_unmarked (hn : c.instanceNames.Nodup) :
    (∃ unit, config.classUnit c = .ok unit) ↔
      ∀ r ∈ c.requests.map (·.unmarked), config.CanMeet c.unmarked r := by
  rw [exists_classUnit_iff hn, List.forall_mem_map]
  exact forall₂_congr fun r _ => (canMeet_unmarked r).symm

/-! ## Member by member -/

theorem member_unmarked (r : Request) :
    config.member c.unmarked r.unmarked = config.member c r :=
  member_congr config c.like_unmarked r.like_unmarked

theorem unitMembers_of_classUnit (hn : c.instanceNames.Nodup) {unit : Option SourceUnit}
    (h : config.classUnit c = .ok unit) :
    unitMembers unit = (c.requests.map (·.unmarked)).map (config.member c.unmarked) := by
  rw [List.map_map]
  cases unit with
  | none => rw [requests_eq_nil_of_classUnit hn h]; rfl
  | some u =>
    rw [unitMembers, members_eq_of_nodup hn h]
    exact List.map_congr_left fun r _ => (member_unmarked r).symm

theorem pairwise_unitMembers {unit : Option SourceUnit} (h : config.classUnit c = .ok unit) :
    (unitMembers unit).Pairwise Member.SlotBefore := by
  cases unit with
  | none => exact .nil
  | some u => exact pairwise_slotBefore_of_composeUnit (composeUnit_of_classUnit h)

/-- **Markers compose.** Let two classes differ in markers alone. The class with the markers of both does
not fail exactly when neither of them does. Its members, by strictly rising slot, are then those of the one
and those of the other, name, ordinal and text included. So a further marker takes no member away, and
leaves those that were there as they are and in their order. -/
theorem classUnit_withMarkersOf (config : Config) (h : c.unmarked = d.unmarked)
    (hn : c.instanceNames.Nodup) :
    ((∃ unit, config.classUnit (c.withMarkersOf d) = .ok unit) ↔
      (∃ unit, config.classUnit c = .ok unit) ∧ ∃ unit, config.classUnit d = .ok unit) ∧
    ∀ both own other, config.classUnit (c.withMarkersOf d) = .ok both →
      config.classUnit c = .ok own → config.classUnit d = .ok other →
      (∀ m, m ∈ unitMembers both ↔ m ∈ unitMembers own ∨ m ∈ unitMembers other) ∧
      (unitMembers both).Pairwise Member.SlotBefore ∧
      (unitMembers own).Sublist (unitMembers both) ∧
      (unitMembers other).Sublist (unitMembers both) := by
  have hnd := ClassDecl.nodup_instanceNames_of_unmarked h hn
  have hunmarked := ClassDecl.unmarked_withMarkersOf h
  have hnboth := ClassDecl.nodup_instanceNames_of_unmarked hunmarked.symm hn
  refine ⟨?_, fun both own other hboth hown hother => ?_⟩
  · rw [exists_classUnit_iff_unmarked hnboth, exists_classUnit_iff_unmarked hn,
      exists_classUnit_iff_unmarked hnd, hunmarked, ← h]
    simp only [ClassDecl.mem_requests_withMarkersOf h, or_imp, forall_and]
  · have hmem : ∀ m, m ∈ unitMembers both ↔ m ∈ unitMembers own ∨ m ∈ unitMembers other := by
      intro m
      rw [unitMembers_of_classUnit hnboth hboth, unitMembers_of_classUnit hn hown,
        unitMembers_of_classUnit hnd hother, hunmarked, ← h]
      simp only [List.mem_map (f := config.member c.unmarked),
        ClassDecl.mem_requests_withMarkersOf h, or_and_right, exists_or]
    have hsorted := pairwise_unitMembers hboth
    refine ⟨hmem, hsorted, ?_, ?_⟩
    · apply Member.sublist_of_subset (pairwise_unitMembers hown) hsorted
      intro m hm
      exact (hmem m).mpr (Or.inl hm)
    · apply Member.sublist_of_subset (pairwise_unitMembers hother) hsorted
      intro m hm
      exact (hmem m).mpr (Or.inr hm)

/-- A class that can be marked in more than one way; a reader of the second field is always asked for. -/
def parcel (markers : List Marker) (writeMarked : Bool) : ClassDecl :=
  { ClassDecl.ofName "demo.Parcel" with
    fields := [
      { name := "weight", type := "int" },
      { name := "shut", type := "boolean", readMarked := true, writeMarked }]
    markers := .ofList markers }

theorem classUnit_withMarkersOf_parcel :
    (parcel [.getter] false).unmarked = (parcel [.stringForm] true).unmarked ∧
      (parcel [.getter] false).instanceNames.Nodup ∧
      ∃ both, classUnit {} ((parcel [.getter] false).withMarkersOf (parcel [.stringForm] true)) =
          .ok both ∧
        (unitOf {} (parcel [.getter] false)).members.Sublist (unitMembers both) ∧
        (unitOf {} (parcel [.stringForm] true)).members.Sublist (unitMembers both) := by
  have h : (parcel [.getter] false).unmarked = (parcel [.stringForm] true).unmarked := rfl
  have hn : ∀ markers writeMarked, (parcel markers writeMarked).instanceNames.Nodup := by
    intro markers writeMarked
    show ["weight", "shut"].Nodup
    decide
  have hunit : ∀ markers writeMarked,
      (parcel markers writeMarked).requests ≠ [] →
      classUnit {} (parcel markers writeMarked) =
        .ok (some (unitOf {} (parcel markers writeMarked))) := by
    intro markers writeMarked hne
    apply classUnit_eq_unitOf (hn markers writeMarked) hne fun hs => absurd hs (by decide)
    intro _
    show (ClassDecl.ofName "demo.Parcel").isNested = false
    decide +kernel
  have hown := hunit [.getter] false (by decide +kernel)
  have hother := hunit [.stringForm] true (by decide +kernel)
  have hcompose := classUnit_withMarkersOf {} h (hn [.getter] false)
  obtain ⟨both, hboth⟩ := hcompose.1.mpr ⟨⟨_, hown⟩, ⟨_, hother⟩⟩
  obtain ⟨-, -, hsub, hsub'⟩ := hcompose.2 both _ _ hboth hown hother
  exact ⟨h, hn [.getter] false, both, hboth, hsub, hsub'⟩

end Config

end AccessorGen
