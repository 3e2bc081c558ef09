import AccessorGen.Proofs.Member.Generated
import AccessorGen.Proofs.Member.Slots

/-!
# Composing members given in any order

Members may be composed that no class ever asks for, in any order and with slots shared at will. What
comes of it is a matter of slots: where two members share one, the second member of the first shared slot
is reported; where none do, the unit has the members by rising slot, and there is one such order only
(`arrange_eq_of_perm`). So the order in which the members are given decides about one thing, which of the
members of the shared slot is called the second.
-/

set_option autoImplicit false

namespace AccessorGen

namespace Member

/-! ## Shared slots -/

/-- The first member's slot is before the second's. -/
def SlotBefore (a b : Member) : Prop :=
  a.kind.rank < b.kind.rank ∨ a.kind = b.kind ∧ a.ordinal < b.ordinal

/-- Two of the members, at different positions, have the same slot. -/
def SlotShared (ms : List Member) : Prop :=
  ∃ i j : Nat, i < j ∧ ∃ a b : Member,
    ms[i]? = some a ∧ ms[j]? = some b ∧ a.kind = b.kind ∧ a.ordinal = b.ordinal

/-- The member is the second in its slot, as the members are given, and its slot is the first of those
that more than one of them have. -/
structure SecondOfFirstShared (ms : List Member) (b : Member) : Prop where
  second : (ms.filter b.sameSlot)[1]? = some b
  first : ∀ m ∈ ms, 1 < (ms.filter m.sameSlot).length → b.slotLe m = true

variable {ms ns : List Member}

theorem sameSlot_eq_false_comm {a b : Member} (h : a.sameSlot b = false) : b.sameSlot a = false := by
  rw [Bool.eq_false_iff] at *
  intro hba
  exact h (sameSlot_comm hba)

theorem slotBefore_of_slotLe {a b : Member} (hle : a.slotLe b = true) (hne : a.sameSlot b = false) :
    a.SlotBefore b := by
  rw [slotLe_iff] at hle
  rw [Bool.eq_false_iff, ne_eq, sameSlot_iff] at hne
  rcases hle with hlt | ⟨hrank, hle⟩
  · exact Or.inl hlt
  · have hkind := MemberKind.rank_injective hrank
    exact Or.inr ⟨hkind, Nat.lt_of_le_of_ne hle fun h => hne ⟨hkind, h⟩⟩

theorem SlotBefore.asymm {a b : Member} (hab : a.SlotBefore b) : ¬b.SlotBefore a := by
  intro hba
  rcases hab with hab | ⟨hk, hab⟩ <;> rcases hba with hba | ⟨hk', hba⟩
  · omega
  · rw [hk'] at hab
    omega
  · rw [hk] at hba
    omega
  · omega

instance : Std.Antisymm SlotBefore where
  antisymm _ _ hab hba := absurd hba hab.asymm

theorem SlotBefore.slot_ne {a b : Member} (h : a.SlotBefore b) :
    (a.kind, a.ordinal) ≠ (b.kind, b.ordinal) := by
  intro hslot
  obtain ⟨hkind, hordinal⟩ := Prod.mk.inj hslot
  rcases h with hlt | ⟨-, hlt⟩
  · rw [hkind] at hlt
    exact Nat.lt_irrefl _ hlt
  · omega

theorem SlotBefore.ne {a b : Member} (h : a.SlotBefore b) : a ≠ b := fun hab => h.slot_ne (hab ▸ rfl)

theorem not_slotShared_iff :
    ¬SlotShared ms ↔ ms.Pairwise fun a b => a.sameSlot b = false := by
  rw [List.pairwise_iff_getElem]
  refine ⟨fun h i j hi hj hij => ?_, fun h => ?_⟩
  · rw [Bool.eq_false_iff]
    intro hsame
    obtain ⟨hkind, hordinal⟩ := sameSlot_iff.mp hsame
    exact h ⟨i, j, hij, ms[i], ms[j], by simp [hi], by simp [hj], hkind, hordinal⟩
  · intro hshared
    obtain ⟨i, j, hij, a, b, ha, hb, hslot⟩ := hshared
    obtain ⟨hi, rfl⟩ := List.getElem?_eq_some_iff.mp ha
    obtain ⟨hj, rfl⟩ := List.getElem?_eq_some_iff.mp hb
    have hne := h i j hi hj hij
    rw [sameSlot_iff.mpr hslot] at hne
    exact absurd hne (by simp)

/-- No slot is shared exactly when every member is alone in its slot. -/
theorem not_slotShared_iff_filter :
    ¬SlotShared ms ↔ ∀ m ∈ ms, ms.filter m.sameSlot = [m] := by
  rw [not_slotShared_iff]
  refine ⟨fun h m hm => ?_, fun h => ?_⟩
  · obtain ⟨front, back, rfl⟩ := List.append_of_mem hm
    rw [List.pairwise_append, List.pairwise_cons] at h
    obtain ⟨-, ⟨hback, -⟩, hfront⟩ := h
    have hnoFront : front.filter m.sameSlot = [] := by
      rw [List.filter_eq_nil_iff]
      intro a ha
      simp [sameSlot_eq_false_comm (hfront a ha m List.mem_cons_self)]
    have hnoBack : back.filter m.sameSlot = [] := by
      rw [List.filter_eq_nil_iff]
      intro a ha
      simp [hback a ha]
    rw [List.filter_append, hnoFront, List.filter_cons_of_pos (sameSlot_refl m), hnoBack]
    rfl
  · rw [List.pairwise_iff_forall_sublist]
    intro a b hab
    rw [Bool.eq_false_iff]
    intro hsame
    -- both members of the slot are in the part of the list that has one member
    have hpart := hab.filter a.sameSlot
    rw [h a (hab.subset List.mem_cons_self), List.filter_cons_of_pos (sameSlot_refl a),
      List.filter_cons_of_pos hsame] at hpart
    exact absurd hpart.length_le (by simp)

theorem firstRepeated?_arrange_eq_none_iff_not_slotShared :
    firstRepeated? (arrange ms) = none ↔ ¬SlotShared ms := by
  rw [firstRepeated?_arrange_eq_none_iff, not_slotShared_iff_filter]

/-- **The member that is found is the second of the first shared slot.** -/
theorem firstRepeated?_arrange_eq_some_iff_second {b : Member} :
    firstRepeated? (arrange ms) = some b ↔ SecondOfFirstShared ms b := by
  rw [firstRepeated?_arrange_eq_some_iff]
  refine ⟨fun ⟨hsecond, hbefore⟩ => ⟨hsecond, fun m hm hmany => ?_⟩, fun h => ?_⟩
  · rw [← Bool.not_eq_false]
    intro hnot
    have hle : m.slotLe b = true := by
      have htotal := slotLe_total b m
      rw [hnot, Bool.false_or] at htotal
      exact htotal
    have hne : m.sameSlot b = false := by
      rw [Bool.eq_false_iff]
      intro hsame
      rw [slotLe_of_sameSlot (sameSlot_comm hsame)] at hnot
      exact absurd hnot (by simp)
    rw [hbefore m hm hle hne] at hmany
    exact absurd hmany (by simp)
  · refine ⟨h.second, fun m hm hle hne => ?_⟩
    have hmem : m ∈ ms.filter m.sameSlot := List.mem_filter.mpr ⟨hm, sameSlot_refl m⟩
    -- a slot before that of `b` has no second member, and it has `m`
    have hfew : (ms.filter m.sameSlot).length ≤ 1 := by
      rw [← Nat.not_lt]
      intro hmany
      rw [sameSlot_of_slotLe hle (h.first m hm hmany)] at hne
      exact absurd hne (by simp)
    obtain ⟨a, ha⟩ := List.length_eq_one_iff.mp
      (Nat.le_antisymm hfew (List.length_pos_of_mem hmem))
    rw [ha] at hmem ⊢
    rw [List.mem_singleton.mp hmem]

theorem exists_second_iff : (∃ b, SecondOfFirstShared ms b) ↔ SlotShared ms := by
  rw [← not_iff_not, ← firstRepeated?_arrange_eq_none_iff_not_slotShared,
    Option.eq_none_iff_forall_ne_some, not_exists]
  apply forall_congr'
  intro b
  rw [ne_eq, firstRepeated?_arrange_eq_some_iff_second]

/-! ## The one order -/

theorem slotShared_of_perm (h : ms.Perm ns) : SlotShared ms ↔ SlotShared ns := by
  rw [← not_iff_not, not_slotShared_iff, not_slotShared_iff]
  exact h.pairwise_iff sameSlot_eq_false_comm

theorem perm_arrange (ms : List Member) : (arrange ms).Perm ms := List.mergeSort_perm ms slotLe

/-- Members that share no slot stand by strictly rising slot once they are arranged. -/
theorem pairwise_slotBefore_arrange (h : ¬SlotShared ms) : (arrange ms).Pairwise SlotBefore := by
  rw [← slotShared_of_perm (perm_arrange ms), not_slotShared_iff] at h
  exact ((pairwise_arrange ms).and h).imp fun {a b} hab => slotBefore_of_slotLe hab.1 hab.2

/-- **However the members are given,** they are arranged in one way if no slot is shared. -/
theorem arrange_eq_of_perm (h : ms.Perm ns) (hms : ¬SlotShared ms) : arrange ms = arrange ns := by
  have hperm : (arrange ms).Perm (arrange ns) :=
    (perm_arrange ms).trans (h.trans (perm_arrange ns).symm)
  refine hperm.eq_of_pairwise (fun a b ha hb hab hba => ?_) (pairwise_arrange ms)
    (pairwise_arrange ns)
  have hmem : b ∈ ms.filter a.sameSlot :=
    List.mem_filter.mpr ⟨h.mem_iff.mpr (mem_arrange.mp hb), sameSlot_of_slotLe hab hba⟩
  rw [not_slotShared_iff_filter.mp hms a (mem_arrange.mp ha)] at hmem
  exact (List.mem_singleton.mp hmem).symm

end Member

namespace Config

variable {config : Config} {c : ClassDecl} {ms ns : List Member}

/-- Outcomes that differ in nothing but in the member named where a slot is shared. -/
inductive SameOutcome : Except Error (Option SourceUnit) → Except Error (Option SourceUnit) → Prop
  | composed (unit : Option SourceUnit) : SameOutcome (.ok unit) (.ok unit)
  | nested (className : String) :
      SameOutcome (.error (.nestedClass className)) (.error (.nestedClass className))
  | shared (className member member' : String) :
      SameOutcome (.error (.duplicateMember className member))
        (.error (.duplicateMember className member'))

/-! ## What comes of composing -/

theorem composeUnit_nil (config : Config) (c : ClassDecl) : config.composeUnit c [] = .ok none := rfl

theorem composeUnit_of_nested (hne : ms ≠ []) (hs : config.strategy.isCompanion = false)
    (hn : c.isNested = true) : config.composeUnit c ms = .error (.nestedClass c.qualifiedName) := by
  have hempty : ms.isEmpty = false := List.isEmpty_eq_false_iff.mpr hne
  simp [composeUnit, hempty, hs, hn]

/-- The class is not refused for being nested. -/
theorem nested_eq_false (hflat : config.strategy.isCompanion = true ∨ c.isNested = false) :
    (c.isNested && !config.strategy.isCompanion) = false := by
  rcases hflat with hs | hn
  · simp [hs]
  · simp [hn]

theorem composeUnit_of_second (hflat : config.strategy.isCompanion = true ∨ c.isNested = false)
    {b : Member} (h : Member.SecondOfFirstShared ms b) :
    config.composeUnit c ms = .error (.duplicateMember c.qualifiedName b.name) := by
  have hne : ms ≠ [] := by
    intro hnil
    have hsecond := h.second
    simp [hnil] at hsecond
  have hempty : ms.isEmpty = false := List.isEmpty_eq_false_iff.mpr hne
  have hrepeated := Member.firstRepeated?_arrange_eq_some_iff_second.mpr h
  simp [composeUnit, hempty, nested_eq_false hflat, hrepeated]

theorem composeUnit_of_not_slotShared (hne : ms ≠ [])
    (hflat : config.strategy.isCompanion = true ∨ c.isNested = false) (h : ¬Member.SlotShared ms) :
    config.composeUnit c ms =
      .ok (some ⟨c.unitName config.strategy, Member.arrange ms,
        config.render c (Member.arrange ms)⟩) := by
  have hempty : ms.isEmpty = false := List.isEmpty_eq_false_iff.mpr hne
  have hrepeated := Member.firstRepeated?_arrange_eq_none_iff_not_slotShared.mpr h
  simp [composeUnit, hempty, nested_eq_false hflat, hrepeated]

/-- Composing can only fail at the first shared slot. -/
theorem composeUnit_eq_error_iff (hne : ms ≠ [])
    (hflat : config.strategy.isCompanion = true ∨ c.isNested = false) {name : String} :
    config.composeUnit c ms = .error (.duplicateMember c.qualifiedName name) ↔
      ∃ b, Member.SecondOfFirstShared ms b ∧ b.name = name := by
  refine ⟨fun h => ?_, fun ⟨b, hb, hname⟩ => hname ▸ composeUnit_of_second hflat hb⟩
  by_cases hshared : Member.SlotShared ms
  · obtain ⟨b, hb⟩ := Member.exists_second_iff.mpr hshared
    rw [composeUnit_of_second hflat hb] at h
    cases h
    exact ⟨b, hb, rfl⟩
  · rw [composeUnit_of_not_slotShared hne hflat hshared] at h
    cases h

theorem composeUnit_eq_ok_none_iff : config.composeUnit c ms = .ok none ↔ ms = [] := by
  refine ⟨fun h => ?_, fun h => h ▸ composeUnit_nil config c⟩
  cases ms with
  | nil => rfl
  | cons m rest =>
    rw [composeUnit, List.isEmpty_cons, if_neg Bool.false_ne_true] at h
    split at h
    · cases h
    · dsimp only at h
      split at h
      · cases h
      · cases h

/-- The members of a composed unit share no slot. -/
theorem not_slotShared_of_composeUnit {u : SourceUnit}
    (h : config.composeUnit c ms = .ok (some u)) : ¬Member.SlotShared ms := by
  intro hshared
  have hflat : config.strategy.isCompanion = true ∨ c.isNested = false := by
    cases hs : config.strategy.isCompanion with
    | true => exact Or.inl rfl
    | false => exact Or.inr ((eq_of_composeUnit h).2 hs)
  obtain ⟨b, hb⟩ := Member.exists_second_iff.mpr hshared
  have herror := composeUnit_of_second hflat hb
  rw [h] at herror
  cases herror

/-- The members of a composed unit stand by strictly rising slot. -/
theorem pairwise_slotBefore_of_composeUnit {u : SourceUnit}
    (h : config.composeUnit c ms = .ok (some u)) : u.members.Pairwise Member.SlotBefore := by
  rw [(eq_of_composeUnit h).1]
  exact Member.pairwise_slotBefore_arrange (not_slotShared_of_composeUnit h)

/-- Giving the members in another order changes next to nothing. -/
theorem sameOutcome_of_perm (config : Config) (c : ClassDecl) (h : ms.Perm ns) :
    SameOutcome (config.composeUnit c ms) (config.composeUnit c ns) := by
  by_cases hms : ms = []
  · subst hms
    rw [← h.nil_eq, composeUnit_nil]
    exact .composed none
  have hns : ns ≠ [] := by
    intro hns
    exact hms (hns ▸ h).eq_nil
  by_cases hnested : config.strategy.isCompanion = false ∧ c.isNested = true
  · rw [composeUnit_of_nested hms hnested.1 hnested.2, composeUnit_of_nested hns hnested.1 hnested.2]
    exact .nested c.qualifiedName
  have hflat : config.strategy.isCompanion = true ∨ c.isNested = false := by
    cases hs : config.strategy.isCompanion with
    | true => exact Or.inl rfl
    | false => exact Or.inr (Bool.eq_false_iff.mpr fun hn => hnested ⟨hs, hn⟩)
  by_cases hshared : Member.SlotShared ms
  · obtain ⟨a, ha⟩ := Member.exists_second_iff.mpr hshared
    obtain ⟨b, hb⟩ := Member.exists_second_iff.mpr ((Member.slotShared_of_perm h).mp hshared)
    rw [composeUnit_of_second hflat ha, composeUnit_of_second hflat hb]
    exact .shared c.qualifiedName a.name b.name
  · rw [composeUnit_of_not_slotShared hms hflat hshared,
      composeUnit_of_not_slotShared hns hflat (mt (Member.slotShared_of_perm h).mpr hshared),
      Member.arrange_eq_of_perm h hshared]
    exact .composed _

theorem eq_of_sameOutcome_ok {outcome : Except Error (Option SourceUnit)} {unit : Option SourceUnit}
    (h : SameOutcome outcome (.ok unit)) : outcome = .ok unit := by
  cases h with
  | composed => rfl

/-- **Composing members is a sort that refuses shared slots.** There is no unit exactly when there are no
members. A nested class that would be written out itself is refused. Otherwise composing fails exactly
when two members share a slot, naming the second member of the first shared slot, and where none do the
unit has the given members by strictly rising slot. Another order of the members makes no difference but
to which member of a shared slot is named, so a unit is composed again from its own members. -/
theorem composeUnit_arranges (config : Config) (c : ClassDecl) (ms : List Member) :
    (config.composeUnit c ms = .ok none ↔ ms = []) ∧
    (ms ≠ [] → config.strategy.isCompanion = false → c.isNested = true →
      config.composeUnit c ms = .error (.nestedClass c.qualifiedName)) ∧
    (ms ≠ [] → config.strategy.isCompanion = true ∨ c.isNested = false →
      ((∃ name, config.composeUnit c ms = .error (.duplicateMember c.qualifiedName name)) ↔
        Member.SlotShared ms) ∧
      (∀ name, config.composeUnit c ms = .error (.duplicateMember c.qualifiedName name) ↔
        ∃ b, Member.SecondOfFirstShared ms b ∧ b.name = name) ∧
      (¬Member.SlotShared ms →
        ∃ u, config.composeUnit c ms = .ok (some u) ∧ u.members.Perm ms ∧
          u.members.Pairwise Member.SlotBefore)) ∧
    (∀ ns : List Member, ns.Perm ms →
      SameOutcome (config.composeUnit c ns) (config.composeUnit c ms)) ∧
    ∀ u, config.composeUnit c ms = .ok (some u) → config.composeUnit c u.members = .ok (some u) := by
  refine ⟨composeUnit_eq_ok_none_iff, composeUnit_of_nested, fun hne hflat => ⟨?_, fun name => ?_, ?_⟩,
    fun ns h => sameOutcome_of_perm config c h, fun u hu => ?_⟩
  · rw [← Member.exists_second_iff]
    refine ⟨fun ⟨name, h⟩ => ?_, fun ⟨b, hb⟩ => ⟨b.name, composeUnit_of_second hflat hb⟩⟩
    obtain ⟨b, hb, -⟩ := (composeUnit_eq_error_iff hne hflat).mp h
    exact ⟨b, hb⟩
  · exact composeUnit_eq_error_iff hne hflat
  · intro hshared
    have hunit := composeUnit_of_not_slotShared hne hflat hshared
    exact ⟨_, hunit, Member.perm_arrange ms, pairwise_slotBefore_of_composeUnit hunit⟩
  · have hperm : u.members.Perm ms := by
      rw [(eq_of_composeUnit hu).1]
      exact Member.perm_arrange ms
    exact eq_of_sameOutcome_ok (hu ▸ sameOutcome_of_perm config c hperm)

end Config

end AccessorGen
