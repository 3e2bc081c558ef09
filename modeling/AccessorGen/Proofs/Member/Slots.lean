import AccessorGen.SourceUnit
import Mathlib.Data.List.Basic

/-!
# Slots

Arranging members sorts them by slot and keeps the order within a slot, so what is known of a slot
before is known of it after (`filter_sameSlot_arrange`). In the sorted list the members of a slot stand
side by side, which is why looking at neighbours is enough to find a slot that is occupied twice: the
member found is the second of its slot, and no slot before it is occupied twice
(`firstRepeated?_arrange_eq_some_iff`).
-/

set_option autoImplicit false

namespace AccessorGen.Member

/-! ## The order of slots -/

theorem sameSlot_iff {a b : Member} : a.sameSlot b = true ↔ a.kind = b.kind ∧ a.ordinal = b.ordinal := by
  simp [sameSlot]

theorem slotLe_iff {a b : Member} :
    a.slotLe b = true ↔
      a.kind.rank < b.kind.rank ∨ a.kind.rank = b.kind.rank ∧ a.ordinal ≤ b.ordinal := by
  have hk : a.kind = b.kind ↔ a.kind.rank = b.kind.rank :=
    ⟨fun h => by rw [h], MemberKind.rank_injective⟩
  simp [slotLe, hk]

theorem sameSlot_refl (a : Member) : a.sameSlot a = true := sameSlot_iff.mpr ⟨rfl, rfl⟩

theorem sameSlot_comm {a b : Member} (h : a.sameSlot b = true) : b.sameSlot a = true := by
  rw [sameSlot_iff] at *
  exact ⟨h.1.symm, h.2.symm⟩

theorem sameSlot_trans {a b c : Member} (hab : a.sameSlot b = true) (hbc : b.sameSlot c = true) :
    a.sameSlot c = true := by
  rw [sameSlot_iff] at *
  exact ⟨hab.1.trans hbc.1, hab.2.trans hbc.2⟩

/-- Members of the same slot have the same slot-mates. -/
theorem sameSlot_congr {a b : Member} (h : a.sameSlot b = true) : a.sameSlot = b.sameSlot := by
  funext c
  rw [Bool.eq_iff_iff]
  exact ⟨sameSlot_trans (sameSlot_comm h), sameSlot_trans h⟩

theorem slotLe_of_sameSlot {a b : Member} (h : a.sameSlot b = true) : a.slotLe b = true := by
  rw [sameSlot_iff] at h
  rw [slotLe_iff]
  exact Or.inr ⟨by rw [h.1], Nat.le_of_eq h.2⟩

theorem slotLe_trans (a b c : Member) (hab : a.slotLe b = true) (hbc : b.slotLe c = true) :
    a.slotLe c = true := by
  rw [slotLe_iff] at *
  omega

theorem slotLe_total (a b : Member) : (a.slotLe b || b.slotLe a) = true := by
  rw [Bool.or_eq_true, slotLe_iff, slotLe_iff]
  omega

theorem sameSlot_of_slotLe {a b : Member} (hab : a.slotLe b = true) (hba : b.slotLe a = true) :
    a.sameSlot b = true := by
  rw [slotLe_iff] at *
  rw [sameSlot_iff]
  exact ⟨MemberKind.rank_injective (by omega), by omega⟩

/-! ## Arranging -/

theorem pairwise_arrange (ms : List Member) :
    (arrange ms).Pairwise fun a b => a.slotLe b = true :=
  List.pairwise_mergeSort slotLe_trans slotLe_total ms

theorem mem_arrange {ms : List Member} {m : Member} : m ∈ arrange ms ↔ m ∈ ms := List.mem_mergeSort

/-- **The members of a slot keep their order.** They are a sorted part of the list, so they are a part
of the sorted list, and there are no more of them there. -/
theorem filter_sameSlot_arrange (m : Member) (ms : List Member) :
    (arrange ms).filter m.sameSlot = ms.filter m.sameSlot := by
  have hsorted : (ms.filter m.sameSlot).Pairwise fun a b => a.slotLe b = true := by
    rw [List.pairwise_filter]
    exact List.pairwise_of_forall_mem_list fun a _ b _ ha hb =>
      slotLe_of_sameSlot (sameSlot_trans (sameSlot_comm ha) hb)
  have hpart : (ms.filter m.sameSlot).Sublist (arrange ms) :=
    List.sublist_mergeSort slotLe_trans slotLe_total hsorted List.filter_sublist
  have hsub : (ms.filter m.sameSlot).Sublist ((arrange ms).filter m.sameSlot) := by
    have h := hpart.filter m.sameSlot
    rwa [List.filter_filter, List.filter_congr fun a _ => Bool.and_self _] at h
  have hlength : (ms.filter m.sameSlot).length = ((arrange ms).filter m.sameSlot).length :=
    ((List.mergeSort_perm ms slotLe).symm.filter m.sameSlot).length_eq
  exact (hsub.eq_of_length hlength).symm

/-! ## Repeated slots -/

/-- In a sorted list a member that is not in the slot of the next one is in no slot of the rest. -/
theorem sameSlot_eq_false {a b : Member} {rest : List Member}
    (hs : (a :: b :: rest).Pairwise fun a b => a.slotLe b = true) (hab : a.sameSlot b = false) :
    ∀ m ∈ b :: rest, a.sameSlot m = false := by
  intro m hm
  rw [List.pairwise_cons, List.pairwise_cons] at hs
  have hbm : b.slotLe m = true := by
    rcases List.mem_cons.mp hm with rfl | hm
    · exact slotLe_of_sameSlot (sameSlot_refl m)
    · exact hs.2.1 m hm
  rw [Bool.eq_false_iff]
  intro ham
  have hba : b.slotLe a = true := slotLe_trans b m a hbm (slotLe_of_sameSlot (sameSlot_comm ham))
  rw [sameSlot_of_slotLe (hs.1 b List.mem_cons_self) hba] at hab
  exact absurd hab (by simp)

/-- Of a slot without repetition there is one member. -/
theorem filter_sameSlot_cons {a b : Member} {rest : List Member}
    (hs : (a :: b :: rest).Pairwise fun a b => a.slotLe b = true) (hab : a.sameSlot b = false) :
    (a :: b :: rest).filter a.sameSlot = [a] := by
  have hrest : (b :: rest).filter a.sameSlot = [] :=
    List.filter_eq_nil_iff.mpr fun m hm => by
      rw [sameSlot_eq_false hs hab m hm]
      decide
  rw [List.filter_cons_of_pos (sameSlot_refl a), hrest]

/-- The slots of the rest have nothing of the first member. -/
theorem filter_sameSlot_cons_of_mem {a b m : Member} {rest : List Member}
    (hs : (a :: b :: rest).Pairwise fun a b => a.slotLe b = true) (hab : a.sameSlot b = false)
    (hm : m ∈ b :: rest) :
    (a :: b :: rest).filter m.sameSlot = (b :: rest).filter m.sameSlot := by
  refine List.filter_cons_of_neg fun hma => ?_
  have ham := sameSlot_eq_false hs hab m hm
  rw [sameSlot_comm hma] at ham
  exact absurd ham (by simp)

/-- What there is to find in a list: the second member of a slot before which all slots are occupied
once, or that all of them are. -/
def Finding (ms : List Member) : Option Member → Prop
  | some b =>
    (ms.filter b.sameSlot)[1]? = some b ∧
      ∀ m ∈ ms, m.slotLe b = true → m.sameSlot b = false → ms.filter m.sameSlot = [m]
  | none => ∀ m ∈ ms, ms.filter m.sameSlot = [m]

theorem finding_of_sameSlot {a b : Member} {rest : List Member}
    (hs : (a :: b :: rest).Pairwise fun a b => a.slotLe b = true) (hab : a.sameSlot b = true) :
    Finding (a :: b :: rest) (some b) := by
  constructor
  · rw [List.filter_cons_of_pos (sameSlot_comm hab), List.filter_cons_of_pos (sameSlot_refl b)]
    rfl
  · -- the slot of `b` is the first, so no member of another one is before it
    intro m hm hle hne
    have hbm : b.slotLe m = true := by
      rw [List.pairwise_cons, List.pairwise_cons] at hs
      rcases List.mem_cons.mp hm with rfl | hm
      · exact slotLe_of_sameSlot (sameSlot_comm hab)
      · rcases List.mem_cons.mp hm with rfl | hm
        · exact hle
        · exact hs.2.1 m hm
    rw [sameSlot_of_slotLe hle hbm] at hne
    exact absurd hne (by simp)

/-- A first member with a slot of its own adds nothing to what there is to find. -/
theorem Finding.cons {a b : Member} {rest : List Member} {found : Option Member}
    (hs : (a :: b :: rest).Pairwise fun a b => a.slotLe b = true) (hab : a.sameSlot b = false)
    (h : Finding (b :: rest) found) : Finding (a :: b :: rest) found := by
  cases found with
  | some x =>
    have hx : x ∈ b :: rest := List.mem_of_mem_filter (List.mem_of_getElem? h.1)
    constructor
    · rw [filter_sameSlot_cons_of_mem hs hab hx]
      exact h.1
    · intro m hm hle hne
      rcases List.mem_cons.mp hm with rfl | hm
      · exact filter_sameSlot_cons hs hab
      · rw [filter_sameSlot_cons_of_mem hs hab hm]
        exact h.2 m hm hle hne
  | none =>
    intro m hm
    rcases List.mem_cons.mp hm with rfl | hm
    · exact filter_sameSlot_cons hs hab
    · rw [filter_sameSlot_cons_of_mem hs hab hm]
      exact h m hm

/-- **Looking at neighbours finds it in a sorted list.** -/
theorem firstRepeated?_spec {ms : List Member}
    (hs : ms.Pairwise fun a b => a.slotLe b = true) : Finding ms (firstRepeated? ms) := by
  -- along the comparison of the first two members
  induction ms with
  | nil => exact fun m hm => absurd hm List.not_mem_nil
  | cons a rest ih =>
    cases rest with
    | nil =>
      intro m hm
      rw [List.mem_singleton.mp hm, List.filter_cons_of_pos (sameSlot_refl a)]
      rfl
    | cons b rest =>
      rw [firstRepeated?]
      cases hab : a.sameSlot b with
      | true =>
        rw [if_pos rfl]
        exact finding_of_sameSlot hs hab
      | false =>
        rw [if_neg Bool.false_ne_true]
        exact (ih (List.pairwise_cons.mp hs).2).cons hs hab

/-- **No slot is found occupied twice exactly when none is.** -/
theorem firstRepeated?_arrange_eq_none_iff {ms : List Member} :
    firstRepeated? (arrange ms) = none ↔ ∀ m ∈ ms, ms.filter m.sameSlot = [m] := by
  have hspec := firstRepeated?_spec (pairwise_arrange ms)
  cases hfound : firstRepeated? (arrange ms) with
  | none =>
    rw [hfound] at hspec
    refine ⟨fun _ m hm => ?_, fun _ => rfl⟩
    rw [← filter_sameSlot_arrange]
    exact hspec m (mem_arrange.mpr hm)
  | some x =>
    rw [hfound] at hspec
    refine ⟨nofun, fun h => ?_⟩
    have hx := hspec.1
    rw [filter_sameSlot_arrange] at hx
    rw [h x (List.mem_of_mem_filter (List.mem_of_getElem? hx))] at hx
    exact absurd hx (by simp)

/-- **The member that is found is the second of its slot,** in the order in which the members were
given, and the slots before it are occupied once. -/
theorem firstRepeated?_arrange_eq_some_iff {ms : List Member} {b : Member} :
    firstRepeated? (arrange ms) = some b ↔
      (ms.filter b.sameSlot)[1]? = some b ∧
        ∀ m ∈ ms, m.slotLe b = true → m.sameSlot b = false → ms.filter m.sameSlot = [m] := by
  have hspec := firstRepeated?_spec (pairwise_arrange ms)
  cases hfound : firstRepeated? (arrange ms) with
  | none =>
    refine ⟨nofun, fun ⟨hb, _⟩ => ?_⟩
    have hmem : b ∈ ms := List.mem_of_mem_filter (List.mem_of_getElem? hb)
    rw [firstRepeated?_arrange_eq_none_iff.mp hfound b hmem] at hb
    exact absurd hb (by simp)
  | some x =>
    rw [hfound] at hspec
    simp only [Finding, filter_sameSlot_arrange, mem_arrange] at hspec
    have hx : x ∈ ms := List.mem_of_mem_filter (List.mem_of_getElem? hspec.1)
    constructor
    · intro h
      rw [← Option.some.inj h]
      exact hspec
    · rintro ⟨hb, hbefore⟩
      have hmem : b ∈ ms := List.mem_of_mem_filter (List.mem_of_getElem? hb)
      -- of two different slots one is before the other, and so has no second member
      have hsame : x.sameSlot b = true := by
        rw [← Bool.not_eq_false]
        intro hne
        rcases Bool.or_eq_true_iff.mp (slotLe_total x b) with hle | hle
        · rw [hbefore x hx hle hne] at hspec
          exact absurd hspec.1 (by simp)
        · have hne' : b.sameSlot x = false := by
            rw [Bool.eq_false_iff]
            intro h
            rw [sameSlot_comm h] at hne
            exact absurd hne (by simp)
          rw [hspec.2 b hmem hle hne'] at hb
          exact absurd hb (by simp)
      have hfirst := hspec.1
      rw [sameSlot_congr hsame, hb] at hfirst
      rw [hfirst]

end AccessorGen.Member
