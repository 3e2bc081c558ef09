import AccessorGen.Member
import Mathlib.Data.Finset.Card
import Mathlib.Data.Finset.Range
import Mathlib.Data.Nat.Find
import Mathlib.Order.Bounds.Basic

/-!
# The name of the object

The search for the name of the object is a loop that nothing bounds: as long as an instance field has the
name, an underscore goes in front of it. `FreshSearch` is that loop as it runs. The names that it tries are
all different and those that it passes over are all taken, so there are no more rounds than different names
of instance fields. The number of steps that `freshFrom` is given is never what stops it
(`freshFrom_of_search`), and the loop ends with the first of the names tried that is free.
-/

set_option autoImplicit false

namespace AccessorGen

/-- The name behind so many underscores. -/
def behind (underscores : Nat) (name : String) : String :=
  String.ofList (List.replicate underscores '_') ++ name

/-- The search, run to its end: from the name on it takes so many rounds, each of which meets a taken name
and puts an underscore in front of it, and ends at the name found, which is free. -/
inductive FreshSearch (taken : List String) : String → Nat → String → Prop
  | stop {name : String} (free : name ∉ taken) : FreshSearch taken name 0 name
  | round {name found : String} {rounds : Nat} (met : name ∈ taken)
      (rest : FreshSearch taken ("_" ++ name) rounds found) : FreshSearch taken name (rounds + 1) found

variable {taken : List String} {name found : String} {rounds : Nat}

/-! ## The names tried -/

@[simp] theorem behind_zero (name : String) : behind 0 name = name := by simp [behind]

theorem behind_succ (k : Nat) (name : String) : behind (k + 1) name = behind k ("_" ++ name) := by
  rw [← String.toList_inj]
  simp [behind, List.replicate_succ']

theorem length_behind (k : Nat) (name : String) : (behind k name).length = k + name.length := by
  simp [behind]

theorem behind_injective (name : String) {j k : Nat} (h : behind j name = behind k name) : j = k := by
  have hlength := congrArg String.length h
  rw [length_behind, length_behind] at hlength
  omega

/-- The numbers of underscores behind which the name is free. -/
def freeBehind (taken : List String) (name : String) : Set Nat := {k | behind k name ∉ taken}

theorem mem_freeBehind {k : Nat} : k ∈ freeBehind taken name ↔ behind k name ∉ taken := Iff.rfl

theorem zero_mem_freeBehind : 0 ∈ freeBehind taken name ↔ name ∉ taken := by
  rw [mem_freeBehind, behind_zero]

theorem succ_mem_freeBehind {k : Nat} :
    k + 1 ∈ freeBehind taken name ↔ k ∈ freeBehind taken ("_" ++ name) := by
  rw [mem_freeBehind, mem_freeBehind, behind_succ]

/-- **No more names are passed over than there are different names taken.** -/
theorem le_card_of_taken {n : Nat} (h : ∀ k < n, behind k name ∈ taken) : n ≤ taken.toFinset.card := by
  have hmaps : ∀ k ∈ Finset.range n, behind k name ∈ taken.toFinset := by
    intro k hk
    exact List.mem_toFinset.mpr (h k (Finset.mem_range.mp hk))
  have hinjective : Set.InjOn (behind · name) (Finset.range n) := by
    intro j _ k _ hjk
    exact behind_injective name hjk
  simpa using Finset.card_le_card_of_injOn (behind · name) hmaps hinjective

theorem le_card_of_isLeast (h : IsLeast (freeBehind taken name) rounds) :
    rounds ≤ taken.toFinset.card := by
  apply le_card_of_taken
  intro k hk
  by_contra hfree
  exact absurd (h.2 hfree) (Nat.not_le_of_lt hk)

theorem exists_isLeast_freeBehind (taken : List String) (name : String) :
    ∃ rounds, IsLeast (freeBehind taken name) rounds := by
  have hsome : ∃ k, k ∈ freeBehind taken name := by
    by_contra hnone
    have hall : ∀ k < taken.toFinset.card + 1, behind k name ∈ taken := by
      intro k _
      by_contra hfree
      exact hnone ⟨k, hfree⟩
    exact absurd (le_card_of_taken hall) (Nat.not_succ_le_self _)
  classical
  exact ⟨Nat.find hsome, Nat.find_spec hsome, fun k hk => Nat.find_min' hsome hk⟩

/-! ## The search -/

/-- What the rounds of a search establish: it ends behind as many underscores as there were rounds, and
behind fewer of them the name is taken. -/
theorem FreshSearch.isLeast (h : FreshSearch taken name rounds found) :
    found = behind rounds name ∧ IsLeast (freeBehind taken name) rounds := by
  induction h with
  | @stop name free =>
    exact ⟨(behind_zero name).symm, zero_mem_freeBehind.mpr free, fun k _ => Nat.zero_le k⟩
  | @round name found rounds met rest ih =>
    obtain ⟨hfound, hfree, hleast⟩ := ih
    refine ⟨by rw [behind_succ, hfound], succ_mem_freeBehind.mpr hfree, fun k hk => ?_⟩
    cases k with
    | zero => exact absurd met (zero_mem_freeBehind.mp hk)
    | succ k => exact Nat.succ_le_succ (hleast (succ_mem_freeBehind.mp hk))

/-- The search goes as far as it has to. -/
theorem freshSearch_of_isLeast (h : IsLeast (freeBehind taken name) rounds) :
    FreshSearch taken name rounds (behind rounds name) := by
  -- on the number of underscores, the first of which goes in front of the name at once
  induction rounds generalizing name with
  | zero =>
    rw [behind_zero]
    exact .stop (zero_mem_freeBehind.mp h.1)
  | succ rounds ih =>
    have hmet : name ∈ taken := by
      by_contra hfree
      exact absurd (h.2 (zero_mem_freeBehind.mpr hfree)) (Nat.not_succ_le_zero rounds)
    rw [behind_succ]
    refine .round hmet (ih ⟨succ_mem_freeBehind.mp h.1, fun k hk => ?_⟩)
    exact Nat.le_of_succ_le_succ (h.2 (succ_mem_freeBehind.mpr hk))

/-- Given at least as many steps as the search takes rounds, the function finds what the search does. -/
theorem freshFrom_of_search (h : FreshSearch taken name rounds found) {steps : Nat}
    (hsteps : rounds ≤ steps) : freshFrom taken steps name = found := by
  induction h generalizing steps with
  | stop free =>
    cases steps with
    | zero => rfl
    | succ steps => simp [freshFrom, free]
  | round met rest ih =>
    cases steps with
    | zero => exact absurd hsteps (Nat.not_succ_le_zero _)
    | succ steps =>
      rw [freshFrom, if_pos (by simpa using met)]
      exact ih (Nat.le_of_succ_le_succ hsteps)

namespace ClassDecl

theorem objectName_of_isLeast {c : ClassDecl}
    (h : IsLeast (freeBehind c.instanceNames "instance") rounds) :
    c.objectName = behind rounds "instance" :=
  freshFrom_of_search (freshSearch_of_isLeast h)
    ((le_card_of_isLeast h).trans (List.toFinset_card_le c.instanceNames))

theorem mem_instanceNames {c : ClassDecl} {name : String} :
    name ∈ c.instanceNames ↔ ∃ f ∈ c.fields, f.isStatic = false ∧ f.name = name := by
  simp [instanceNames, instanceFields, and_assoc]

/-- **The object has the least name that is free.** The search for it ends, and in one way only, after no
more rounds than there are different names of instance fields. It goes by these names alone: how many
fields have one of them makes no difference, nor do the static fields. -/
theorem objectName_search (c : ClassDecl) :
    ∃ rounds ≤ c.instanceNames.toFinset.card,
      (∀ n found, FreshSearch c.instanceNames "instance" n found ↔
        n = rounds ∧ found = c.objectName) ∧
      c.objectName = behind rounds "instance" ∧
      IsLeast {k | behind k "instance" ∉ c.instanceNames} rounds ∧
      ∀ d : ClassDecl,
        (∀ name, (∃ f ∈ d.fields, f.isStatic = false ∧ f.name = name) ↔
          ∃ f ∈ c.fields, f.isStatic = false ∧ f.name = name) →
        d.objectName = c.objectName := by
  obtain ⟨rounds, hleast⟩ := exists_isLeast_freeBehind c.instanceNames "instance"
  have hname := objectName_of_isLeast hleast
  refine ⟨rounds, le_card_of_isLeast hleast, fun n found => ⟨fun hsearch => ?_, ?_⟩, hname, hleast,
    fun d hd => ?_⟩
  · obtain ⟨rfl, hn⟩ := hsearch.isLeast
    obtain rfl := hn.unique hleast
    exact ⟨rfl, hname.symm⟩
  · rintro ⟨rfl, rfl⟩
    rw [hname]
    exact freshSearch_of_isLeast hleast
  · have hsame : freeBehind d.instanceNames "instance" = freeBehind c.instanceNames "instance" := by
      ext k
      rw [mem_freeBehind, mem_freeBehind, mem_instanceNames, mem_instanceNames, hd]
    rw [hname]
    exact objectName_of_isLeast (hsame ▸ hleast)

/-- The name of a static field is free, and a name is passed over once however many fields have it. -/
example : ClassDecl.objectName
    { qualifiedName := "Depot"
      simpleName := "Depot"
      fields := [{ name := "instance", type := "int" }, { name := "instance", type := "long" },
        { name := "_instance", type := "int", isStatic := true }] } = "_instance" := by decide

end ClassDecl

end AccessorGen
