import AccessorGen.Proofs.Member.Generated
import AccessorGen.Proofs.Member.Slots

/-!
# What becomes of a class

A class can fail to become a unit for three reasons, found at three places: a field out of reach when
its members are generated, a nested class when they are composed, a repeated slot once they are
arranged. Here the three are read off the class itself, for any class at all, also one whose fields
share names.

Fields of one name share an ordinal, that of the first instance field of the name, so a slot is
repeated exactly when two fields with an accessor of the same kind share a name
(`secondNamed?_eq_none_iff`), and the first repeated slot belongs to the first of those names.
-/

set_option autoImplicit false

namespace AccessorGen

namespace ClassDecl

variable {c : ClassDecl}

/-! ## Shared names -/

/-- The second of the fields that share a name, of the first name of the class that any share. -/
def secondNamed? (c : ClassDecl) (fs : List FieldDecl) : Option FieldDecl :=
  c.instanceNames.findSome? fun name => (fs.filter fun f => f.name == name)[1]?

theorem length_filter_name (fs : List FieldDecl) (name : String) :
    (fs.filter fun f => f.name == name).length = (fs.map (·.name)).count name := by
  rw [List.count, List.countP_map, List.countP_eq_length_filter]
  rfl

/-- **No field is found exactly when the names differ.** -/
theorem secondNamed?_eq_none_iff {fs : List FieldDecl} (hfs : ∀ f ∈ fs, f ∈ c.instanceFields) :
    c.secondNamed? fs = none ↔ (fs.map (·.name)).Nodup := by
  rw [secondNamed?, List.findSome?_eq_none_iff, List.nodup_iff_count]
  constructor
  · intro h name
    by_cases hname : name ∈ fs.map (·.name)
    · obtain ⟨f, hf, rfl⟩ := List.mem_map.mp hname
      have hnone := h f.name (List.mem_map_of_mem (hfs f hf))
      rw [List.getElem?_eq_none_iff, length_filter_name] at hnone
      exact hnone
    · rw [List.count_eq_zero_of_not_mem hname]
      exact Nat.zero_le _
  · intro h name _
    rw [List.getElem?_eq_none_iff, length_filter_name]
    exact h name

theorem filter_name_eq_singleton {fs : List FieldDecl} {f : FieldDecl} (hf : f ∈ fs)
    (h : (fs.filter fun g => g.name == f.name)[1]? = none) :
    (fs.filter fun g => g.name == f.name) = [f] := by
  have hmem : f ∈ fs.filter fun g => g.name == f.name := List.mem_filter.mpr ⟨hf, by simp⟩
  cases hfilter : fs.filter fun g => g.name == f.name with
  | nil =>
    rw [hfilter] at hmem
    exact absurd hmem List.not_mem_nil
  | cons a rest =>
    rw [hfilter] at hmem h
    cases rest with
    | nil => rw [List.mem_singleton.mp hmem]
    | cons b rest => exact absurd h (by simp)

/-- Two instance fields have one place exactly when they have one name. -/
theorem instanceIndex?_eq_iff {f g : FieldDecl} (hf : f ∈ c.instanceFields)
    (hg : g ∈ c.instanceFields) :
    (c.instanceIndex? f.name).getD 0 = (c.instanceIndex? g.name).getD 0 ↔ f.name = g.name := by
  obtain ⟨i, hi⟩ := exists_instanceIndex? hf
  obtain ⟨j, hj⟩ := exists_instanceIndex? hg
  refine ⟨fun h => ?_, fun h => by rw [h]⟩
  rw [hi, hj, Option.getD_some, Option.getD_some] at h
  subst h
  obtain ⟨hlt, hf', -⟩ := List.idxOf?_eq_some_iff.mp hi
  obtain ⟨_, hg', -⟩ := List.idxOf?_eq_some_iff.mp hj
  exact hf'.symm.trans hg'

/-- What `secondNamed?` finds is the second field of its name, and the names at the places before it
are not shared. -/
theorem secondNamed?_spec {fs : List FieldDecl} {f : FieldDecl} (h : c.secondNamed? fs = some f) :
    (fs.filter fun g => g.name == f.name)[1]? = some f ∧
      ∀ g ∈ c.instanceFields,
        (c.instanceIndex? g.name).getD 0 < (c.instanceIndex? f.name).getD 0 →
        (fs.filter fun k => k.name == g.name)[1]? = none := by
  obtain ⟨before, name, after, hnames, hf, hbefore⟩ := List.findSome?_eq_some_iff.mp h
  have hname : name = f.name := by
    have hmem := List.mem_of_getElem? hf
    exact (beq_iff_eq.mp (List.mem_filter.mp hmem).2).symm
  subst hname
  refine ⟨hf, fun g hg hlt => ?_⟩
  obtain ⟨j, hj⟩ := exists_instanceIndex? hg
  have hmem : f.name ∈ c.instanceNames := by simp [hnames]
  obtain ⟨i, hi⟩ := Option.isSome_iff_exists.mp (List.isSome_idxOf?.mpr hmem)
  have hi' : c.instanceIndex? f.name = some i := hi
  rw [hj, hi', Option.getD_some, Option.getD_some] at hlt
  obtain ⟨_, _, hfirst⟩ := List.idxOf?_eq_some_iff.mp hi
  obtain ⟨hlen, hg', -⟩ := List.idxOf?_eq_some_iff.mp hj
  -- the first place of the name is not behind the place at which it was met
  have hle : i ≤ before.length := by
    rw [← Nat.not_lt]
    intro hlt'
    exact hfirst before.length hlt' (by simp [hnames])
  have hgbefore : g.name ∈ before := by
    have hget : c.instanceNames[j]? = some g.name := by
      rw [List.getElem?_eq_getElem hlen]
      exact congrArg some hg'
    rw [hnames, List.getElem?_append_left (by omega)] at hget
    exact List.mem_of_getElem? hget
  exact hbefore g.name hgbefore

end ClassDecl

namespace Config

variable {config : Config} {c : ClassDecl}

/-! ## The slots of the requests -/

/-- The members that share the slot of a request's member. -/
theorem filter_members (config : Config) (c : ClassDecl) (r : Request) :
    (c.requests.map (config.member c)).filter (config.member c r).sameSlot =
      (c.requests.filter fun s => r.kind == s.kind && c.ordinalOf r == c.ordinalOf s).map
        (config.member c) := by
  rw [List.filter_map]
  rfl

/-- Of the requests of a class only those of one kind can share a slot. -/
theorem filter_requests (c : ClassDecl) (k : MemberKind) (i : Nat) :
    (c.requests.filter fun s => k == s.kind && i == c.ordinalOf s) =
      (c.requestsOf k).filter fun s => k == s.kind && i == c.ordinalOf s := by
  have hother : ∀ {j : MemberKind}, j ≠ k →
      ((c.requestsOf j).filter fun s => k == s.kind && i == c.ordinalOf s) = [] := by
    intro j hj
    rw [List.filter_eq_nil_iff]
    intro s hs
    simp [ClassDecl.kind_of_mem_requestsOf hs, Ne.symm hj]
  rw [ClassDecl.requests_eq, List.filter_append, List.filter_append, List.filter_append]
  cases k with
  | constructor => simp [hother (j := .read), hother (j := .write), hother (j := .stringify)]
  | read => simp [hother (j := .constructor), hother (j := .write), hother (j := .stringify)]
  | write => simp [hother (j := .constructor), hother (j := .read), hother (j := .stringify)]
  | stringify => simp [hother (j := .constructor), hother (j := .read), hother (j := .write)]

/-- The factory and the string form are alone in their slots. -/
theorem filter_members_of_no_field {r : Request} (hr : r ∈ c.requests)
    (hk : r.kind = .constructor ∨ r.kind = .stringify) :
    (c.requests.map (config.member c)).filter (config.member c r).sameSlot =
      [config.member c r] := by
  rw [filter_members, filter_requests]
  rcases ClassDecl.mem_requests.mp hr with ⟨hm, rfl⟩ | ⟨f, _, rfl⟩ | ⟨f, _, rfl⟩ | ⟨hm, rfl⟩
  · simp [Request.kind, ClassDecl.requestsOf, hm]
  · exact absurd hk (by simp [Request.kind])
  · exact absurd hk (by simp [Request.kind])
  · simp [Request.kind, ClassDecl.requestsOf, hm]

/-- The accessors of one kind share a slot where the fields share a name. -/
theorem filter_members_accessor {request : FieldDecl → Request} {fs : List FieldDecl}
    (h : c.Accessors request fs) {f : FieldDecl} (hf : f ∈ c.instanceFields) :
    (c.requests.map (config.member c)).filter (config.member c (request f)).sameSlot =
      ((fs.filter fun g => g.name == f.name).map request).map (config.member c) := by
  rw [filter_members, filter_requests, h.requests, List.filter_map]
  congr 2
  refine List.filter_congr fun g hg => ?_
  have hsame := ClassDecl.instanceIndex?_eq_iff hf (h.sublist.subset hg)
  simp only [Function.comp_apply, h.kind f g, beq_self_eq_true, Bool.true_and, h.ordinal]
  rw [Bool.eq_iff_iff, beq_iff_eq, beq_iff_eq, hsame, eq_comm]

/-- An accessor is alone in its slot where the name is not shared. -/
theorem filter_members_accessor_of_none {request : FieldDecl → Request} {fs : List FieldDecl}
    (h : c.Accessors request fs) {f : FieldDecl} (hf : f ∈ fs)
    (hnone : (fs.filter fun g => g.name == f.name)[1]? = none) :
    (c.requests.map (config.member c)).filter (config.member c (request f)).sameSlot =
      [config.member c (request f)] := by
  rw [filter_members_accessor h (h.sublist.subset hf), ClassDecl.filter_name_eq_singleton hf hnone]
  rfl

/-- A member is alone in its slot, unless it is an accessor whose name is shared. -/
theorem filter_members_of_none {r : Request} (hr : r ∈ c.requests)
    (hread : ∀ f ∈ c.readFields, r = .read f →
      (c.readFields.filter fun g => g.name == f.name)[1]? = none)
    (hwrite : ∀ f ∈ c.writeFields, r = .write f →
      (c.writeFields.filter fun g => g.name == f.name)[1]? = none) :
    (c.requests.map (config.member c)).filter (config.member c r).sameSlot =
      [config.member c r] := by
  rcases ClassDecl.mem_requests.mp hr with ⟨_, rfl⟩ | ⟨f, hf, rfl⟩ | ⟨f, hf, rfl⟩ | ⟨_, rfl⟩
  · exact filter_members_of_no_field hr (Or.inl rfl)
  · exact filter_members_accessor_of_none c.accessors_read hf (hread f hf rfl)
  · exact filter_members_accessor_of_none c.accessors_write hf (hwrite f hf rfl)
  · exact filter_members_of_no_field hr (Or.inr rfl)

/-! ## The repeated slot -/

/-- The request whose member is the second of its slot, reads before writes. -/
def repeatedRequest? (c : ClassDecl) : Option Request :=
  match c.secondNamed? c.readFields with
  | some f => some (.read f)
  | none => (c.secondNamed? c.writeFields).map .write

theorem getElem?_one_of_secondNamed?_eq_none {fs : List FieldDecl} {f : FieldDecl}
    (h : c.secondNamed? fs = none) (hf : f ∈ c.instanceFields) :
    (fs.filter fun g => g.name == f.name)[1]? = none :=
  List.findSome?_eq_none_iff.mp h f.name (List.mem_map_of_mem hf)

theorem rank_le_of_slotLe (r s : Request)
    (h : (config.member c r).slotLe (config.member c s) = true) : r.kind.rank ≤ s.kind.rank := by
  rcases Member.slotLe_iff.mp h with h | h
  · exact Nat.le_of_lt h
  · exact Nat.le_of_eq h.1

/-- Two slots of one kind are in the order of their places. -/
theorem ordinal_lt_of_slotLe (r s : Request) (hk : r.kind = s.kind)
    (hle : (config.member c r).slotLe (config.member c s) = true)
    (hne : (config.member c r).sameSlot (config.member c s) = false) :
    c.ordinalOf r < c.ordinalOf s := by
  rw [Member.slotLe_iff] at hle
  have hkind : (config.member c r).kind = (config.member c s).kind := hk
  rw [hkind] at hle
  have hle' : c.ordinalOf r ≤ c.ordinalOf s := by
    rcases hle with hle | hle
    · exact absurd hle (Nat.lt_irrefl _)
    · exact hle.2
  refine Nat.lt_of_le_of_ne hle' fun he => ?_
  rw [Member.sameSlot_iff.mpr ⟨hkind, he⟩] at hne
  exact absurd hne (by simp)

/-- The second of two accessors of one name is what is found, if none of a slot before it is. -/
theorem firstRepeated?_members_of_secondNamed? (config : Config)
    {request : FieldDecl → Request} {fs : List FieldDecl} (h : c.Accessors request fs) {f : FieldDecl}
    (hsecond : (fs.filter fun g => g.name == f.name)[1]? = some f)
    (hbefore : ∀ r ∈ c.requests,
      (config.member c r).slotLe (config.member c (request f)) = true →
      (config.member c r).sameSlot (config.member c (request f)) = false →
      (c.requests.map (config.member c)).filter (config.member c r).sameSlot =
        [config.member c r]) :
    Member.firstRepeated? (Member.arrange (c.requests.map (config.member c))) =
      some (config.member c (request f)) := by
  have hf : f ∈ fs := List.mem_of_mem_filter (List.mem_of_getElem? hsecond)
  refine Member.firstRepeated?_arrange_eq_some_iff.mpr ⟨?_, ?_⟩
  · rw [filter_members_accessor h (h.sublist.subset hf), List.getElem?_map, List.getElem?_map,
      hsecond]
    rfl
  · intro m hm hle hne
    obtain ⟨r, hr, rfl⟩ := List.mem_map.mp hm
    exact hbefore r hr hle hne

/-- **The member found in a repeated slot,** read off the names. -/
theorem firstRepeated?_members (config : Config) (c : ClassDecl) :
    Member.firstRepeated? (Member.arrange (c.requests.map (config.member c))) =
      (repeatedRequest? c).map (config.member c) := by
  have hreads := c.accessors_read.sublist.subset
  have hwrites := c.accessors_write.sublist.subset
  rw [repeatedRequest?]
  cases hread : c.secondNamed? c.readFields with
  | some f =>
    obtain ⟨hsecond, hfirst⟩ := ClassDecl.secondNamed?_spec hread
    refine firstRepeated?_members_of_secondNamed? config c.accessors_read hsecond ?_
    intro r hr hle hne
    refine filter_members_of_none hr ?_ ?_
    · rintro g hg rfl
      exact hfirst g (hreads hg) (ordinal_lt_of_slotLe (.read g) (.read f) rfl hle hne)
    · -- writes are behind all reads
      rintro g hg rfl
      exact absurd (rank_le_of_slotLe (.write g) (.read f) hle) (show ¬2 ≤ 1 by decide)
  | none =>
    have hnoRead := fun g (hg : g ∈ c.readFields) =>
      getElem?_one_of_secondNamed?_eq_none hread (hreads hg)
    cases hwrite : c.secondNamed? c.writeFields with
    | some f =>
      obtain ⟨hsecond, hfirst⟩ := ClassDecl.secondNamed?_spec hwrite
      refine firstRepeated?_members_of_secondNamed? config c.accessors_write hsecond ?_
      intro r hr hle hne
      refine filter_members_of_none hr (fun g hg _ => hnoRead g hg) ?_
      rintro g hg rfl
      exact hfirst g (hwrites hg) (ordinal_lt_of_slotLe (.write g) (.write f) rfl hle hne)
    | none =>
      refine Member.firstRepeated?_arrange_eq_none_iff.mpr fun m hm => ?_
      obtain ⟨r, hr, rfl⟩ := List.mem_map.mp hm
      exact filter_members_of_none hr (fun g hg _ => hnoRead g hg) fun g hg _ =>
        getElem?_one_of_secondNamed?_eq_none hwrite (hwrites hg)

/-! ## The outcome -/

theorem requests_eq_nil_iff {c : ClassDecl} :
    c.requests = [] ↔
      c.markers.allArgsConstructor = false ∧ c.markers.stringForm = false ∧ c.readFields = [] ∧
        c.writeFields = [] := by
  rw [ClassDecl.requests]
  cases c.markers.allArgsConstructor <;> cases c.markers.stringForm <;> simp

theorem find?_hides_augment (h : config.strategy.isCompanion = false) (fs : List FieldDecl) :
    fs.find? config.hides = none := by
  rw [List.find?_eq_none]
  intro f _
  simp [hides, h]

theorem find?_hides_companion (h : config.strategy.isCompanion = true) (fs : List FieldDecl) :
    fs.find? config.hides = fs.find? (·.isPrivate) := by
  have hsame : config.hides = (·.isPrivate) := by
    funext f
    simp [hides, h]
  rw [hsame]

/-- The unit of a class: its name, the members of its requests by slot, and their source. -/
def unitOf (config : Config) (c : ClassDecl) : SourceUnit where
  name := c.unitName config.strategy
  members := Member.arrange (c.requests.map (config.member c))
  source := config.render c (Member.arrange (c.requests.map (config.member c)))

/-- Composing the members of a class fails for a nested class, and for a repeated slot. -/
theorem composeUnit_members (h : c.requests ≠ []) :
    config.composeUnit c (c.requests.map (config.member c)) =
      if c.isNested && !config.strategy.isCompanion then .error (.nestedClass c.qualifiedName)
      else
        match repeatedRequest? c with
        | some r => .error (.duplicateMember c.qualifiedName (config.method c r).name)
        | none => .ok (some (config.unitOf c)) := by
  have hne : (c.requests.map (config.member c)).isEmpty = false := by
    rw [List.isEmpty_eq_false_iff, ne_eq, List.map_eq_nil_iff]
    exact h
  rw [composeUnit, hne, if_neg Bool.false_ne_true]
  dsimp only
  rw [firstRepeated?_members]
  cases repeatedRequest? c <;> rfl

/-- With every field in reach, and not nested where that counts, a class fails at a repeated slot or
not at all. -/
theorem classUnit_of_reach (hne : c.requests ≠ [])
    (hreach : config.strategy.isCompanion = true → ∀ f ∈ c.touchedFields, f.isPrivate = false)
    (hflat : config.strategy.isCompanion = false → c.isNested = false) :
    config.classUnit c =
      match repeatedRequest? c with
      | some r => .error (.duplicateMember c.qualifiedName (config.method c r).name)
      | none => .ok (some (config.unitOf c)) := by
  have hfound : c.touchedFields.find? config.hides = none := by
    cases hs : config.strategy.isCompanion with
    | true =>
      rw [find?_hides_companion hs, List.find?_eq_none]
      intro f hf
      simp [hreach hs f hf]
    | false => exact find?_hides_augment hs _
  have hcondition : (c.isNested && !config.strategy.isCompanion) = false := by
    cases hs : config.strategy.isCompanion with
    | true => simp
    | false => simp [hflat hs]
  rw [classUnit_eq, hfound, Option.elim_none, composeUnit_members hne, hcondition,
    if_neg Bool.false_ne_true]

theorem secondNamed?_readFields_eq_none_iff :
    c.secondNamed? c.readFields = none ↔ (c.readFields.map (·.name)).Nodup :=
  ClassDecl.secondNamed?_eq_none_iff fun _ hf => ClassDecl.mem_instanceFields_of_mem_readFields hf

theorem secondNamed?_writeFields_eq_none_iff :
    c.secondNamed? c.writeFields = none ↔ (c.writeFields.map (·.name)).Nodup :=
  ClassDecl.secondNamed?_eq_none_iff fun _ hf => ClassDecl.mem_instanceFields_of_mem_writeFields hf

theorem repeatedRequest?_eq_none (hr : (c.readFields.map (·.name)).Nodup)
    (hw : (c.writeFields.map (·.name)).Nodup) : repeatedRequest? c = none := by
  rw [repeatedRequest?, secondNamed?_readFields_eq_none_iff.mpr hr,
    secondNamed?_writeFields_eq_none_iff.mpr hw]
  rfl

/-- Different names leave no slot to be repeated. -/
theorem repeatedRequest?_of_nodup (hn : c.instanceNames.Nodup) : repeatedRequest? c = none :=
  repeatedRequest?_eq_none (hn.sublist (List.filter_sublist.map _))
    (hn.sublist (List.filter_sublist.map _))

/-- With different names two of the reasons are left. -/
theorem classUnit_of_nodup (config : Config) (hn : c.instanceNames.Nodup) :
    config.classUnit c =
      if c.requests = [] then .ok none
      else
        match c.touchedFields.find? config.hides with
        | some f => .error (inaccessible c f)
        | none =>
          if c.isNested && !config.strategy.isCompanion then .error (.nestedClass c.qualifiedName)
          else .ok (some (config.unitOf c)) := by
  rw [classUnit_eq]
  by_cases hne : c.requests = []
  · have htouched : c.touchedFields = [] := by
      rw [← ClassDecl.flatMap_fields_requests, hne]
      rfl
    rw [if_pos hne, htouched, hne]
    rfl
  · rw [if_neg hne, composeUnit_members hne, repeatedRequest?_of_nodup hn]
    cases c.touchedFields.find? config.hides <;> rfl

/-- With every field in reach as well, a class that asks for anything has a unit, if it is not nested where
that counts. -/
theorem classUnit_eq_unitOf (hn : c.instanceNames.Nodup) (hne : c.requests ≠ [])
    (hreach : config.strategy.isCompanion = true → ∀ f ∈ c.touchedFields, f.isPrivate = false)
    (hflat : config.strategy.isCompanion = false → c.isNested = false) :
    config.classUnit c = .ok (some (config.unitOf c)) := by
  rw [classUnit_of_reach hne hreach hflat, repeatedRequest?_of_nodup hn]

theorem eq_unitOf_of_classUnit (hn : c.instanceNames.Nodup) {u : SourceUnit}
    (h : config.classUnit c = .ok (some u)) : u = config.unitOf c ∧ c.requests ≠ [] := by
  rw [classUnit_of_nodup config hn] at h
  split at h
  · cases h
  · next hne =>
    split at h
    · cases h
    · split at h
      · cases h
      · cases h
        exact ⟨rfl, hne⟩

theorem requests_eq_nil_of_classUnit (hn : c.instanceNames.Nodup)
    (h : config.classUnit c = .ok none) : c.requests = [] := by
  rw [classUnit_of_nodup config hn] at h
  split at h
  · next hnil => exact hnil
  · split at h
    · cases h
    · split at h <;> cases h

/-- **The outcome of generating a class.** Nothing asked for gives nothing. Otherwise the reasons to
fail are tried in this order: a private field that a companion would have to reach, the first in the
order of the members; a nested class that would be written out itself; two fields that share both a
name and a kind of accessor, where the second of the first shared name is reported, reads before
writes. Where none applies there is a unit, and it has a member for every request. -/
theorem classUnit_outcome (config : Config) (c : ClassDecl) :
    (c.markers.allArgsConstructor = false ∧ c.markers.stringForm = false ∧ c.readFields = [] ∧
        c.writeFields = [] →
      config.classUnit c = .ok none) ∧
    (¬(c.markers.allArgsConstructor = false ∧ c.markers.stringForm = false ∧ c.readFields = [] ∧
        c.writeFields = []) →
      (∀ f, config.strategy.isCompanion = true → c.touchedFields.find? (·.isPrivate) = some f →
        config.classUnit c = .error (.inaccessibleField c.qualifiedName f.name)) ∧
      (config.strategy.isCompanion = false → c.isNested = true →
        config.classUnit c = .error (.nestedClass c.qualifiedName)) ∧
      ((config.strategy.isCompanion = true → ∀ f ∈ c.touchedFields, f.isPrivate = false) →
        (config.strategy.isCompanion = false → c.isNested = false) →
        (¬(c.readFields.map (·.name)).Nodup →
          ∃ f, c.secondNamed? c.readFields = some f ∧
            config.classUnit c = .error (.duplicateMember c.qualifiedName f.readerName)) ∧
        ((c.readFields.map (·.name)).Nodup → ¬(c.writeFields.map (·.name)).Nodup →
          ∃ f, c.secondNamed? c.writeFields = some f ∧
            config.classUnit c = .error (.duplicateMember c.qualifiedName f.writerName)) ∧
        ((c.readFields.map (·.name)).Nodup → (c.writeFields.map (·.name)).Nodup →
          config.classUnit c = .ok (some (config.unitOf c))))) := by
  rw [← requests_eq_nil_iff]
  refine ⟨fun h => ?_, fun hne => ⟨fun f hs hf => ?_, fun hs hn => ?_, fun hp hn => ?_⟩⟩
  · have htouched : c.touchedFields = [] := by
      rw [← ClassDecl.flatMap_fields_requests, h]
      rfl
    rw [classUnit_eq, htouched, h]
    rfl
  · rw [classUnit_eq, find?_hides_companion hs, hf]
    rfl
  · rw [classUnit_eq, find?_hides_augment hs, Option.elim_none, composeUnit_members hne, hn, hs]
    rfl
  · rw [classUnit_of_reach hne hp hn]
    refine ⟨fun hr => ?_, fun hr hw => ?_, fun hr hw => ?_⟩
    · rw [← secondNamed?_readFields_eq_none_iff] at hr
      obtain ⟨f, hf⟩ := Option.ne_none_iff_exists'.mp hr
      refine ⟨f, hf, ?_⟩
      rw [repeatedRequest?, hf]
      rfl
    · rw [← secondNamed?_writeFields_eq_none_iff] at hw
      obtain ⟨f, hf⟩ := Option.ne_none_iff_exists'.mp hw
      refine ⟨f, hf, ?_⟩
      rw [repeatedRequest?, secondNamed?_readFields_eq_none_iff.mpr hr, hf]
      rfl
    · rw [repeatedRequest?_eq_none hr hw]

end Config

end AccessorGen
