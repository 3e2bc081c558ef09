import AccessorGen.Proofs.Traversal
import AccessorGen.SourceUnit

/-!
# What generation gives

Generating a member can fail in two ways and generating the members of a class in one. A field of a
request is always one of the instance fields, so it is found, and what is left is that a companion's
member would have to reach a private field. The first such field, in the order in which the requests
touch the fields, is the error; without one the members are those of `Config.member`.
-/

set_option autoImplicit false

namespace AccessorGen

namespace ClassDecl

theorem mem_requests {c : ClassDecl} {r : Request} :
    r ∈ c.requests ↔
      (c.markers.allArgsConstructor = true ∧ r = .constructor c.instanceFields) ∨
      (∃ f ∈ c.readFields, r = .read f) ∨ (∃ f ∈ c.writeFields, r = .write f) ∨
      (c.markers.stringForm = true ∧ r = .stringify c.instanceFields) := by
  rw [requests, List.mem_append, List.mem_append, List.mem_append, or_assoc, or_assoc]
  have hreads : r ∈ c.readFields.map Request.read ↔ ∃ f ∈ c.readFields, r = .read f := by
    rw [List.mem_map]
    exact exists_congr fun f => and_congr_right fun _ => eq_comm
  have hwrites : r ∈ c.writeFields.map Request.write ↔ ∃ f ∈ c.writeFields, r = .write f := by
    rw [List.mem_map]
    exact exists_congr fun f => and_congr_right fun _ => eq_comm
  rw [hreads, hwrites]
  cases c.markers.allArgsConstructor <;> cases c.markers.stringForm <;> simp

theorem mem_instanceFields_of_mem_readFields {c : ClassDecl} {f : FieldDecl}
    (h : f ∈ c.readFields) : f ∈ c.instanceFields := (List.mem_filter.mp h).1

theorem mem_instanceFields_of_mem_writeFields {c : ClassDecl} {f : FieldDecl}
    (h : f ∈ c.writeFields) : f ∈ c.instanceFields := (List.mem_filter.mp h).1

/-- A request touches instance fields only. -/
theorem mem_instanceFields_of_mem_requests {c : ClassDecl} {r : Request} (hr : r ∈ c.requests)
    {f : FieldDecl} (hf : f ∈ r.fields) : f ∈ c.instanceFields := by
  rcases mem_requests.mp hr with ⟨_, rfl⟩ | ⟨g, hg, rfl⟩ | ⟨g, hg, rfl⟩ | ⟨_, rfl⟩
  · exact hf
  · rw [List.mem_singleton.mp hf]
    exact mem_instanceFields_of_mem_readFields hg
  · rw [List.mem_singleton.mp hf]
    exact mem_instanceFields_of_mem_writeFields hg
  · exact hf

/-- What the class asks for of one kind. -/
def requestsOf (c : ClassDecl) : MemberKind → List Request
  | .constructor => if c.markers.allArgsConstructor then [.constructor c.instanceFields] else []
  | .read => c.readFields.map .read
  | .write => c.writeFields.map .write
  | .stringify => if c.markers.stringForm then [.stringify c.instanceFields] else []

theorem requests_eq (c : ClassDecl) :
    c.requests = c.requestsOf .constructor ++ c.requestsOf .read ++ c.requestsOf .write ++
      c.requestsOf .stringify := rfl

theorem kind_of_mem_requestsOf {c : ClassDecl} {k : MemberKind} {s : Request}
    (h : s ∈ c.requestsOf k) : s.kind = k := by
  cases k with
  | constructor | stringify =>
    rw [requestsOf] at h
    split at h
    · rw [List.mem_singleton.mp h]
      rfl
    · exact absurd h List.not_mem_nil
  | read | write =>
    obtain ⟨f, -, rfl⟩ := List.mem_map.mp h
    rfl

/-- The fields that the members touch, in the order of the members. -/
def touchedFields (c : ClassDecl) : List FieldDecl :=
  (if c.markers.allArgsConstructor then c.instanceFields else []) ++ c.readFields ++ c.writeFields ++
    (if c.markers.stringForm then c.instanceFields else [])

theorem flatMap_fields_requests (c : ClassDecl) :
    c.requests.flatMap (·.fields) = c.touchedFields := by
  have hsingle : ∀ (request : FieldDecl → Request) (fs : List FieldDecl),
      (∀ f, (request f).fields = [f]) → (fs.map request).flatMap (·.fields) = fs := by
    intro request fs h
    rw [List.flatMap_map, List.flatMap_congr fun f _ => h f, List.flatMap_singleton']
  rw [requests, List.flatMap_append, List.flatMap_append, List.flatMap_append,
    hsingle .read _ fun _ => rfl, hsingle .write _ fun _ => rfl, touchedFields]
  cases c.markers.allArgsConstructor <;> cases c.markers.stringForm <;> simp [Request.fields]

/-- The ordinal of the member that a request asks for. -/
def ordinalOf (c : ClassDecl) : Request → Nat
  | .read f | .write f => (c.instanceIndex? f.name).getD 0
  | .constructor _ | .stringify _ => 0

/-- A way to ask for an accessor of a field, and the fields of the class for which it is asked. -/
structure Accessors (c : ClassDecl) (request : FieldDecl → Request) (fs : List FieldDecl) :
    Prop where
  kind : ∀ f g, (request f).kind = (request g).kind
  ordinal : ∀ f, c.ordinalOf (request f) = (c.instanceIndex? f.name).getD 0
  sublist : fs.Sublist c.instanceFields
  requests : ∀ f, c.requestsOf (request f).kind = fs.map request

theorem accessors_read (c : ClassDecl) : c.Accessors .read c.readFields :=
  ⟨fun _ _ => rfl, fun _ => rfl, List.filter_sublist, fun _ => rfl⟩

theorem accessors_write (c : ClassDecl) : c.Accessors .write c.writeFields :=
  ⟨fun _ _ => rfl, fun _ => rfl, List.filter_sublist, fun _ => rfl⟩

theorem exists_instanceIndex? {c : ClassDecl} {f : FieldDecl} (hf : f ∈ c.instanceFields) :
    ∃ i, c.instanceIndex? f.name = some i := by
  rw [← Option.isSome_iff_exists, instanceIndex?, List.isSome_idxOf?]
  exact List.mem_map_of_mem hf

end ClassDecl

namespace Config

/-- Whether the field is out of the reach of the members. -/
def hides (config : Config) (f : FieldDecl) : Bool := config.strategy.isCompanion && f.isPrivate

/-- The member that a request asks for. -/
def member (config : Config) (c : ClassDecl) (r : Request) : Member where
  kind := r.kind
  name := (config.method c r).name
  ordinal := c.ordinalOf r
  text := (config.method c r).render config.indent config.emitJavadoc

variable {config : Config} {c : ClassDecl}

/-- The error of a field that is out of reach. -/
def inaccessible (c : ClassDecl) (f : FieldDecl) : Error :=
  .inaccessibleField c.qualifiedName f.name

theorem locate_eq (config : Config) {f : FieldDecl} (hf : f ∈ c.instanceFields) :
    config.locate c f =
      (Option.guard config.hides f).elim (.ok ((c.instanceIndex? f.name).getD 0))
        fun g => .error (inaccessible c g) := by
  obtain ⟨i, hi⟩ := ClassDecl.exists_instanceIndex? hf
  rw [locate, hi, Option.guard_apply, hides]
  cases config.strategy.isCompanion && f.isPrivate <;> rfl

theorem ordinal_eq {r : Request} (hr : ∀ f ∈ r.fields, f ∈ c.instanceFields) :
    config.ordinal c r =
      (r.fields.find? config.hides).elim (.ok (c.ordinalOf r)) fun f => .error (inaccessible c f) := by
  have hsingle : ∀ f : FieldDecl, [f].find? config.hides = Option.guard config.hides f := by
    intro f
    rw [List.find?_eq_findSome?_guard, List.findSome?_singleton]
  have hall := mapM_eq_of_findSome? fun f hf => locate_eq config (hr f hf)
  rw [List.findSome?_guard] at hall
  cases r with
  | read f =>
    rw [Request.fields, hsingle]
    exact locate_eq config (hr f (List.mem_singleton.mpr rfl))
  | write f =>
    rw [Request.fields, hsingle]
    exact locate_eq config (hr f (List.mem_singleton.mpr rfl))
  | constructor fields =>
    rw [ordinal, show fields.mapM (config.locate c) = _ from hall, Request.fields]
    cases fields.find? config.hides <;> rfl
  | stringify fields =>
    rw [ordinal, show fields.mapM (config.locate c) = _ from hall, Request.fields]
    cases fields.find? config.hides <;> rfl

theorem generateMember_eq {r : Request} (hr : r ∈ c.requests) :
    config.generateMember c r =
      (r.fields.find? config.hides).elim (.ok (config.member c r))
        fun f => .error (inaccessible c f) := by
  rw [generateMember, ordinal_eq fun f hf => ClassDecl.mem_instanceFields_of_mem_requests hr hf]
  cases r.fields.find? config.hides <;> rfl

/-- **The members of a class, or the first field that is out of reach.** -/
theorem mapM_generateMember (config : Config) (c : ClassDecl) :
    c.requests.mapM (config.generateMember c) =
      (c.touchedFields.find? config.hides).elim (.ok (c.requests.map (config.member c)))
        fun f => .error (inaccessible c f) := by
  rw [← ClassDecl.flatMap_fields_requests, List.find?_flatMap]
  exact mapM_eq_of_findSome? fun r hr => generateMember_eq hr

/-- Generating a class is composing those members, unless a field is out of reach. -/
theorem classUnit_eq (config : Config) (c : ClassDecl) :
    config.classUnit c =
      (c.touchedFields.find? config.hides).elim
        (config.composeUnit c (c.requests.map (config.member c)))
        fun f => .error (inaccessible c f) := by
  rw [classUnit, mapM_generateMember]
  cases c.touchedFields.find? config.hides <;> rfl

/-- Where composing gives a unit, the class is not nested unless a companion serves it, and the unit is
that of the arranged members. -/
theorem eq_of_composeUnit {ms : List Member} {u : SourceUnit}
    (h : config.composeUnit c ms = .ok (some u)) :
    u = ⟨c.unitName config.strategy, Member.arrange ms, config.render c (Member.arrange ms)⟩ ∧
      (config.strategy.isCompanion = false → c.isNested = false) := by
  rw [composeUnit] at h
  split at h
  · cases h
  · split at h
    · cases h
    · next hflat =>
      dsimp only at h
      split at h
      · cases h
      · cases h
        refine ⟨rfl, fun hs => ?_⟩
        simpa [hs] using hflat

theorem composeUnit_of_classUnit {u : SourceUnit} (h : config.classUnit c = .ok (some u)) :
    config.composeUnit c (c.requests.map (config.member c)) = .ok (some u) := by
  rw [classUnit_eq] at h
  cases hf : c.touchedFields.find? config.hides with
  | some f =>
    rw [hf] at h
    cases h
  | none =>
    rw [hf] at h
    exact h

/-- The unit of a class has the members that the class asks for, arranged. -/
theorem members_of_classUnit {u : SourceUnit} (h : config.classUnit c = .ok (some u)) :
    u.members = Member.arrange (c.requests.map (config.member c)) := by
  rw [(eq_of_composeUnit (composeUnit_of_classUnit h)).1]

theorem name_of_classUnit {u : SourceUnit} (h : config.classUnit c = .ok (some u)) :
    u.name = c.unitName config.strategy := by
  rw [(eq_of_composeUnit (composeUnit_of_classUnit h)).1]

/-- A class that is written out itself is not nested. -/
theorem isNested_of_classUnit {u : SourceUnit} (h : config.classUnit c = .ok (some u))
    (hs : config.strategy.isCompanion = false) : c.isNested = false :=
  (eq_of_composeUnit (composeUnit_of_classUnit h)).2 hs

theorem mem_members_of_classUnit {u : SourceUnit} (h : config.classUnit c = .ok (some u))
    {m : Member} : m ∈ u.members ↔ ∃ r ∈ c.requests, config.member c r = m := by
  rw [members_of_classUnit h, Member.arrange, List.mem_mergeSort, List.mem_map]

end Config

/-! ## The order of the requests

Where no two instance fields share a name, the requests of a class are in the order of their slots as
they stand, so arranging the members changes nothing. -/

namespace ClassDecl

variable {c : ClassDecl}

theorem instanceIndex?_of_getElem? (hn : c.instanceNames.Nodup) {i : Nat} {f : FieldDecl}
    (h : c.instanceFields[i]? = some f) : c.instanceIndex? f.name = some i := by
  have hi : c.instanceNames[i]? = some f.name := by
    rw [instanceNames, List.getElem?_map, h]
    rfl
  obtain ⟨j, hj⟩ := exists_instanceIndex? (List.mem_of_getElem? h)
  obtain ⟨hlt, hname, -⟩ := List.idxOf?_eq_some_iff.mp hj
  have hsame : c.instanceNames[j]? = c.instanceNames[i]? := by
    rw [hi, List.getElem?_eq_getElem hlt]
    exact congrArg some hname
  rw [hj, (List.getElem?_inj hlt hn).mp hsame]

/-- A field is at the position at which it is looked up. -/
theorem getElem?_instanceIndex? (hn : c.instanceNames.Nodup) {f : FieldDecl}
    (hf : f ∈ c.instanceFields) :
    c.instanceFields[(c.instanceIndex? f.name).getD 0]? = some f := by
  obtain ⟨i, hi⟩ := List.getElem?_of_mem hf
  rw [instanceIndex?_of_getElem? hn hi]
  exact hi

theorem pairwise_instanceIndex? (hn : c.instanceNames.Nodup) :
    c.instanceFields.Pairwise fun f g =>
      (c.instanceIndex? f.name).getD 0 ≤ (c.instanceIndex? g.name).getD 0 := by
  rw [List.pairwise_iff_getElem]
  intro i j hi hj hlt
  rw [instanceIndex?_of_getElem? hn (List.getElem?_eq_getElem hi),
    instanceIndex?_of_getElem? hn (List.getElem?_eq_getElem hj)]
  exact Nat.le_of_lt hlt

end ClassDecl

namespace Config

variable {config : Config} {c : ClassDecl}

theorem slotLe_of_rank {r s : Request} (h : r.kind.rank < s.kind.rank) :
    (config.member c r).slotLe (config.member c s) = true := by
  simp [Member.slotLe, member, h]

theorem slotLe_of_ordinal {r s : Request} (hk : r.kind = s.kind)
    (h : c.ordinalOf r ≤ c.ordinalOf s) :
    (config.member c r).slotLe (config.member c s) = true := by
  simp [Member.slotLe, member, hk, h]

theorem slotLe_of_mem_requestsOf {j k : MemberKind} (hlt : j.rank < k.rank) {r s : Request}
    (hr : r ∈ c.requestsOf j) (hs : s ∈ c.requestsOf k) :
    (config.member c r).slotLe (config.member c s) = true := by
  apply slotLe_of_rank
  rw [ClassDecl.kind_of_mem_requestsOf hr, ClassDecl.kind_of_mem_requestsOf hs]
  exact hlt

/-- The accessors of one kind are in the order of their fields. -/
theorem pairwise_slotLe_accessors (hn : c.instanceNames.Nodup) {request : FieldDecl → Request}
    {fs : List FieldDecl} (h : c.Accessors request fs) :
    (fs.map request).Pairwise
      fun r s => (config.member c r).slotLe (config.member c s) = true := by
  rw [List.pairwise_map]
  refine ((ClassDecl.pairwise_instanceIndex? hn).sublist h.sublist).imp fun {f g} hle => ?_
  apply slotLe_of_ordinal (h.kind f g)
  rw [h.ordinal, h.ordinal]
  exact hle

theorem pairwise_slotLe_requestsOf (hn : c.instanceNames.Nodup) (k : MemberKind) :
    (c.requestsOf k).Pairwise
      fun r s => (config.member c r).slotLe (config.member c s) = true := by
  cases k with
  | read => exact pairwise_slotLe_accessors hn c.accessors_read
  | write => exact pairwise_slotLe_accessors hn c.accessors_write
  | constructor | stringify =>
    rw [ClassDecl.requestsOf]
    split
    · exact List.pairwise_singleton _ _
    · exact List.Pairwise.nil

theorem pairwise_slotLe_requests (hn : c.instanceNames.Nodup) :
    c.requests.Pairwise fun r s => (config.member c r).slotLe (config.member c s) = true := by
  have hparts : ∀ k, (c.requestsOf k).Pairwise
      fun r s => (config.member c r).slotLe (config.member c s) = true :=
    pairwise_slotLe_requestsOf hn
  rw [ClassDecl.requests_eq, List.pairwise_append, List.pairwise_append, List.pairwise_append]
  -- parts of different kinds are in the order of their kinds
  refine ⟨⟨⟨hparts _, hparts _, ?_⟩, hparts _, ?_⟩, hparts _, ?_⟩
  · intro r hr s hs
    exact slotLe_of_mem_requestsOf (by decide) hr hs
  · intro r hr s hs
    rcases List.mem_append.mp hr with hr | hr
    · exact slotLe_of_mem_requestsOf (by decide) hr hs
    · exact slotLe_of_mem_requestsOf (by decide) hr hs
  · intro r hr s hs
    rcases List.mem_append.mp hr with hr | hr
    · rcases List.mem_append.mp hr with hr | hr
      · exact slotLe_of_mem_requestsOf (by decide) hr hs
      · exact slotLe_of_mem_requestsOf (by decide) hr hs
    · exact slotLe_of_mem_requestsOf (by decide) hr hs

/-- **The members of a unit are those of the requests, in their order.** -/
theorem members_eq_of_nodup (hn : c.instanceNames.Nodup) {u : SourceUnit}
    (h : config.classUnit c = .ok (some u)) : u.members = c.requests.map (config.member c) := by
  rw [members_of_classUnit h, Member.arrange]
  exact List.mergeSort_of_pairwise (List.pairwise_map.mpr (pairwise_slotLe_requests hn))

end Config

end AccessorGen
