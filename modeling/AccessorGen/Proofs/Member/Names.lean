import AccessorGen.Proofs.Capital
import AccessorGen.Proofs.ClassOutcome
import AccessorGen.Proofs.Lines
import AccessorGen.Proofs.Member.Arranged

/-!
# The names of members

Members are told apart by their slots, never by their names, so two of a unit may share a name. Which ones
can is settled here, for the names of fields that differ and a factory whose name is not that of another
kind. The kinds then keep apart, as does the reader of a truth value from any other, because each begins
with a word of its own; and within one of them a name is shared by the fields whose names differ in the
case of their first character, and by no others (`Config.name_eq_iff`).
-/

set_option autoImplicit false

namespace AccessorGen

open Text (DifferInCase)

/-- The configured name of the factory is none that another kind of member can have. -/
structure Config.FactoryApart (config : Config) : Prop where
  ne_stringifier : config.factoryName ≠ Config.stringifierName
  not_beginsWith : ∀ word ∈ ["get", "is", "set"], Text.beginsWith word config.factoryName = false

/-- Both members are writers, or readers of which both or neither give a truth value, and the names of
their fields differ in the case of the first character alone. -/
def Member.NamedAlike (c : ClassDecl) (m m' : Member) : Prop :=
  ∃ f g, c.instanceFields[m.ordinal]? = some f ∧ c.instanceFields[m'.ordinal]? = some g ∧
    (m.kind = .write ∧ m'.kind = .write ∨
      m.kind = .read ∧ m'.kind = .read ∧ f.isBoolean = g.isBoolean) ∧
    DifferInCase f.name g.name

/-! ## The words in front -/

namespace FieldDecl

variable {f g : FieldDecl}

theorem head?_readerName (f : FieldDecl) :
    f.readerName.toList.head? = some (if f.isBoolean then 'i' else 'g') := by
  rw [readerName, String.toList_append]
  cases f.isBoolean <;> rfl

theorem head?_writerName (f : FieldDecl) : f.writerName.toList.head? = some 's' := by
  rw [writerName, String.toList_append]
  rfl

theorem exists_beginsWith_readerName (f : FieldDecl) :
    ∃ word ∈ ["get", "is", "set"], Text.beginsWith word f.readerName = true := by
  rw [readerName]
  cases f.isBoolean with
  | true => exact ⟨"is", by simp, by simp [Text.beginsWith]⟩
  | false => exact ⟨"get", by simp, by simp [Text.beginsWith]⟩

theorem exists_beginsWith_writerName (f : FieldDecl) :
    ∃ word ∈ ["get", "is", "set"], Text.beginsWith word f.writerName = true :=
  ⟨"set", by simp, by simp [writerName, Text.beginsWith]⟩

theorem isBoolean_eq_of_readerName (h : f.readerName = g.readerName) : f.isBoolean = g.isBoolean := by
  have hheads := congrArg (fun name => name.toList.head?) h
  simp only [head?_readerName] at hheads
  cases hf : f.isBoolean <;> cases hg : g.isBoolean <;> simp_all

theorem readerName_eq_iff :
    f.readerName = g.readerName ↔
      f.isBoolean = g.isBoolean ∧ Text.capitalize f.name = Text.capitalize g.name := by
  constructor
  · intro h
    have hword := isBoolean_eq_of_readerName h
    rw [readerName, readerName, hword, String.append_right_inj] at h
    exact ⟨hword, h⟩
  · intro h
    rw [readerName, readerName, h.1, h.2]

theorem writerName_eq_iff :
    f.writerName = g.writerName ↔ Text.capitalize f.name = Text.capitalize g.name :=
  String.append_right_inj _

end FieldDecl

/-! ## Which names are shared -/

namespace Config

variable {config : Config} {c : ClassDecl}

/-- The factory's name is not that of an accessor. -/
theorem FactoryApart.ne_of_beginsWith (hf : config.FactoryApart) {name : String}
    (h : ∃ word ∈ ["get", "is", "set"], Text.beginsWith word name = true) :
    config.factoryName ≠ name := by
  intro he
  obtain ⟨word, hword, hname⟩ := h
  rw [← he, hf.not_beginsWith word hword] at hname
  cases hname

/-- Members of different kinds have different names. -/
theorem name_ne_of_rank_lt (hf : config.FactoryApart) (c : ClassDecl) {r s : Request}
    (h : r.kind.rank < s.kind.rank) : (config.method c r).name ≠ (config.method c s).name := by
  have hfirst : ∀ {a b : String}, a.toList.head? ≠ b.toList.head? → a ≠ b :=
    fun hne he => hne (by rw [he])
  cases r with
  | constructor fields =>
    cases s with
    | constructor _ => simp [Request.kind, MemberKind.rank] at h
    | read f => exact hf.ne_of_beginsWith f.exists_beginsWith_readerName
    | write f => exact hf.ne_of_beginsWith f.exists_beginsWith_writerName
    | stringify _ => exact hf.ne_stringifier
  | read f =>
    cases s with
    | constructor _ | read _ => simp [Request.kind, MemberKind.rank] at h
    | write g =>
      apply hfirst
      show f.readerName.toList.head? ≠ g.writerName.toList.head?
      rw [FieldDecl.head?_readerName, FieldDecl.head?_writerName]
      cases f.isBoolean <;> decide
    | stringify _ =>
      apply hfirst
      show f.readerName.toList.head? ≠ stringifierName.toList.head?
      rw [FieldDecl.head?_readerName]
      cases f.isBoolean <;> decide
  | write f =>
    cases s with
    | constructor _ | read _ | write _ => simp [Request.kind, MemberKind.rank] at h
    | stringify _ =>
      apply hfirst
      show f.writerName.toList.head? ≠ stringifierName.toList.head?
      rw [FieldDecl.head?_writerName]
      decide
  | stringify fields => cases s <;> simp [Request.kind, MemberKind.rank] at h

theorem kind_eq_of_name_eq (hf : config.FactoryApart) {r s : Request}
    (h : (config.method c r).name = (config.method c s).name) : r.kind = s.kind := by
  rcases Nat.lt_trichotomy r.kind.rank s.kind.rank with hlt | heq | hgt
  · exact absurd h (name_ne_of_rank_lt hf c hlt)
  · exact MemberKind.rank_injective heq
  · exact absurd h.symm (name_ne_of_rank_lt hf c hgt)

/-- A request of a class for a member of all fields is told by its kind. -/
theorem eq_of_kind_eq {r s : Request} (hr : r ∈ c.requests) (hs : s ∈ c.requests)
    (hkind : r.kind = s.kind) (hread : r.kind ≠ .read) (hwrite : r.kind ≠ .write) : r = s := by
  rcases ClassDecl.mem_requests.mp hr with ⟨-, rfl⟩ | ⟨f, -, rfl⟩ | ⟨f, -, rfl⟩ | ⟨-, rfl⟩
  · rcases ClassDecl.mem_requests.mp hs with ⟨-, rfl⟩ | ⟨g, -, rfl⟩ | ⟨g, -, rfl⟩ | ⟨-, rfl⟩
    · rfl
    · cases hkind
    · cases hkind
    · cases hkind
  · exact absurd rfl hread
  · exact absurd rfl hwrite
  · rcases ClassDecl.mem_requests.mp hs with ⟨-, rfl⟩ | ⟨g, -, rfl⟩ | ⟨g, -, rfl⟩ | ⟨-, rfl⟩
    · cases hkind
    · cases hkind
    · cases hkind
    · rfl

/-- The field of an accessor is found at the member's ordinal. -/
theorem getElem?_ordinal (config : Config) (hn : c.instanceNames.Nodup) {r : Request}
    (hr : r ∈ c.requests) {f : FieldDecl} (h : r = .read f ∨ r = .write f) :
    c.instanceFields[(config.member c r).ordinal]? = some f := by
  have hmem : ∀ g ∈ r.fields, g ∈ c.instanceFields :=
    fun g hg => ClassDecl.mem_instanceFields_of_mem_requests hr hg
  rcases h with rfl | rfl
  · exact ClassDecl.getElem?_instanceIndex? hn (hmem f (List.mem_singleton.mpr rfl))
  · exact ClassDecl.getElem?_instanceIndex? hn (hmem f (List.mem_singleton.mpr rfl))

/-- A field is told by its name. -/
theorem capitalize_eq_iff_of_ne (hn : c.instanceNames.Nodup) {i j : Nat} {f g : FieldDecl}
    (hf : c.instanceFields[i]? = some f) (hg : c.instanceFields[j]? = some g) (hne : f ≠ g) :
    Text.capitalize f.name = Text.capitalize g.name ↔ DifferInCase f.name g.name := by
  apply Text.capitalize_eq_iff
  intro hname
  have hindex := ClassDecl.instanceIndex?_of_getElem? hn hf
  rw [hname, ClassDecl.instanceIndex?_of_getElem? hn hg] at hindex
  rw [← Option.some.inj hindex, hg] at hf
  exact hne (Option.some.inj hf).symm

theorem namedAlike_iff {m m' : Member} {f g : FieldDecl} (hf : c.instanceFields[m.ordinal]? = some f)
    (hg : c.instanceFields[m'.ordinal]? = some g) (hkind : m.kind = m'.kind) :
    m.NamedAlike c m' ↔ (m.kind = .write ∨ m.kind = .read ∧ f.isBoolean = g.isBoolean) ∧
      DifferInCase f.name g.name := by
  rw [Member.NamedAlike, hf, hg, ← hkind]
  simp

/-- **Two members of a class share a name exactly if their fields come to one.** -/
theorem name_eq_iff (hfactory : config.FactoryApart) (hn : c.instanceNames.Nodup) {r s : Request}
    (hr : r ∈ c.requests) (hs : s ∈ c.requests) (hne : r ≠ s) :
    (config.member c r).name = (config.member c s).name ↔
      (config.member c r).NamedAlike c (config.member c s) := by
  -- different kinds have neither a name nor a field's word in common
  by_cases hkind : r.kind = s.kind
  · cases r with
    | constructor _ | stringify _ => exact absurd (eq_of_kind_eq hr hs hkind nofun nofun) hne
    | read f =>
      cases s with
      | constructor _ | write _ | stringify _ => cases hkind
      | read g =>
        have hf := getElem?_ordinal config hn hr (Or.inl rfl)
        have hg := getElem?_ordinal config hn hs (Or.inl rfl)
        have hfg : f ≠ g := fun he => hne (by rw [he])
        rw [namedAlike_iff hf hg rfl, ← capitalize_eq_iff_of_ne hn hf hg hfg]
        show f.readerName = g.readerName ↔ _
        rw [FieldDecl.readerName_eq_iff]
        simp [member, Request.kind]
    | write f =>
      cases s with
      | constructor _ | read _ | stringify _ => cases hkind
      | write g =>
        have hf := getElem?_ordinal config hn hr (Or.inr rfl)
        have hg := getElem?_ordinal config hn hs (Or.inr rfl)
        have hfg : f ≠ g := fun he => hne (by rw [he])
        rw [namedAlike_iff hf hg rfl, ← capitalize_eq_iff_of_ne hn hf hg hfg]
        show f.writerName = g.writerName ↔ _
        rw [FieldDecl.writerName_eq_iff]
        simp [member, Request.kind]
  · refine iff_of_false (fun h => hkind (kind_eq_of_name_eq hfactory h)) ?_
    intro h
    obtain ⟨f, g, -, -, hkinds, -⟩ := h
    rcases hkinds with hkinds | hkinds
    · exact hkind (hkinds.1.trans hkinds.2.symm)
    · exact hkind (hkinds.1.trans hkinds.2.1.symm)

end Config

/-- **The names that members share.** Let the instance fields of a class have different names, and the
factory one that is of no other member's form. Of the members of its unit, all of them different, two have
one name exactly if both are writers, or readers with the same word in front, and the names of their fields
differ in the case of the first character alone. Capitalizing leaves the length of a name as it is, and
every character behind the first. -/
theorem members_named_alike {config : Config} (hfactory : config.FactoryApart) {c : ClassDecl}
    (hn : c.instanceNames.Nodup) {u : SourceUnit} (h : config.classUnit c = .ok (some u)) :
    u.members.Nodup ∧
    (∀ m ∈ u.members, ∀ m' ∈ u.members, m ≠ m' → (m.name = m'.name ↔ m.NamedAlike c m')) ∧
    ∀ name, (Text.capitalize name).length = name.length ∧
      (Text.capitalize name).toList.tail = name.toList.tail := by
  refine ⟨?_, ?_, fun name => ⟨Text.length_capitalize name, Text.tail_toList_capitalize name⟩⟩
  · exact (Config.pairwise_slotBefore_of_composeUnit (Config.composeUnit_of_classUnit h)).imp
      Member.SlotBefore.ne
  · intro m hm m' hm' hne
    obtain ⟨r, hr, rfl⟩ := (Config.mem_members_of_classUnit h).mp hm
    obtain ⟨s, hs, rfl⟩ := (Config.mem_members_of_classUnit h).mp hm'
    exact Config.name_eq_iff hfactory hn hr hs fun he => hne (by rw [he])

/-- A class with two pairs of fields whose names differ in case; one of the second pair is a truth
value. -/
def spool : ClassDecl :=
  { ClassDecl.ofName "demo.Spool" with
    fields := [
      { name := "size", type := "int" },
      { name := "Size", type := "long" },
      { name := "open", type := "boolean" },
      { name := "Open", type := "Boolean" }]
    markers := .ofList [.getter, .setter] }

theorem members_named_alike_spool :
    ({} : Config).FactoryApart ∧ spool.instanceNames.Nodup ∧
    Config.classUnit {} spool = .ok (some (Config.unitOf {} spool)) ∧
    (Config.unitOf {} spool).members.map (·.name) =
      ["getSize", "getSize", "isOpen", "getOpen", "setSize", "setSize", "setOpen", "setOpen"] ∧
    ∀ m ∈ (Config.unitOf {} spool).members, ∀ m' ∈ (Config.unitOf {} spool).members,
      m ≠ m' → (m.name = m'.name ↔ m.NamedAlike spool m') := by
  have hfactory : ({} : Config).FactoryApart := ⟨by decide, by decide⟩
  have hn : spool.instanceNames.Nodup := by decide +kernel
  have hunit : Config.classUnit {} spool = .ok (some (Config.unitOf {} spool)) :=
    Config.classUnit_eq_unitOf hn (by decide +kernel) (fun h => absurd h (by decide))
      fun _ => by decide +kernel
  refine ⟨hfactory, hn, hunit, ?_, (members_named_alike hfactory hn hunit).2.1⟩
  rw [Config.members_eq_of_nodup hn hunit]
  decide +kernel

end AccessorGen
