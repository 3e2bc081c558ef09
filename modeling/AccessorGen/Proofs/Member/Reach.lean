import AccessorGen.Proofs.Member.Strategies
import Mathlib.Data.List.Nodup

/-!
# What helpers reach

A member accesses the fields of its request, each in a line of its own, and no others (`accessed_method`).
Before a helper is generated each of these fields is looked up in the class by its name, but whether it is
private is read off the request. A request may carry a field of its own making, under the name of a field
that the class declares otherwise. So what a helper reaches is an instance field of the class in any case,
and it is in the reach of a companion if the request agrees with the class on what is private, which the
requests of the class itself do.
-/

set_option autoImplicit false

namespace AccessorGen

namespace Java

/-- The field that is accessed in the line. -/
def MemberLine.field? : MemberLine → Option String
  | .access _ field _ => some field
  | .common _ | .overrideMark | .signature .. => none

/-- The fields that are accessed in the body, in the order of its lines. -/
def Method.accessed (m : Method) : List String := m.body.filterMap fun s => s.outline.field?

end Java

/-- A companion of the class has access to the instance field of this name. -/
def ClassDecl.Opens (c : ClassDecl) (name : String) : Prop :=
  ∃ g ∈ c.fields, g.name = name ∧ g.isStatic = false ∧ g.isPrivate = false

namespace Config

variable {config : Config} {c : ClassDecl} {r : Request}

/-! ## What is accessed -/

theorem accessed_appendFields (receiver : String) (fields : List FieldDecl) :
    ((appendFields receiver fields).filterMap fun s => s.outline.field?) = fields.map (·.name) := by
  induction fields with
  | nil => rfl
  | cons f rest ih =>
    cases rest with
    | nil => rfl
    | cons g rest =>
      simp only [appendFields, List.map_cons] at ih ⊢
      rw [← ih]
      rfl

/-- **A member accesses the fields of its request,** whatever they are. -/
theorem accessed_method (config : Config) (c : ClassDecl) (r : Request) :
    (config.method c r).accessed = r.fields.map (·.name) := by
  cases r with
  | read f | write f => rfl
  | constructor fields =>
    have hassigns : (fields.map fun f => Java.Statement.assign c.objectName f.name f.name).filterMap
        (fun s => s.outline.field?) = fields.map (·.name) := by
      rw [List.filterMap_map, ← List.filterMap_eq_map]
      rfl
    show (Java.Statement.declareNew _ _ :: _ ++ [Java.Statement.returnVariable _]).filterMap _ = _
    rw [List.filterMap_append, List.filterMap_cons, hassigns]
    simp [Java.Statement.outline, Java.MemberLine.field?, Request.fields]
  | stringify fields =>
    show (config.stringifier c fields).body.filterMap _ = _
    rw [stringifier_body, List.filterMap_cons, List.filterMap_append, accessed_appendFields]
    simp [Java.Statement.outline, Java.MemberLine.field?, Request.fields]

/-! ## What is checked -/

theorem of_locate_eq_ok {f : FieldDecl} {i : Nat} (h : config.locate c f = .ok i) :
    f.name ∈ c.instanceNames ∧ config.hides f = false := by
  rw [locate] at h
  cases hi : c.instanceIndex? f.name with
  | none =>
    rw [hi] at h
    cases h
  | some j =>
    rw [hi] at h
    refine ⟨List.isSome_idxOf?.mp (by rw [← ClassDecl.instanceIndex?, hi]; rfl), ?_⟩
    cases hhidden : config.hides f with
    | false => rfl
    | true =>
      rw [hides] at hhidden
      simp [hhidden] at h

/-- Every field of a request that is answered has been located. -/
theorem of_ordinal_eq_ok {i : Nat} (h : config.ordinal c r = .ok i) :
    ∀ f ∈ r.fields, ∃ j, config.locate c f = .ok j := by
  have hall : ∀ fields : List FieldDecl,
      (do let _ ← fields.mapM (config.locate c); return 0 : Except Error Nat) = .ok i →
        ∀ f ∈ fields, ∃ j, config.locate c f = .ok j := by
    intro fields hfields f hf
    obtain ⟨is, his, -⟩ := bind_eq_ok_iff.mp hfields
    obtain ⟨j, -, hj⟩ := exists_of_mem_of_forall₂ (mapM_eq_ok_iff.mp his).flip hf
    exact ⟨j, hj⟩
  cases r with
  | constructor fields | stringify fields => exact hall fields h
  | read f | write f =>
    intro g hg
    rw [List.mem_singleton.mp hg]
    exact ⟨i, h⟩

theorem of_generateMember_eq_ok {m : Member} (h : config.generateMember c r = .ok m) :
    m.text = (config.method c r).render config.indent config.emitJavadoc ∧
      ∀ f ∈ r.fields, f.name ∈ c.instanceNames ∧ config.hides f = false := by
  obtain ⟨i, hi, hm⟩ := bind_eq_ok_iff.mp h
  cases hm
  refine ⟨rfl, fun f hf => ?_⟩
  obtain ⟨j, hj⟩ := of_ordinal_eq_ok hi f hf
  exact of_locate_eq_ok hj

/-- The field is looked up in the class, and its privacy in the request. -/
theorem checked_of_generateMember (hs : config.strategy.isCompanion = true) {m : Member}
    (h : config.generateMember c r = .ok m) :
    ∀ f ∈ r.fields, (∃ g ∈ c.fields, g.name = f.name ∧ g.isStatic = false) ∧ f.isPrivate = false := by
  intro f hf
  obtain ⟨hname, hopen⟩ := (of_generateMember_eq_ok h).2 f hf
  obtain ⟨g, hg, hgf⟩ := List.mem_map.mp hname
  obtain ⟨hg, hstatic⟩ := List.mem_filter.mp hg
  exact ⟨⟨g, hg, hgf, by simpa using hstatic⟩, by simpa [hides, hs] using hopen⟩

/-- Where the field of a name is unique, what the request says of it is compared with what the class does. -/
theorem forall_opens_iff (config : Config) (hn : (c.fields.map (·.name)).Nodup)
    (hchecked : ∀ f ∈ r.fields,
      (∃ g ∈ c.fields, g.name = f.name ∧ g.isStatic = false) ∧ f.isPrivate = false) :
    (∀ name ∈ (config.method c r).accessed, c.Opens name) ↔
      ∀ f ∈ r.fields, ∀ g ∈ c.fields, g.name = f.name → g.isPrivate = f.isPrivate := by
  rw [accessed_method, List.forall_mem_map]
  constructor
  · intro hopens f hf g hg hgf
    obtain ⟨g', hg', hname, -, hopen⟩ := hopens f hf
    obtain rfl : g = g' := List.inj_on_of_nodup_map hn hg hg' (hgf.trans hname.symm)
    rw [hopen, (hchecked f hf).2]
  · intro hagree f hf
    obtain ⟨⟨g, hg, hgf, hstatic⟩, hopen⟩ := hchecked f hf
    exact ⟨g, hg, hgf, hstatic, (hagree f hf g hg hgf).trans hopen⟩

/-- **What a helper reaches.** Every field that its text accesses is an instance field of the class. All of
them are open to the companion exactly if the request has the fields that it names as private as the class
declares them. -/
theorem accessed_open_iff (hs : config.strategy.isCompanion = true)
    (hn : (c.fields.map (·.name)).Nodup) {m : Member} (h : config.generateMember c r = .ok m) :
    m.text = (config.method c r).render config.indent config.emitJavadoc ∧
    (∀ name ∈ (config.method c r).accessed, ∃ g ∈ c.fields, g.name = name ∧ g.isStatic = false) ∧
    ((∀ name ∈ (config.method c r).accessed, c.Opens name) ↔
      ∀ f ∈ r.fields, ∀ g ∈ c.fields, g.name = f.name → g.isPrivate = f.isPrivate) ∧
    ((∀ f ∈ r.fields, f ∈ c.fields) → ∀ name ∈ (config.method c r).accessed, c.Opens name) := by
  have hchecked := checked_of_generateMember hs h
  have hiff := forall_opens_iff config hn hchecked
  refine ⟨(of_generateMember_eq_ok h).1, ?_, hiff, fun hown => hiff.mpr fun f hf g hg hgf => ?_⟩
  · rw [accessed_method, List.forall_mem_map]
    exact fun f hf => (hchecked f hf).1
  · rw [List.inj_on_of_nodup_map hn hg (hown f hf) hgf]

end Config

/-- A class with one field that its companion may read and one that it may not. -/
def vault : ClassDecl :=
  { ClassDecl.ofName "bank.Vault" with
    fields := [{ name := "label", type := "String", modifiers := [] }, { name := "code", type := "int" }] }

/-- The string form of what is open. -/
theorem accessed_open_vault :
    (∃ m, Config.generateMember { strategy := .companion "Kit" } vault (.stringify [vault.fields[0]]) =
      .ok m) ∧
    ∀ name ∈ (Config.method { strategy := .companion "Kit" } vault
      (.stringify [vault.fields[0]])).accessed, vault.Opens name := by
  have hm : Config.generateMember { strategy := .companion "Kit" } vault
      (.stringify [vault.fields[0]]) =
        .ok (Config.member { strategy := .companion "Kit" } vault (.stringify [vault.fields[0]])) := by
    decide +kernel
  obtain ⟨-, -, -, hown⟩ := Config.accessed_open_iff rfl (by decide) hm
  refine ⟨⟨_, hm⟩, hown ?_⟩
  intro f hf
  rw [List.mem_singleton.mp hf]
  exact List.getElem_mem _

/-- A request that has the code open gets a helper that reaches it, while the class has it private. -/
theorem vault_code_reached :
    Config.generateMember { strategy := .companion "Kit", emitJavadoc := false } vault
        (.read { name := "code", type := "int", modifiers := [] }) =
      .ok ⟨.read, "getCode", 1,
        "    public static int getCode(Vault instance) \x7b\n        return instance.code;\n    \x7d"⟩ ∧
    (Config.method { strategy := .companion "Kit", emitJavadoc := false } vault
        (.read { name := "code", type := "int", modifiers := [] })).accessed = ["code"] ∧
    ¬vault.Opens "code" := by
  refine ⟨by decide +kernel, rfl, ?_⟩
  rintro ⟨g, hg, hname, -, hopen⟩
  revert hname hopen
  revert g
  decide

end AccessorGen
