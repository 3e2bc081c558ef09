import AccessorGen.Proofs.ClassOutcome
import AccessorGen.Proofs.Member.Arranged

/-!
# The list of members

Which members a unit has can be read off the class without generating any of them: the class is gone
through once for each kind, and an accessor is listed with the position of its field among the instance
fields. Generation gets at the position in another way, by looking up the name, and arranges the members by
it afterwards. Where the names differ both come to the same (`map_entry_accessors`), and arranging leaves
the members as the requests stand.
-/

set_option autoImplicit false

namespace AccessorGen

/-- What a member is in a list of members. -/
structure MemberEntry where
  kind : MemberKind
  name : String
  ordinal : Nat
  deriving DecidableEq, Repr

def Member.entry (m : Member) : MemberEntry := ⟨m.kind, m.name, m.ordinal⟩

namespace ClassDecl

/-- The instance fields that ask, in the order of declaration, each listed with its position among all
instance fields. -/
def accessorEntries (c : ClassDecl) (kind : MemberKind) (asks : FieldDecl → Bool)
    (name : FieldDecl → String) : List MemberEntry :=
  (c.instanceFields.zipIdx.filter fun f => asks f.1).map fun f => ⟨kind, name f.1, f.2⟩

/-- The members of the class as the markers call for them: the factory, the readers, the writers, the
string form. -/
def memberEntries (c : ClassDecl) (factoryName : String) : List MemberEntry :=
  (if c.markers.allArgsConstructor then [⟨.constructor, factoryName, 0⟩] else []) ++
    c.accessorEntries .read (fun f => c.markers.getter || f.readMarked)
      (fun f => (if Text.trim f.type = "boolean" then "is" else "get") ++ Text.capitalize f.name) ++
    c.accessorEntries .write (fun f => c.markers.setter || f.writeMarked)
      (fun f => "set" ++ Text.capitalize f.name) ++
    (if c.markers.stringForm then [⟨.stringify, "toString", 0⟩] else [])

variable {c : ClassDecl}

theorem instanceFields_filter_eq (c : ClassDecl) (asks : FieldDecl → Bool) :
    c.instanceFields.filter asks =
      (c.instanceFields.zipIdx.filter fun f => asks f.1).map Prod.fst := by
  have hfields : c.instanceFields.zipIdx.map Prod.fst = c.instanceFields := List.zipIdx_map_fst 0 _
  rw [← hfields, List.filter_map, hfields]
  rfl

theorem isStatic_of_mem_instanceFields {f : FieldDecl} (h : f ∈ c.instanceFields) :
    f ∈ c.fields ∧ f.isStatic = false := by
  obtain ⟨hf, hstatic⟩ := List.mem_filter.mp h
  exact ⟨hf, by simpa using hstatic⟩

end ClassDecl

namespace Config

variable {config : Config} {c : ClassDecl}

theorem entry_member (config : Config) (c : ClassDecl) (r : Request) :
    (config.member c r).entry = ⟨r.kind, (config.method c r).name, c.ordinalOf r⟩ := rfl

/-- The accessors of one kind are listed as if their fields had been counted. -/
theorem map_entry_accessors (hn : c.instanceNames.Nodup) {request : FieldDecl → Request}
    {asks : FieldDecl → Bool} (h : c.Accessors request (c.instanceFields.filter asks))
    {kind : MemberKind} (hkind : ∀ f, (request f).kind = kind) {name : FieldDecl → String}
    (hname : ∀ f, (config.method c (request f)).name = name f) :
    ((c.instanceFields.filter asks).map request).map (fun r => (config.member c r).entry) =
      c.accessorEntries kind asks name := by
  rw [c.instanceFields_filter_eq asks, ClassDecl.accessorEntries, List.map_map, List.map_map]
  apply List.map_congr_left
  intro f hf
  have hposition : c.instanceFields[f.2]? = some f.1 :=
    List.mem_zipIdx_iff_getElem?.mp (List.mem_of_mem_filter hf)
  simp only [Function.comp_apply, entry_member, hkind, hname, h.ordinal,
    ClassDecl.instanceIndex?_of_getElem? hn hposition, Option.getD_some]

theorem readerName_eq (f : FieldDecl) :
    f.readerName =
      (if Text.trim f.type = "boolean" then "is" else "get") ++ Text.capitalize f.name := by
  simp [FieldDecl.readerName, FieldDecl.isBoolean]

/-- **The requests of a class are its members as listed.** -/
theorem map_entry_requests (config : Config) (hn : c.instanceNames.Nodup) :
    (c.requests.map (config.member c)).map (·.entry) = c.memberEntries config.factoryName := by
  have hreads := map_entry_accessors hn c.accessors_read (fun _ => rfl)
    fun f => show (config.reader c f).name = _ from readerName_eq f
  have hwrites := map_entry_accessors hn c.accessors_write (fun _ => rfl)
    fun f => show (config.writer c f).name = "set" ++ Text.capitalize f.name from rfl
  rw [ClassDecl.requests, ClassDecl.memberEntries, ← hreads, ← hwrites]
  simp only [List.map_append, List.map_map, apply_ite (List.map _), List.map_cons, List.map_nil]
  rfl

/-- Generating the requests of a class one after the other gives the members of its unit as they
stand. -/
theorem mapM_generateMember_of_classUnit (hn : c.instanceNames.Nodup) {u : SourceUnit}
    (h : config.classUnit c = .ok (some u)) :
    c.requests.mapM (config.generateMember c) = .ok u.members := by
  rw [mapM_generateMember, members_eq_of_nodup hn h]
  rw [classUnit_eq] at h
  cases hf : c.touchedFields.find? config.hides with
  | some f =>
    rw [hf] at h
    cases h
  | none => rfl

end Config

/-- **The members of a unit are those that the markers call for, in this order:** the factory, a reader and
a writer for each instance field that asks, by the order of declaration, and the string form. They are the
members generated from the requests, as these stand; no request touches a static field, and no two of
them have one slot. -/
theorem members_listed (config : Config) {c : ClassDecl} (hn : c.instanceNames.Nodup) {u : SourceUnit}
    (h : config.classUnit c = .ok (some u)) :
    u.members.map (·.entry) = c.memberEntries config.factoryName ∧
    c.requests.mapM (config.generateMember c) = .ok u.members ∧
    (∀ r ∈ c.requests, ∀ f ∈ r.fields, f ∈ c.fields ∧ f.isStatic = false) ∧
    (u.members.map fun m => (m.kind, m.ordinal)).Nodup := by
  refine ⟨?_, Config.mapM_generateMember_of_classUnit hn h, fun r hr f hf => ?_, ?_⟩
  · rw [Config.members_eq_of_nodup hn h]
    exact Config.map_entry_requests config hn
  · exact ClassDecl.isStatic_of_mem_instanceFields
      (ClassDecl.mem_instanceFields_of_mem_requests hr hf)
  · have hbefore := Config.pairwise_slotBefore_of_composeUnit (Config.composeUnit_of_classUnit h)
    rw [List.Nodup, List.pairwise_map]
    exact hbefore.imp Member.SlotBefore.slot_ne

/-- A class whose static field stands between the others, with a truth value and markers of both
levels. -/
def ticket : ClassDecl :=
  { ClassDecl.ofName "demo.Ticket" with
    fields := [
      { name := "seat", type := "int", writeMarked := true },
      { name := "COUNT", type := "int", modifiers := ["static"], isStatic := true, writeMarked := true },
      { name := "paid", type := " boolean ", readMarked := true },
      { name := "gate", type := "Boolean", writeMarked := true }]
    markers := .ofList [.getter, .stringForm] }

theorem members_listed_ticket :
    ticket.instanceNames.Nodup ∧
      Config.classUnit {} ticket = .ok (some (Config.unitOf {} ticket)) ∧
      (Config.unitOf {} ticket).members.map (·.entry) = [
        ⟨.read, "getSeat", 0⟩, ⟨.read, "isPaid", 1⟩, ⟨.read, "getGate", 2⟩,
        ⟨.write, "setSeat", 0⟩, ⟨.write, "setGate", 2⟩, ⟨.stringify, "toString", 0⟩] := by
  have hn : ticket.instanceNames.Nodup := by decide +kernel
  have hunit : Config.classUnit {} ticket = .ok (some (Config.unitOf {} ticket)) :=
    Config.classUnit_eq_unitOf hn (by decide +kernel) (fun h => absurd h (by decide))
      fun _ => by decide +kernel
  exact ⟨hn, hunit, (members_listed {} hn hunit).1.trans (by decide +kernel)⟩

end AccessorGen
