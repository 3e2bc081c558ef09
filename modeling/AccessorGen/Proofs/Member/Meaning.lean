import AccessorGen.Proofs.ClassOutcome
import AccessorGen.Proofs.Java.Runs
import AccessorGen.Proofs.Member.Written

/-!
# What members do

A marker is a promise about running code: the factory makes an object that holds its arguments, a read
accessor returns what a field holds, a write accessor replaces it, and the string form shows every
field. `Request.Promise` states the promise of a request on the method that a reader takes from the
text of the member, and `members_keep_promises` proves that the members of a unit keep it.

Both strategies run the same bodies. A helper of a companion receives the object as its first argument
and a member of the class itself as `this`; after the call has begun the two differ in a name
(`apply_eq`).
-/

set_option autoImplicit false

namespace AccessorGen

open Java

variable {α : Type} {config : Config} {c : ClassDecl}

/-! ## Promises -/

/-- The string form of an object whose fields are shown as these texts. -/
def ClassDecl.stringForm (c : ClassDecl) (shown : FieldDecl → String) : String :=
  c.simpleName ++ "\x7b" ++
    String.intercalate ", " (c.instanceFields.map fun f => f.name ++ "=" ++ shown f) ++ "\x7d"

namespace Routine

/-- The routine makes objects of the class: it is static and declared to return one, has one parameter
for each instance field, in their order and of their types, and gives a fresh object that holds the
arguments. -/
def Makes (m : Java.Routine) (config : Config) (c : ClassDecl) : Prop :=
  m.isStatic = true ∧ m.returnType = config.typeName c ∧
    m.parameters = c.instanceFields.map (fun f => ⟨f.type, f.name⟩) ∧
    ∀ (α : Type) (host : Host α) (heap : Heap α) (vs : List (Value α)),
      vs.length = c.instanceFields.length →
      ∃ o : Obj α,
        m.call host heap none vs = .ok (heap ++ [o], .value (.object heap.length)) ∧
        o.type = config.typeName c ∧
        (∀ (i : Nat) (f : FieldDecl), c.instanceFields[i]? = some f →
          vs[i]? = some (o.fields f.name)) ∧
        ∀ name ∉ c.instanceNames, o.fields name = host.initial (config.typeName c) name

/-- The routine returns what the field of an object holds, and changes nothing. It is static exactly
if it stands in a companion. -/
def Reads (m : Java.Routine) (config : Config) (c : ClassDecl) (f : FieldDecl) : Prop :=
  m.isStatic = config.strategy.isCompanion ∧ m.returnType = f.type ∧
    m.parameters = config.receiverParameters c ∧
    ∀ (α : Type) (host : Host α) (heap : Heap α) (a : Nat) (o : Obj α), heap[a]? = some o →
      m.apply host heap a [] = .ok (heap, .value (o.fields f.name))

/-- The routine stores its argument in the field of an object, and changes nothing else. It is declared
to return nothing, and static exactly if it stands in a companion. -/
def Writes (m : Java.Routine) (config : Config) (c : ClassDecl) (f : FieldDecl) : Prop :=
  m.isStatic = config.strategy.isCompanion ∧ m.returnType = "void" ∧
    m.parameters = config.receiverParameters c ++ [⟨f.type, f.name⟩] ∧
    ∀ (α : Type) (host : Host α) (heap : Heap α) (a : Nat) (o : Obj α) (v : Value α),
      heap[a]? = some o →
      m.apply host heap a [v] = .ok (heap.set a (o.set f.name v), .done)

/-- The routine returns the string form of an object, and changes nothing. Each field is shown by the
conversion of its type, an array of characters by that of objects, so that one without an array is
shown as well. The routine is static exactly if it stands in a companion. -/
def Shows (m : Java.Routine) (config : Config) (c : ClassDecl) : Prop :=
  m.isStatic = config.strategy.isCompanion ∧ m.returnType = "String" ∧
    m.parameters = config.receiverParameters c ∧
    ∀ (α : Type) (host : Host α) (heap : Heap α) (a : Nat) (o : Obj α) (shown : FieldDecl → String),
      heap[a]? = some o →
      (∀ f ∈ c.instanceFields,
        host.shown heap f.isCharArray (o.fields f.name) = some (shown f)) →
      m.apply host heap a [] = .ok (heap, .text (c.stringForm shown))

end Routine

/-- What the request asks of the routine that answers it. -/
def Request.Promise (config : Config) (c : ClassDecl) (m : Java.Routine) : Request → Prop
  | .constructor _ => Routine.Makes m config c
  | .read f => Routine.Reads m config c f
  | .write f => Routine.Writes m config c f
  | .stringify _ => Routine.Shows m config c

/-- The member answers the request: it is of the right kind and at the right place, and the method
that its text spells keeps the promise. -/
structure Member.Answers (config : Config) (c : ClassDecl) (m : Member) (r : Request) : Prop where
  kind : m.kind = r.kind
  ordinal : ∀ f, r = .read f ∨ r = .write f → c.instanceFields[m.ordinal]? = some f
  routine : ∃ routine, read? m.text = some routine ∧ routine.name = m.name ∧
    r.Promise config c routine

/-! ## Calls -/

namespace Config

/-- The factory binds its parameters, so all of them are in scope, and the name of the object is still
free. -/
theorem factory_makes (hc : c.WellFormed) :
    Routine.Makes (config.factory c c.instanceFields).routine config c := by
  refine ⟨rfl, rfl, rfl, fun α host heap vs hlength => ?_⟩
  have hnames : (c.instanceFields.map fun f => (⟨f.type, f.name⟩ : Parameter)).map (·.name) =
      c.instanceNames := by
    rw [List.map_map]
    rfl
  have hcount : (c.instanceFields.map fun f => (⟨f.type, f.name⟩ : Parameter)).length =
      vs.length := by simpa using hlength.symm
  -- first the parameters are bound, then the object is made in their scope
  obtain ⟨scope, hscope, hbound, hother⟩ := exists_declareAll (s := []) hcount
    (by rw [hnames]; exact hc.nodup) fun _ _ => rfl
  rw [hnames] at hother
  have hvalue : ∀ (i : Nat) (f : FieldDecl), c.instanceFields[i]? = some f →
      ∃ v, vs[i]? = some v ∧ scope.lookup f.name = some (.value v) := by
    intro i f hi
    have hlt : i < vs.length := hlength ▸ (List.getElem?_eq_some_iff.mp hi).1
    exact ⟨vs[i], List.getElem?_eq_getElem hlt,
      hbound i ⟨f.type, f.name⟩ vs[i] (by simp [hi]) (List.getElem?_eq_getElem hlt)⟩
  have hheld : ∀ name ∈ c.instanceNames, ∃ v, scope.lookup name = some (.value v) := by
    intro name hn
    obtain ⟨f, hf, rfl⟩ := List.mem_map.mp hn
    obtain ⟨i, hi⟩ := List.getElem?_of_mem hf
    obtain ⟨v, -, hv⟩ := hvalue i f hi
    exact ⟨v, hv⟩
  obtain ⟨o, hrun, htype, hfields, hrest⟩ := exists_run_make host heap
    (hother c.objectName c.objectName_not_mem) hheld (config.typeName c)
  refine ⟨o, ?_, htype, fun i f hi => ?_, hrest⟩
  · have hcall : (config.factory c c.instanceFields).routine.call host heap none vs =
        (declareAll [] (c.instanceFields.map fun f => ⟨f.type, f.name⟩) vs).bind fun scope =>
          run host ⟨heap, scope⟩ (config.factory c c.instanceFields).body := rfl
    rw [hcall, hscope, factory_body]
    exact hrun
  · obtain ⟨v, hv, hs⟩ := hvalue i f hi
    have hsame := hfields f.name (List.mem_map_of_mem (List.mem_of_getElem? hi))
    rw [hs, Option.some.injEq, Binding.value.injEq] at hsame
    rw [hv, hsame]

/-- **Applied to an object, a member starts with the object under the name of its receiver,** and its
other parameters are declared beside it. -/
theorem apply_eq (config : Config) (c : ClassDecl) (extra : List Parameter) {m : Java.Routine}
    (hs : m.isStatic = config.strategy.isCompanion)
    (hp : m.parameters = config.receiverParameters c ++ extra) (host : Host α) (heap : Heap α)
    (a : Nat) (vs : List (Value α)) :
    m.apply host heap a vs =
      (declareAll [(config.receiver c, .value (.object a))] extra vs).bind fun scope =>
        run host ⟨heap, scope⟩ m.body := by
  rw [Routine.apply, hs, receiver]
  rw [receiverParameters] at hp
  cases hcompanion : config.strategy.isCompanion with
  | true =>
    rw [hcompanion, if_pos rfl] at hp
    rw [if_pos rfl, if_pos rfl, Routine.call, hp]
    rfl
  | false =>
    rw [hcompanion, if_neg Bool.false_ne_true] at hp
    rw [if_neg Bool.false_ne_true, if_neg Bool.false_ne_true, Routine.call, hp]
    rfl

theorem reader_reads (config : Config) (c : ClassDecl) (f : FieldDecl) :
    Routine.Reads (config.reader c f).routine config c f := by
  refine ⟨rfl, rfl, rfl, fun α host heap a o ho => ?_⟩
  rw [apply_eq config c [] rfl (List.append_nil _).symm]
  exact run_returnField List.lookup_cons_self ho f.name

/-- No field has the name of the receiver, so a field can be a parameter beside it. -/
theorem ne_receiver (hc : c.WellFormed) {f : FieldDecl} (hf : f ∈ c.instanceFields) :
    f.name ≠ config.receiver c := by
  rw [receiver]
  split
  · exact fun he => c.objectName_not_mem (he ▸ List.mem_map_of_mem hf)
  · intro he
    have hreserved := not_mem_reservedWords (hc.isIdentifier hf)
    rw [he] at hreserved
    exact hreserved (by decide +kernel)

theorem writer_writes (hc : c.WellFormed) {f : FieldDecl} (hf : f ∈ c.instanceFields) :
    Routine.Writes (config.writer c f).routine config c f := by
  refine ⟨rfl, rfl, rfl, fun α host heap a o v ho => ?_⟩
  have hne : f.name ≠ config.receiver c := ne_receiver hc hf
  have hfree : List.lookup f.name [(config.receiver c, Binding.value (.object a) (α := α))] =
      none := by
    rw [lookup_cons_of_ne hne]
    rfl
  rw [apply_eq config c [⟨f.type, f.name⟩] rfl rfl, declareAll,
    Scope.declare_eq_ok hfree]
  show run host ⟨heap, (f.name, .value v) :: [(config.receiver c, .value (.object a))]⟩
    [.assign (config.receiver c) f.name f.name] = _
  rw [run_assign (a := a) (o := o) (v := v) ?_ ho List.lookup_cons_self]
  · rfl
  · rw [lookup_cons_of_ne (Ne.symm hne)]
    exact List.lookup_cons_self

/-- Appending the fields puts their texts behind what is there, with commas between them. -/
theorem exists_run_appendFields (host : Host α) {heap : Heap α} {scope : Scope α}
    {receiver t : String} {a : Nat} {o : Obj α} {fields : List FieldDecl}
    {shown : FieldDecl → String} (hne : receiver ≠ builderName)
    (ht : scope.lookup builderName = some (.builder t))
    (hr : scope.lookup receiver = some (.value (.object a))) (ho : heap[a]? = some o)
    (hshown : ∀ f ∈ fields, host.shown heap f.isCharArray (o.fields f.name) = some (shown f))
    (rest : List Statement) :
    ∃ scope' : Scope α,
      run host ⟨heap, scope⟩ (appendFields receiver fields ++ rest) =
        run host ⟨heap, scope'⟩ rest ∧
      scope'.lookup builderName = some (.builder
        (t ++ String.intercalate ", " (fields.map fun f => f.name ++ "=" ++ shown f))) := by
  have hkept : ∀ (s : Scope α) (text : String), s.lookup receiver = some (.value (.object a)) →
      List.lookup receiver ((builderName, Binding.builder text) :: s) =
        some (.value (.object a)) := by
    intro s text hs
    rw [lookup_cons_of_ne hne]
    exact hs
  -- on the fields: what has been appended so far is `t`
  induction fields generalizing scope t with
  | nil => exact ⟨scope, rfl, by simpa using ht⟩
  | cons f fields ih =>
    have hf := hshown f List.mem_cons_self
    cases fields with
    | nil =>
      refine ⟨_, run_appendField ht hr ho hf _ rest, ?_⟩
      rw [List.lookup_cons_self]
      simp [String.append_assoc]
    | cons g fields =>
      obtain ⟨scope', hrun, ht'⟩ := ih List.lookup_cons_self
        (hkept _ (t ++ (f.name ++ "=") ++ shown f ++ ", ") (hkept _ _ hr))
        fun h hh => hshown h (List.mem_cons_of_mem _ hh)
      refine ⟨scope', ?_, ?_⟩
      · rw [appendFields, List.cons_append, List.cons_append,
          run_appendField ht hr ho hf, run_appendText List.lookup_cons_self, hrun]
        simp
      · have hcons : String.intercalate ", "
            ((f :: g :: fields).map fun f => f.name ++ "=" ++ shown f) =
            f.name ++ "=" ++ shown f ++ ", " ++
              String.intercalate ", " ((g :: fields).map fun f => f.name ++ "=" ++ shown f) :=
          String.intercalate_cons_of_ne_nil (by simp)
        rw [ht', hcons]
        simp only [String.append_assoc]

theorem stringifier_shows (config : Config) (c : ClassDecl) :
    Routine.Shows (config.stringifier c c.instanceFields).routine config c := by
  refine ⟨rfl, rfl, rfl, fun α host heap a o shown ho hshown => ?_⟩
  have hne : config.receiver c ≠ builderName := by
    rw [receiver]
    split
    · exact c.objectName_ne_builderName
    · decide
  have hfree : List.lookup builderName
      [(config.receiver c, Binding.value (.object a) (α := α))] = none := by
    rw [lookup_cons_of_ne (Ne.symm hne)]
    rfl
  rw [apply_eq config c [] rfl (List.append_nil _).symm]
  show run host ⟨heap, [(config.receiver c, .value (.object a))]⟩
    (config.stringifier c c.instanceFields).body = _
  rw [stringifier_body, run_startString hfree]
  have hobject : List.lookup (config.receiver c)
      [(builderName, .builder (c.simpleName ++ "\x7b")),
        (config.receiver c, Binding.value (.object a) (α := α))] = some (.value (.object a)) := by
    rw [lookup_cons_of_ne hne, List.lookup_cons_self]
  obtain ⟨scope, hrun, ht⟩ := exists_run_appendFields host hne List.lookup_cons_self hobject ho
    hshown [.appendText "\x7d", .returnString]
  rw [hrun, run_appendText ht, run_returnString List.lookup_cons_self, ClassDecl.stringForm]

end Config

/-! ## The members of a unit -/

theorem Config.member_answers (hconfig : config.WellFormed) (hc : c.WellFormed) {r : Request}
    (hr : r ∈ c.requests) : (config.member c r).Answers config c r where
  kind := rfl
  ordinal := by
    rintro f (rfl | rfl)
    · exact ClassDecl.getElem?_instanceIndex? hc.nodup
        (ClassDecl.mem_instanceFields_of_mem_requests hr (List.mem_singleton.mpr rfl))
    · exact ClassDecl.getElem?_instanceIndex? hc.nodup
        (ClassDecl.mem_instanceFields_of_mem_requests hr (List.mem_singleton.mpr rfl))
  routine := by
    refine ⟨(config.method c r).routine, Config.read?_method hconfig hc hr, rfl, ?_⟩
    rcases ClassDecl.mem_requests.mp hr with ⟨_, rfl⟩ | ⟨f, hf, rfl⟩ | ⟨f, hf, rfl⟩ | ⟨_, rfl⟩
    · exact Config.factory_makes hc
    · exact Config.reader_reads config c f
    · exact Config.writer_writes hc (ClassDecl.mem_instanceFields_of_mem_writeFields hf)
    · exact Config.stringifier_shows config c

/-- What a factory puts into an object, a read accessor gets back out of it: the argument at the
accessor's place. -/
def Member.ReadsBack (make get : Member) (c : ClassDecl) : Prop :=
  ∃ factory accessor : Java.Routine,
    read? make.text = some factory ∧ read? get.text = some accessor ∧
    ∀ (α : Type) (host : Host α) (heap : Heap α) (vs : List (Value α)),
      vs.length = c.instanceFields.length →
      ∃ (after : Heap α) (a : Nat) (v : Value α),
        factory.call host heap none vs = .ok (after, .value (.object a)) ∧
        vs[get.ordinal]? = some v ∧ accessor.apply host after a [] = .ok (after, .value v)

theorem Member.Answers.readsBack {make get : Member} {f : FieldDecl}
    {fields : List FieldDecl} (hmake : make.Answers config c (.constructor fields))
    (hget : get.Answers config c (.read f)) : make.ReadsBack get c := by
  obtain ⟨factory, hfactory, -, -, -, -, hmakes⟩ := hmake.routine
  obtain ⟨accessor, haccessor, -, -, -, -, hreads⟩ := hget.routine
  refine ⟨factory, accessor, hfactory, haccessor, fun α host heap vs hlength => ?_⟩
  obtain ⟨o, hcall, -, hheld, -⟩ := hmakes α host heap vs hlength
  have hv := hheld get.ordinal f (hget.ordinal f (Or.inl rfl))
  exact ⟨heap ++ [o], heap.length, o.fields f.name, hcall, hv,
    hreads α host (heap ++ [o]) heap.length o (by simp)⟩

/-- **The members of a unit keep the promises of the markers.** They answer the requests of the class
one by one, by what their texts say and nothing else, and every read accessor gets back what the
factory was given for its field. -/
theorem members_keep_promises (hconfig : config.WellFormed) (hc : c.WellFormed) {u : SourceUnit}
    (hu : config.classUnit c = .ok (some u)) :
    List.Forall₂ (Member.Answers config c) u.members c.requests ∧
      ∀ make ∈ u.members, ∀ get ∈ u.members, make.kind = .constructor → get.kind = .read →
        make.ReadsBack get c := by
  have hanswers : ∀ r ∈ c.requests, (config.member c r).Answers config c r := fun r hr =>
    Config.member_answers hconfig hc hr
  refine ⟨?_, ?_⟩
  · rw [Config.members_eq_of_nodup hc.nodup hu, List.forall₂_map_left_iff, List.forall₂_same]
    exact hanswers
  · intro make hmake get hget hk hk'
    obtain ⟨r, hr, rfl⟩ := (Config.mem_members_of_classUnit hu).mp hmake
    obtain ⟨s, hs, rfl⟩ := (Config.mem_members_of_classUnit hu).mp hget
    have hr' := hanswers r hr
    have hs' := hanswers s hs
    cases r with
    | constructor fields =>
      cases s with
      | read f => exact hr'.readsBack hs'
      | constructor | write | stringify => cases hk'
    | read | write | stringify => cases hk

/-- A class in which the object of a member cannot be called `instance`, with a type that has a blank
and a comma in it. -/
def crate : ClassDecl :=
  { ClassDecl.ofName "demo.Crate" with
    fields := [
      { name := "instance", type := "Map<String, Integer>", modifiers := [] },
      { name := "label", type := "char[]", modifiers := ["protected"] },
      { name := "count", type := "int", modifiers := ["static"], isStatic := true }]
    markers := .all }

theorem members_keep_promises_crate :
    Config.classUnit { strategy := .companion "Lombok" } crate =
        .ok (some (Config.unitOf { strategy := .companion "Lombok" } crate)) ∧
      List.Forall₂ (Member.Answers { strategy := .companion "Lombok" } crate)
          (Config.unitOf { strategy := .companion "Lombok" } crate).members crate.requests ∧
        ∀ make ∈ (Config.unitOf { strategy := .companion "Lombok" } crate).members,
          ∀ get ∈ (Config.unitOf { strategy := .companion "Lombok" } crate).members,
            make.kind = .constructor → get.kind = .read → make.ReadsBack get crate := by
  have hconfig : Config.WellFormed { strategy := .companion "Lombok" } :=
    ⟨by decide +kernel, List.all_eq_true.mp (by decide +kernel)⟩
  have hcrate : crate.WellFormed :=
    ⟨by decide +kernel, by decide +kernel, by decide +kernel, by decide +kernel, by decide +kernel⟩
  have hunit : Config.classUnit { strategy := .companion "Lombok" } crate =
      .ok (some (Config.unitOf { strategy := .companion "Lombok" } crate)) :=
    Config.classUnit_eq_unitOf hcrate.nodup (by decide +kernel) (fun _ => by decide +kernel)
      fun h => absurd h (by decide)
  exact ⟨hunit, members_keep_promises hconfig hcrate hunit⟩

end AccessorGen
