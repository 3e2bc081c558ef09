import AccessorGen.Proofs.ClassOutcome

/-!
# What generation depends on

A member takes little from its class: the names of the class and of its instance fields, and of each field
that it is made for the name and the type (`Config.member_congr`). What is asked for is decided by the
markers. So nothing that is generated depends on static fields, on initial values, on supertypes, or on
any modifier but `private`, which matters to a companion alone.

A class that is written out again repeats what it declares. There the units of two such classes still
have the same members, and their sources differ at the head of the type and in its fields only.
-/

set_option autoImplicit false

namespace AccessorGen

/-! ## What members take from fields and classes -/

/-- Fields that are the same to a member. -/
structure FieldDecl.Like (f g : FieldDecl) : Prop where
  name : f.name = g.name
  type : f.type = g.type

/-- Requests for one kind of member, of fields that are the same to it. -/
inductive Request.Like : Request → Request → Prop
  | constructor {fs gs : List FieldDecl} (h : List.Forall₂ FieldDecl.Like fs gs) :
    Like (.constructor fs) (.constructor gs)
  | read {f g : FieldDecl} (h : f.Like g) : Like (.read f) (.read g)
  | write {f g : FieldDecl} (h : f.Like g) : Like (.write f) (.write g)
  | stringify {fs gs : List FieldDecl} (h : List.Forall₂ FieldDecl.Like fs gs) :
    Like (.stringify fs) (.stringify gs)

/-- Classes that are the same to a member. -/
structure ClassDecl.Like (c d : ClassDecl) : Prop where
  simpleName : c.simpleName = d.simpleName
  localName : c.localName = d.localName
  instanceNames : c.instanceNames = d.instanceNames

namespace FieldDecl.Like

variable {f g : FieldDecl}

theorem readerName (h : f.Like g) : f.readerName = g.readerName := by
  rw [FieldDecl.readerName, FieldDecl.readerName, isBoolean, isBoolean, h.type, h.name]

theorem writerName (h : f.Like g) : f.writerName = g.writerName := by
  rw [FieldDecl.writerName, FieldDecl.writerName, h.name]

theorem isCharArray (h : f.Like g) : f.isCharArray = g.isCharArray := by
  rw [FieldDecl.isCharArray, FieldDecl.isCharArray, h.type]

end FieldDecl.Like

theorem Request.Like.kind {r s : Request} (h : r.Like s) : r.kind = s.kind := by
  cases h <;> rfl

theorem ClassDecl.Like.objectName {c d : ClassDecl} (h : c.Like d) : c.objectName = d.objectName := by
  rw [ClassDecl.objectName, ClassDecl.objectName, h.instanceNames]

namespace Config

variable {c d : ClassDecl}

theorem typeName_congr (config : Config) (h : c.Like d) : config.typeName c = config.typeName d := by
  rw [typeName, typeName, h.localName, h.simpleName]

theorem receiver_congr (config : Config) (h : c.Like d) : config.receiver c = config.receiver d := by
  rw [receiver, receiver, h.objectName]

theorem receiverParameters_congr (config : Config) (h : c.Like d) :
    config.receiverParameters c = config.receiverParameters d := by
  rw [receiverParameters, receiverParameters, typeName_congr config h, h.objectName]

theorem appendFields_congr (receiver : String) {fs gs : List FieldDecl}
    (h : List.Forall₂ FieldDecl.Like fs gs) : appendFields receiver fs = appendFields receiver gs := by
  induction h with
  | nil => rfl
  | cons hfg hrest ih =>
    cases hrest with
    | nil => rw [appendFields, appendFields, hfg.name, hfg.isCharArray]
    | cons hnext hrest =>
      simp only [appendFields] at ih ⊢
      rw [hfg.name, hfg.isCharArray, ih]

theorem factory_congr (config : Config) (h : c.Like d) {fs gs : List FieldDecl}
    (hfields : List.Forall₂ FieldDecl.Like fs gs) : config.factory c fs = config.factory d gs := by
  have hparameters : fs.map (fun f => Java.Parameter.mk f.type f.name) =
      gs.map fun g => ⟨g.type, g.name⟩ :=
    map_eq_map_of_forall₂ hfields fun f g hfg => by rw [hfg.type, hfg.name]
  have hassigns : fs.map (fun f => Java.Statement.assign d.objectName f.name f.name) =
      gs.map fun g => .assign d.objectName g.name g.name :=
    map_eq_map_of_forall₂ hfields fun f g hfg => by rw [hfg.name]
  unfold factory
  rw [typeName_congr config h, h.simpleName, h.objectName, hparameters, hassigns]

theorem reader_congr (config : Config) (h : c.Like d) {f g : FieldDecl} (hf : f.Like g) :
    config.reader c f = config.reader d g := by
  unfold reader
  rw [receiver_congr config h, receiverParameters_congr config h, hf.readerName, hf.name, hf.type]

theorem writer_congr (config : Config) (h : c.Like d) {f g : FieldDecl} (hf : f.Like g) :
    config.writer c f = config.writer d g := by
  unfold writer
  rw [receiver_congr config h, receiverParameters_congr config h, hf.writerName, hf.name, hf.type]

theorem stringifier_congr (config : Config) (h : c.Like d) {fs gs : List FieldDecl}
    (hfields : List.Forall₂ FieldDecl.Like fs gs) :
    config.stringifier c fs = config.stringifier d gs := by
  unfold stringifier
  rw [receiver_congr config h, receiverParameters_congr config h, h.simpleName,
    appendFields_congr _ hfields]

/-- What a member looks like is decided by the names of the class and of its instance fields, and by the
names and types of the fields it is made for. -/
theorem method_congr (config : Config) (h : c.Like d) {r s : Request} (hr : r.Like s) :
    config.method c r = config.method d s := by
  cases hr with
  | constructor hfields => exact factory_congr config h hfields
  | read hf => exact reader_congr config h hf
  | write hf => exact writer_congr config h hf
  | stringify hfields => exact stringifier_congr config h hfields

theorem ordinalOf_congr (h : c.Like d) {r s : Request} (hr : r.Like s) :
    c.ordinalOf r = d.ordinalOf s := by
  cases hr with
  | constructor | stringify => rfl
  | read hf | write hf =>
    rw [ClassDecl.ordinalOf, ClassDecl.ordinalOf, ClassDecl.instanceIndex?, ClassDecl.instanceIndex?,
      h.instanceNames, hf.name]

/-- **Nothing else is in a member.** -/
theorem member_congr (config : Config) (h : c.Like d) {r s : Request} (hr : r.Like s) :
    config.member c r = config.member d s := by
  rw [member, member, method_congr config h hr, ordinalOf_congr h hr, hr.kind]

end Config

/-! ## What generation takes from a class -/

/-- Fields that generation cannot tell apart, except by one of them being private. -/
structure FieldDecl.AgreesWith (f g : FieldDecl) : Prop extends f.Like g where
  readMarked : f.readMarked = g.readMarked
  writeMarked : f.writeMarked = g.writeMarked

/-- Classes that agree on their names, on the markers and on the instance fields, wherever these stand
among the static ones. -/
structure ClassDecl.AgreesWith (c d : ClassDecl) : Prop where
  qualifiedName : c.qualifiedName = d.qualifiedName
  simpleName : c.simpleName = d.simpleName
  package : c.package = d.package
  markers : c.markers = d.markers
  instanceFields : List.Forall₂ FieldDecl.AgreesWith c.instanceFields d.instanceFields

namespace ClassDecl.AgreesWith

variable {c d : ClassDecl}

theorem packageName (h : c.AgreesWith d) : c.packageName = d.packageName := by
  rw [ClassDecl.packageName, ClassDecl.packageName, h.package, h.simpleName, h.qualifiedName]

theorem localName (h : c.AgreesWith d) : c.localName = d.localName := by
  rw [ClassDecl.localName, ClassDecl.localName, h.packageName, h.simpleName, h.qualifiedName]

theorem isNested (h : c.AgreesWith d) : c.isNested = d.isNested := by
  rw [ClassDecl.isNested, ClassDecl.isNested, h.localName]

theorem like (h : c.AgreesWith d) : c.Like d :=
  ⟨h.simpleName, h.localName, map_eq_map_of_forall₂ h.instanceFields fun _ _ hfg => hfg.name⟩

theorem unitSimpleName (h : c.AgreesWith d) (strategy : Strategy) :
    strategy.unitSimpleName c = strategy.unitSimpleName d := by
  cases strategy with
  | augment => exact h.simpleName
  | companion suffix => rw [Strategy.unitSimpleName, Strategy.unitSimpleName, h.localName]

theorem unitName (h : c.AgreesWith d) (strategy : Strategy) :
    c.unitName strategy = d.unitName strategy := by
  rw [ClassDecl.unitName, ClassDecl.unitName, h.packageName, h.unitSimpleName]

/-- Whatever else the instance fields have in common, those have that are asked to be read. -/
theorem readFields (h : c.AgreesWith d) {R : FieldDecl → FieldDecl → Prop}
    (hR : ∀ f g, R f g → f.AgreesWith g) (hfields : List.Forall₂ R c.instanceFields d.instanceFields) :
    List.Forall₂ R c.readFields d.readFields := by
  apply List.rel_filter _ hfields
  intro f g hfg
  simp only [h.markers, (hR f g hfg).readMarked]

theorem writeFields (h : c.AgreesWith d) {R : FieldDecl → FieldDecl → Prop}
    (hR : ∀ f g, R f g → f.AgreesWith g) (hfields : List.Forall₂ R c.instanceFields d.instanceFields) :
    List.Forall₂ R c.writeFields d.writeFields := by
  apply List.rel_filter _ hfields
  intro f g hfg
  simp only [h.markers, (hR f g hfg).writeMarked]

theorem touchedFields (h : c.AgreesWith d) {R : FieldDecl → FieldDecl → Prop}
    (hR : ∀ f g, R f g → f.AgreesWith g) (hfields : List.Forall₂ R c.instanceFields d.instanceFields) :
    List.Forall₂ R c.touchedFields d.touchedFields := by
  rw [ClassDecl.touchedFields, ClassDecl.touchedFields, h.markers]
  exact List.rel_append (List.rel_append (List.rel_append (forall₂_ite hfields _)
    (h.readFields hR hfields)) (h.writeFields hR hfields)) (forall₂_ite hfields _)

/-- The classes ask for members that are the same, in the same order. -/
theorem requests (h : c.AgreesWith d) : List.Forall₂ Request.Like c.requests d.requests := by
  have hlike : List.Forall₂ FieldDecl.Like c.instanceFields d.instanceFields :=
    h.instanceFields.imp fun _ _ hfg => hfg.toLike
  have hreads := List.rel_map (fun _ _ hfg => Request.Like.read hfg.toLike)
    (h.readFields (fun _ _ hfg => hfg) h.instanceFields)
  have hwrites := List.rel_map (fun _ _ hfg => Request.Like.write hfg.toLike)
    (h.writeFields (fun _ _ hfg => hfg) h.instanceFields)
  rw [ClassDecl.requests, ClassDecl.requests, h.markers]
  exact List.rel_append (List.rel_append (List.rel_append
    (forall₂_ite (.cons (.constructor hlike) .nil) _) hreads) hwrites)
    (forall₂_ite (.cons (.stringify hlike) .nil) _)

end ClassDecl.AgreesWith

namespace Config

variable {config : Config} {c d : ClassDecl}

/-! ## What is written out again -/

/-- Where a class is written out again: the head of the type, and what it declares itself. -/
def writtenOut (config : Config) (c : ClassDecl) : String :=
  config.typeHeader c ++ "\n" ++ String.join ((config.leadingSections c).map (· ++ "\n\n"))

/-- Everything else in a source is the package, the comment, the annotation and the members. -/
theorem render_eq (config : Config) (c : ClassDecl) {ms : List Member} (hne : ms ≠ []) :
    config.render c ms = config.preamble c ++ config.writtenOut c ++
      (String.intercalate "\n\n" (ms.map (·.text)) ++ "\n\x7d\n") := by
  have hsections : ∀ sections : List String,
      String.intercalate "\n\n" (sections ++ ms.map (·.text)) =
        String.join (sections.map (· ++ "\n\n")) ++ String.intercalate "\n\n" (ms.map (·.text)) := by
    intro sections
    induction sections with
    | nil => simp
    | cons s rest ih =>
      rw [List.cons_append, String.intercalate_cons_of_ne_nil (by simp [hne]), ih]
      simp [String.append_assoc]
  rw [render, hsections, writtenOut]
  simp only [String.append_assoc]

/-- A companion writes out nothing of the class. -/
theorem writtenOut_companion (h : c.AgreesWith d) (hs : config.strategy.isCompanion = true) :
    config.writtenOut c = config.writtenOut d := by
  rw [writtenOut, writtenOut, typeHeader, typeHeader, leadingSections, leadingSections,
    h.unitSimpleName]
  cases hstrategy : config.strategy with
  | augment =>
    rw [hstrategy] at hs
    cases hs
  | companion suffix => rfl

/-- The units of two classes have one name and the same members, and sources that differ at most where
the classes are written out. -/
structure UnitsAgree (config : Config) (c d : ClassDecl) (u v : SourceUnit) : Prop where
  name : u.name = v.name
  members : u.members = v.members
  source : ∃ above below, u.source = above ++ config.writtenOut c ++ below ∧
    v.source = above ++ config.writtenOut d ++ below

theorem UnitsAgree.eq {u v : SourceUnit} (h : UnitsAgree config c d u v)
    (hout : config.writtenOut c = config.writtenOut d) : u = v := by
  obtain ⟨above, below, hu, hv⟩ := h.source
  have hsource : u.source = v.source := by rw [hu, hv, hout]
  cases u
  cases v
  simp only [SourceUnit.mk.injEq]
  exact ⟨h.name, h.members, hsource⟩

/-- Around the same members, classes that agree give units that do. -/
theorem unitsAgree_of_agreesWith (h : c.AgreesWith d) {ms : List Member} (hne : ms ≠ []) :
    UnitsAgree config c d ⟨c.unitName config.strategy, ms, config.render c ms⟩
      ⟨d.unitName config.strategy, ms, config.render d ms⟩ := by
  have hpreamble : config.preamble c = config.preamble d := by
    rw [preamble, preamble, h.packageName]
  refine ⟨h.unitName _, rfl, _, _, render_eq config c hne, ?_⟩
  rw [hpreamble]
  exact render_eq config d hne

/-! ## The outcome -/

theorem endAlike_composeUnit (h : c.AgreesWith d) (ms : List Member) :
    EndAlike (Option.Rel (UnitsAgree config c d)) (config.composeUnit c ms)
      (config.composeUnit d ms) := by
  rw [composeUnit, composeUnit, h.isNested, h.qualifiedName]
  by_cases hempty : ms.isEmpty = true
  · rw [if_pos hempty, if_pos hempty]
    exact .gave .none
  · rw [if_neg hempty, if_neg hempty]
    have hne : Member.arrange ms ≠ [] := by
      simpa [Member.arrange, ← List.length_eq_zero_iff] using hempty
    by_cases hnested : (d.isNested && !config.strategy.isCompanion) = true
    · rw [if_pos hnested, if_pos hnested]
      exact .failed _
    · rw [if_neg hnested, if_neg hnested]
      dsimp only
      cases Member.firstRepeated? (Member.arrange ms) with
      | some m => exact .failed _
      | none => exact .gave (.some (unitsAgree_of_agreesWith h hne))

/-- Classes that agree come to the same error or to units that agree, if the same fields are out of
reach. -/
theorem endAlike_of_agreesWith (h : c.AgreesWith d)
    (hhides : List.Forall₂ (fun f g => f.AgreesWith g ∧ config.hides f = config.hides g)
      c.instanceFields d.instanceFields) :
    EndAlike (Option.Rel (UnitsAgree config c d)) (config.classUnit c) (config.classUnit d) := by
  have hmembers : c.requests.map (config.member c) = d.requests.map (config.member d) :=
    map_eq_map_of_forall₂ h.requests fun _ _ hr => member_congr config h.like hr
  -- the first field out of reach stands at the same place in both, if there is one
  have hfound := find?_of_forall₂ (h.touchedFields (fun _ _ hfg => hfg.1) hhides) fun _ _ hfg => hfg.2
  rw [classUnit_eq, classUnit_eq, hmembers]
  generalize c.touchedFields.find? config.hides = found, d.touchedFields.find? config.hides = found'
    at hfound ⊢
  cases hfound with
  | none => exact endAlike_composeUnit h _
  | some hfg =>
    rw [Option.elim_some, Option.elim_some, inaccessible, inaccessible, h.qualifiedName, hfg.1.name]
    exact .failed _

/-- **What generation depends on.** Let two classes agree on their names, on the markers and on the
instance fields, but for modifiers and initial values. As companions they have one and the same outcome
if the same of these fields are private. Written out again they have the same error, or both no unit, or
units that differ in nothing but the head of the type and its fields, whatever is private. -/
theorem classUnit_of_agreesWith (config : Config) {c d : ClassDecl} (h : c.AgreesWith d) :
    (config.strategy.isCompanion = true →
      List.Forall₂ (fun f g : FieldDecl => f.isPrivate = g.isPrivate) c.instanceFields
        d.instanceFields →
      config.classUnit c = config.classUnit d) ∧
    (config.strategy.isCompanion = false →
      EndAlike (Option.Rel (UnitsAgree config c d)) (config.classUnit c) (config.classUnit d)) := by
  constructor
  · intro hs hprivate
    have hhides : List.Forall₂ (fun f g => f.AgreesWith g ∧ config.hides f = config.hides g)
        c.instanceFields d.instanceFields := by
      refine (forall₂_and h.instanceFields hprivate).imp fun f g hfg => ⟨hfg.1, ?_⟩
      rw [hides, hides, hfg.2]
    apply (endAlike_of_agreesWith h hhides).eq
    intro unit unit' hunit
    cases hunit with
    | none => rfl
    | some huv => rw [huv.eq (writtenOut_companion h hs)]
  · intro hs
    apply endAlike_of_agreesWith h
    refine h.instanceFields.imp fun f g hfg => ⟨hfg, ?_⟩
    rw [hides, hides, hs, Bool.false_and, Bool.false_and]

/-- A class with a counter behind what its host declares before it. -/
def tally (superclass : Option String) (before : List FieldDecl) (counter : FieldDecl) : ClassDecl :=
  { qualifiedName := "demo.Tally"
    simpleName := "Tally"
    superclass
    fields := before ++ [counter]
    markers := .ofList [.getter] }

/-- A counter that can be reached from everywhere. -/
def openTally : ClassDecl := tally none [] { name := "count", type := "long", modifiers := [] }

/-- The same counter, private and with a superclass around it. -/
def privateTally : ClassDecl :=
  tally (some "Base") [] { name := "count", type := "long", modifiers := ["private"] }

/-- The same counter with a value at the start, behind a static field. -/
def finalTally : ClassDecl :=
  tally (some "Base") [{ name := "limit", type := "int", isStatic := true }]
    { name := "count", type := "long", modifiers := ["final"], initializer := some "1" }

theorem classUnit_of_agreesWith_tally :
    (∃ u, Config.classUnit { strategy := .companion "Kit" } finalTally = .ok (some u) ∧
      Config.classUnit { strategy := .companion "Kit" } openTally = .ok (some u)) ∧
    ∃ u v, Config.classUnit {} privateTally = .ok (some u) ∧
      Config.classUnit {} openTally = .ok (some v) ∧ UnitsAgree {} privateTally openTally u v := by
  constructor
  · have hopen : Config.classUnit { strategy := .companion "Kit" } openTally =
        .ok (some (Config.unitOf { strategy := .companion "Kit" } openTally)) := by decide +kernel
    refine ⟨_, Eq.trans ?_ hopen, hopen⟩
    apply (classUnit_of_agreesWith { strategy := .companion "Kit" } ?_).1 rfl
    · exact .cons (by decide) .nil
    · exact ⟨rfl, rfl, rfl, rfl, .cons ⟨⟨rfl, rfl⟩, rfl, rfl⟩ .nil⟩
  · have hprivate : Config.classUnit {} privateTally =
        .ok (some (Config.unitOf {} privateTally)) := by decide +kernel
    have hagree : privateTally.AgreesWith openTally :=
      ⟨rfl, rfl, rfl, rfl, .cons ⟨⟨rfl, rfl⟩, rfl, rfl⟩ .nil⟩
    obtain ⟨unit, hopen, hunits⟩ :=
      ((classUnit_of_agreesWith {} hagree).2 rfl).exists_of_ok hprivate
    cases hunits with
    | some huv => exact ⟨_, _, hprivate, hopen, huv⟩

end Config

end AccessorGen
