import AccessorGen.Proofs.Member.Meaning

/-!
# One member under two strategies

The strategy decides whether a member belongs to the class or to a companion of it, and nothing else. Here
that is said of the text: a line of a member is the same under both strategies, or it is one of the three
kinds of lines in which they differ (`Java.MemberLine`). A line has two readings, and the texts of the two
members are the two readings of the same lines.

The lines are those of the class's own member. The companion's member is the method that is made static,
gets the object as its first parameter and reaches every field through it (`Java.Method.asHelper`), so all
there is to show of each kind of member is that the generator makes that method.
-/

set_option autoImplicit false

namespace AccessorGen

namespace Java

/-! ## Lines -/

/-- A line of a member, by what the strategy makes of it. -/
inductive MemberLine
  /-- The same under both. -/
  | common (line : Line)
  /-- The mark of a method that replaces an inherited one. -/
  | overrideMark
  /-- The signature: type and name, then the parameters. -/
  | signature (heading : String) (parameters : List Parameter)
  /-- A line of the body in which a field is accessed. -/
  | access (before field after : String)

/-- The text of a line in which a field of an object is accessed. -/
def accessText (object before field after : String) : String :=
  before ++ object ++ "." ++ field ++ after

namespace MemberLine

/-- The line as it stands in the class itself. -/
def own : MemberLine → List Line
  | .common line => [line]
  | .overrideMark => [⟨1, "@Override"⟩]
  | .signature heading ps =>
    [⟨1, "public " ++ heading ++ "(" ++ Method.inlineParameters ps ++ ") \x7b"⟩]
  | .access before field after => [⟨2, accessText "this" before field after⟩]

/-- The line as it stands in a companion that is given the object. -/
def helper (object : Parameter) : MemberLine → List Line
  | .common line => [line]
  | .overrideMark => []
  | .signature heading ps =>
    [⟨1, "public static " ++ heading ++ "(" ++ Method.inlineParameters (object :: ps) ++ ") \x7b"⟩]
  | .access before field after => [⟨2, accessText object.name before field after⟩]

end MemberLine

/-- The line of a statement. Every statement that accesses a field is one of three. -/
def Statement.outline : Statement → MemberLine
  | .assign _ field value => .access "" field (" = " ++ value ++ ";")
  | .returnField _ field => .access "return " field ";"
  | .appendField label _ field asObject =>
    .access ("sb.append(\"" ++ label ++ "\").append(String.valueOf(" ++
      if asObject then "(Object) " else "") field "));"
  | .declareNew type name => .common ⟨2, (Statement.declareNew type name).text⟩
  | .returnVariable name => .common ⟨2, (Statement.returnVariable name).text⟩
  | .startString text => .common ⟨2, (Statement.startString text).text⟩
  | .appendText text => .common ⟨2, (Statement.appendText text).text⟩
  | .returnString => .common ⟨2, Statement.returnString.text⟩

/-- The lines of a method of the class itself. -/
def Method.outline (documented : Bool) (m : Method) : List MemberLine :=
  (if documented then m.javadoc.map .common else []) ++
    (if m.isOverride then [.overrideMark] else []) ++
    [.signature (m.returnType ++ " " ++ m.name) m.parameters] ++
    m.body.map (·.outline) ++ [.common ⟨1, "\x7d"⟩]

/-! ## Methods -/

/-- The statement with its field reached through the variable. -/
def Statement.through (object : String) : Statement → Statement
  | .assign _ field value => .assign object field value
  | .returnField _ field => .returnField object field
  | .appendField label _ field asObject => .appendField label object field asObject
  | .declareNew type name => .declareNew type name
  | .returnVariable name => .returnVariable name
  | .startString text => .startString text
  | .appendText text => .appendText text
  | .returnString => .returnString

/-- The static method that does the same to an object it is given. -/
def Method.asHelper (object : Parameter) (m : Method) : Method :=
  { m with
    isOverride := false
    isStatic := true
    parameters := object :: m.parameters
    body := m.body.map (Statement.through object.name) }

/-! The equations of `Statement.text` are slow to derive, so each statement goes by evaluation. -/

theorem accessText_assign (object field value : String) :
    accessText object "" field (" = " ++ value ++ ";") = (Statement.assign object field value).text := by
  show "" ++ object ++ "." ++ field ++ (" = " ++ value ++ ";") =
    object ++ "." ++ field ++ " = " ++ value ++ ";"
  simp only [String.empty_append, String.append_assoc]

theorem helper_outline (object : Parameter) (s : Statement) :
    s.outline.helper object = [⟨2, (s.through object.name).text⟩] := by
  cases s with
  | assign _ field value =>
    show [(⟨2, accessText object.name "" field (" = " ++ value ++ ";")⟩ : Line)] = _
    rw [accessText_assign]
    rfl
  | returnField | appendField => rfl
  | declareNew | returnVariable | startString | appendText | returnString => rfl

example : (Statement.returnField "this" "id").outline.helper ⟨"Point", "instance"⟩ =
    [⟨2, "return instance.id;"⟩] := by decide

/-- No statement is a signature, so the class itself is the companion whose object is `this`. -/
theorem own_outline (s : Statement) : s.outline.own = [⟨2, (s.through "this").text⟩] := by
  have hthis : s.outline.own = s.outline.helper ⟨"", "this"⟩ := by cases s <;> rfl
  rw [hthis, helper_outline]

/-- Reading the lines of a method is reading its parts. -/
theorem flatMap_outline {read : MemberLine → List Line} (hcommon : ∀ l, read (.common l) = [l])
    (documented : Bool) (m : Method) :
    (m.outline documented).flatMap read =
      (if documented then m.javadoc else []) ++ (if m.isOverride then read .overrideMark else []) ++
        read (.signature (m.returnType ++ " " ++ m.name) m.parameters) ++
        m.body.flatMap (fun s => read s.outline) ++ [⟨1, "\x7d"⟩] := by
  have hjavadoc : (m.javadoc.map MemberLine.common).flatMap read = m.javadoc := by
    simp [Method.javadoc, hcommon]
  have hbody : (m.body.map Statement.outline).flatMap read = m.body.flatMap fun s => read s.outline :=
    List.flatMap_map ..
  simp only [Method.outline, List.flatMap_append, List.flatMap_singleton, hcommon, hbody]
  cases documented <;> cases m.isOverride <;> simp [hjavadoc]

theorem flatMap_body {read : MemberLine → List Line} {object : String}
    (hread : ∀ s : Statement, read s.outline = [⟨2, (s.through object).text⟩])
    (body : List Statement) :
    (body.flatMap fun s => read s.outline) =
      (body.map (Statement.through object)).map (⟨2, ·.text⟩) := by
  simp only [hread, List.map_map, ← List.map_eq_flatMap]
  rfl

namespace Method

variable {m : Method}

/-- **The own reading of a method's lines is the method.** -/
theorem lines_own (documented : Bool) (hlayout : m.layout = .inline) (hstatic : m.isStatic = false)
    (hbody : m.body.map (Statement.through "this") = m.body) :
    m.lines documented = (m.outline documented).flatMap MemberLine.own := by
  have hsignature : m.signature = (MemberLine.signature (m.returnType ++ " " ++ m.name)
      m.parameters).own := by
    rw [signature_inline (Or.inl hlayout), MemberLine.own, opening, hstatic]
    simp only [Bool.false_eq_true, if_false, String.append_assoc]
  rw [flatMap_outline fun _ => rfl, flatMap_body own_outline, hbody, lines, code, hsignature]
  simp only [List.append_assoc]
  rfl

/-- **The helper reading of a method's lines is the method made static.** -/
theorem lines_helper (documented : Bool) (object : Parameter) (hlayout : m.layout = .inline) :
    (m.asHelper object).lines documented =
      (m.outline documented).flatMap (MemberLine.helper object) := by
  have hinline : (m.asHelper object).layout = .inline := hlayout
  have hsignature : (m.asHelper object).signature = (MemberLine.signature
      (m.returnType ++ " " ++ m.name) m.parameters).helper object := by
    rw [signature_inline (Or.inl hinline), MemberLine.helper, opening, asHelper]
    simp only [if_true, String.append_assoc]
  rw [flatMap_outline fun _ => rfl, flatMap_body (helper_outline object), lines, code, hsignature]
  simp only [asHelper, MemberLine.helper, Bool.false_eq_true, if_false, ite_self, List.nil_append,
    List.append_nil, List.append_assoc]
  rfl

end Method

end Java

/-! ## The two strategies -/

open Java

/-- The parameter through which a helper is given an object of the class. -/
def ClassDecl.objectParameter (c : ClassDecl) : Parameter := ⟨c.simpleName, c.objectName⟩

namespace Config

/-- The settings with the members in the class itself. -/
def inClass (config : Config) : Config := { config with strategy := .augment }

/-- The settings with the members in a companion. -/
def inCompanion (config : Config) (suffix : String) : Config :=
  { config with strategy := .companion suffix }

variable {config : Config} {c : ClassDecl} {r : Request} {suffix : String}

theorem appendFields_through (object receiver : String) (fields : List FieldDecl) :
    (appendFields receiver fields).map (Statement.through object) = appendFields object fields := by
  induction fields with
  | nil => rfl
  | cons f rest ih =>
    cases rest with
    | nil => rfl
    | cons g rest =>
      simp only [appendFields, List.map_cons, Statement.through] at ih ⊢
      rw [ih]

theorem typeName_inCompanion (hl : c.localName = c.simpleName) :
    (config.inCompanion suffix).typeName c = c.simpleName := hl

theorem receiverParameters_inCompanion (config : Config) (suffix : String)
    (hl : c.localName = c.simpleName) :
    (config.inCompanion suffix).receiverParameters c = [c.objectParameter] := by
  rw [receiverParameters, typeName_inCompanion hl]
  rfl

theorem factory_inCompanion (hl : c.localName = c.simpleName) (fields : List FieldDecl) :
    (config.inCompanion suffix).factory c fields = config.inClass.factory c fields := by
  unfold factory
  rw [typeName_inCompanion hl]
  rfl

/-- **The companion's member is the class's own, made a helper.** -/
theorem method_inCompanion (config : Config) (suffix : String) (hl : c.localName = c.simpleName)
    (hr : r.kind ≠ .constructor) :
    (config.inCompanion suffix).method c r =
      (config.inClass.method c r).asHelper c.objectParameter := by
  have hparameters := receiverParameters_inCompanion config suffix hl
  cases r with
  | constructor => exact absurd rfl hr
  | read f =>
    unfold method reader Method.asHelper
    dsimp only
    rw [hparameters]
    rfl
  | write f =>
    unfold method writer Method.asHelper
    dsimp only
    rw [hparameters]
    rfl
  | stringify fields =>
    unfold method stringifier Method.asHelper
    dsimp only
    rw [hparameters, List.map_append, List.map_cons, appendFields_through]
    rfl

/-- The members of the class itself reach their fields through `this`. -/
theorem method_inClass_through (hr : r.kind ≠ .constructor) :
    (config.inClass.method c r).body.map (Statement.through "this") =
      (config.inClass.method c r).body := by
  cases r with
  | constructor => exact absurd rfl hr
  | read f | write f => rfl
  | stringify fields =>
    show (config.inClass.stringifier c fields).body.map _ = (config.inClass.stringifier c fields).body
    rw [stringifier_body, List.map_cons, List.map_append, appendFields_through]
    rfl

theorem layout_method (hr : r.kind ≠ .constructor) : (config.method c r).layout = .inline := by
  cases r with
  | constructor => exact absurd rfl hr
  | read | write | stringify => rfl

theorem isStatic_method_inClass (hr : r.kind ≠ .constructor) :
    (config.inClass.method c r).isStatic = false := by
  cases r with
  | constructor => exact absurd rfl hr
  | read | write | stringify => rfl

end Config

/-- One request answered under both strategies: members of one kind, name and ordinal, the factory's text
the same, and of every other member the two readings of the lines it has in the class itself. -/
structure Request.AnswersAlike (config : Config) (c : ClassDecl) (r : Request) (own helper : Member) :
    Prop where
  kind : own.kind = r.kind ∧ helper.kind = r.kind
  name : helper.name = own.name
  ordinal : helper.ordinal = own.ordinal
  factory : r.kind = .constructor → helper.text = own.text
  method : r.kind ≠ .constructor →
    own.text = renderLines config.indent
      (((config.inClass.method c r).outline config.emitJavadoc).flatMap MemberLine.own) ∧
    helper.text = renderLines config.indent
      (((config.inClass.method c r).outline config.emitJavadoc).flatMap
        (MemberLine.helper c.objectParameter))

namespace Config

variable {c : ClassDecl}

theorem member_answersAlike (config : Config) (suffix : String) (hl : c.localName = c.simpleName)
    (r : Request) :
    r.AnswersAlike config c (config.inClass.member c r) ((config.inCompanion suffix).member c r) := by
  by_cases hr : r.kind = .constructor
  · have hmethod : (config.inCompanion suffix).method c r = config.inClass.method c r := by
      cases r with
      | constructor fields => exact factory_inCompanion hl fields
      | read | write | stringify => cases hr
    refine ⟨⟨rfl, rfl⟩, congrArg Method.name hmethod, rfl, fun _ => ?_, fun hne => absurd hr hne⟩
    rw [member, member, hmethod]
    rfl
  · have hmethod := method_inCompanion config suffix hl hr
    have hname : ((config.inCompanion suffix).method c r).name =
        (config.inClass.method c r).name := by
      rw [hmethod]
      rfl
    refine ⟨⟨rfl, rfl⟩, hname, rfl, fun h => absurd h hr, fun _ => ⟨?_, ?_⟩⟩
    · rw [member, Method.render, Method.lines_own _ (layout_method hr) (isStatic_method_inClass hr)
        (method_inClass_through hr)]
      rfl
    · rw [member, hmethod, Method.render, Method.lines_helper _ _ (layout_method hr)]
      rfl

/-- Slots do not depend on the settings, so neither does the order of the members. -/
theorem arrange_members (config other : Config) (c : ClassDecl) :
    Member.arrange (c.requests.map (config.member c)) =
      (c.requests.mergeSort fun r s => (other.member c r).slotLe (other.member c s)).map
        (config.member c) := by
  rw [Member.arrange, List.map_mergeSort]
  exact fun r _ s _ => rfl

/-- **Both strategies generate the same members.** -/
theorem members_inCompanion (config : Config) (suffix : String)
    (hname : c.simpleName = Text.lastSegment c.qualifiedName) {u v : SourceUnit}
    (hu : config.inClass.classUnit c = .ok (some u))
    (hv : (config.inCompanion suffix).classUnit c = .ok (some v)) :
    List.Forall₂ (fun own helper => ∃ r ∈ c.requests, r.AnswersAlike config c own helper)
      u.members v.members := by
  have hl : c.localName = c.simpleName :=
    ClassDecl.localName_eq_simpleName hname (isNested_of_classUnit hu rfl)
  rw [members_of_classUnit hu, members_of_classUnit hv, arrange_members _ config,
    arrange_members _ config, List.forall₂_map_left_iff, List.forall₂_map_right_iff,
    List.forall₂_same]
  intro r hr
  exact ⟨r, List.mem_mergeSort.mp hr, member_answersAlike config suffix hl r⟩

end Config

/-- The object of this class cannot be called `instance`. -/
theorem Config.members_inCompanion_crate :
    (inClass {}).classUnit crate = .ok (some ((inClass {}).unitOf crate)) ∧
      (inCompanion {} "Lombok").classUnit crate =
        .ok (some ((inCompanion {} "Lombok").unitOf crate)) ∧
      List.Forall₂ (fun own helper => ∃ r ∈ crate.requests, r.AnswersAlike {} crate own helper)
        ((inClass {}).unitOf crate).members ((inCompanion {} "Lombok").unitOf crate).members := by
  have hnames : crate.instanceNames.Nodup := by decide +kernel
  have hunit : ∀ config : Config, (config.strategy.isCompanion = false → crate.isNested = false) →
      config.classUnit crate = .ok (some (config.unitOf crate)) := fun config hflat =>
    classUnit_eq_unitOf hnames (by decide +kernel) (fun _ => by decide +kernel) hflat
  have hown := hunit (inClass {}) fun _ => by decide +kernel
  have hhelper := hunit (inCompanion {} "Lombok") fun h => absurd h (by decide)
  exact ⟨hown, hhelper, members_inCompanion {} "Lombok" (by decide +kernel) hown hhelper⟩

end AccessorGen
