import AccessorGen.Proofs.Capital
import AccessorGen.Proofs.Java.ReadBack
import AccessorGen.Proofs.Member.Generated
import AccessorGen.Proofs.Naming

/-!
# Members as they are written

Every member of a well-formed class is read back from its text. Well-formed is what a schema that
passes the check is: the names are identifiers, no two instance fields share one, and every type is on
one line. Apart from that a type is any text.

Besides the names of the class and its fields there is one that the members bring along, that of the
object. It must differ from the fields, from `this`, and from the string under construction, and all
three come from how it is made: `instance`, behind underscores.
-/

set_option autoImplicit false

namespace AccessorGen

/-- What a class must be for its members to be what they are meant to be. -/
structure ClassDecl.WellFormed (c : ClassDecl) : Prop where
  nodup : c.instanceNames.Nodup
  names : ∀ name ∈ c.instanceNames, isIdentifier name = true
  types : ∀ f ∈ c.instanceFields, '\n' ∉ f.type.toList
  simpleName : isIdentifier c.simpleName = true
  qualifiedName : isDottedName c.qualifiedName = true

/-- What the settings must be: the factory has a name, and an indentation is blank. -/
structure Config.WellFormed (config : Config) : Prop where
  factoryName : isIdentifier config.factoryName = true
  indent : ∀ a ∈ config.indent.toList, Text.isBlank a = true

theorem ClassDecl.WellFormed.isIdentifier {c : ClassDecl} (hc : c.WellFormed) {f : FieldDecl}
    (hf : f ∈ c.instanceFields) : isIdentifier f.name = true :=
  hc.names f.name (List.mem_map_of_mem hf)

theorem ClassDecl.WellFormed.hasIdentifierForm {c : ClassDecl} (hc : c.WellFormed) {f : FieldDecl}
    (hf : f ∈ c.instanceFields) : hasIdentifierForm f.name.toList = true :=
  hasIdentifierForm_of_isIdentifier (hc.isIdentifier hf)

/-! ## The name of the object -/

/-- **A fresh name is none of those taken,** given as many steps as there are taken names of at least
the length of the first try: each step is one character further, and passes one of them. -/
theorem freshFrom_not_mem {taken : List String} {steps : Nat} {name : String}
    (h : (taken.filter fun s => name.length ≤ s.length).length ≤ steps) :
    freshFrom taken steps name ∉ taken := by
  induction steps generalizing name with
  | zero =>
    intro hmem
    have hin : name ∈ taken.filter fun s => name.length ≤ s.length :=
      List.mem_filter.mpr ⟨hmem, by simp⟩
    exact absurd (List.length_pos_of_mem hin) (by omega)
  | succ steps ih =>
    rw [freshFrom]
    by_cases hmem : taken.contains name = true
    · rw [if_pos hmem]
      -- the longer name leaves one name fewer to be passed, the one that was tried
      refine ih ?_
      have hlonger : ("_" ++ name).length = name.length + 1 := by
        rw [String.length_append, Nat.add_comm]
        rfl
      have hsub : (taken.filter fun s => ("_" ++ name).length ≤ s.length).Sublist
          (taken.filter fun s => name.length ≤ s.length) := by
        refine List.monotone_filter_right taken fun s hs => ?_
        simp only [hlonger, decide_eq_true_eq] at hs ⊢
        omega
      have hlost : name ∉ taken.filter fun s => ("_" ++ name).length ≤ s.length := by
        simp [List.mem_filter, hlonger]
      have hkept : name ∈ taken.filter fun s => name.length ≤ s.length :=
        List.mem_filter.mpr ⟨by simpa using hmem, by simp⟩
      have hne : (taken.filter fun s => ("_" ++ name).length ≤ s.length).length ≠
          (taken.filter fun s => name.length ≤ s.length).length :=
        fun he => hlost (hsub.eq_of_length he ▸ hkept)
      have hle := hsub.length_le
      omega
    · rw [if_neg hmem]
      simpa using hmem

/-- An underscore in front leaves an identifier an identifier. The only reserved word that starts with
one is the underscore alone. -/
theorem isIdentifier_underscore {name : String} (h : isIdentifier name = true) :
    isIdentifier ("_" ++ name) = true := by
  have hform : hasIdentifierForm ("_" ++ name).toList = true := by
    rw [String.toList_append]
    exact hasIdentifierForm_append (by decide +kernel) fun c hc =>
      continuesIdentifier_of_mem (hasIdentifierForm_of_isIdentifier h) hc
  have hreserved : "_" ++ name ∉ reservedWords := by
    intro hmem
    have hwords : ∀ w ∈ reservedWords, w.toList.head? = some '_' → w = "_" := by decide +kernel
    have hname := hwords _ hmem (by simp)
    have hempty : name = "" := by
      rw [← String.toList_inj, String.toList_append] at hname
      rw [← String.toList_inj]
      exact List.append_right_eq_self.mp hname
    exact ne_empty_of_isIdentifier h hempty
  rw [AccessorGen.isIdentifier, hform, Bool.true_and, Bool.not_eq_true', List.contains_eq_mem,
    decide_eq_false_iff_not]
  exact hreserved

theorem isIdentifier_freshFrom (taken : List String) (steps : Nat) {name : String}
    (h : isIdentifier name = true) : isIdentifier (freshFrom taken steps name) = true := by
  induction steps generalizing name with
  | zero => exact h
  | succ steps ih =>
    rw [freshFrom]
    split
    · exact ih (isIdentifier_underscore h)
    · exact h

theorem length_le_freshFrom (taken : List String) (steps : Nat) (name : String) :
    name.length ≤ (freshFrom taken steps name).length := by
  induction steps generalizing name with
  | zero => exact Nat.le_refl _
  | succ steps ih =>
    rw [freshFrom]
    split
    · refine Nat.le_trans ?_ (ih _)
      rw [String.length_append]
      exact Nat.le_add_left _ _
    · exact Nat.le_refl _

namespace ClassDecl

/-- **No instance field has the name of the object.** -/
theorem objectName_not_mem (c : ClassDecl) : c.objectName ∉ c.instanceNames :=
  freshFrom_not_mem (List.length_filter_le _ _)

theorem isIdentifier_objectName (c : ClassDecl) : isIdentifier c.objectName = true :=
  isIdentifier_freshFrom _ _ (by decide +kernel)

theorem objectName_ne_this (c : ClassDecl) : c.objectName ≠ "this" := by
  intro he
  have h := not_mem_reservedWords c.isIdentifier_objectName
  rw [he] at h
  exact h (by decide +kernel)

theorem objectName_ne_builderName (c : ClassDecl) : c.objectName ≠ Java.builderName := by
  intro he
  have h : "instance".length ≤ c.objectName.length := length_le_freshFrom _ _ _
  rw [he] at h
  exact absurd h (by decide)

end ClassDecl

/-! ## The four members -/

theorem isClassName_of_isDottedName {s : String} (h : isDottedName s = true) :
    Java.IsClassName s := by
  refine ⟨?_, ?_⟩
  · rw [List.all_eq_true]
    intro cs hcs
    have hpart := List.all_eq_true.mp h (String.ofList cs) (List.mem_map_of_mem hcs)
    simpa using hasIdentifierForm_of_isIdentifier hpart
  · rintro rfl
    exact absurd h (by decide +kernel)

namespace Config

variable {config : Config} {c : ClassDecl}

theorem isClassName_typeName (hc : c.WellFormed) : Java.IsClassName (config.typeName c) := by
  rw [typeName]
  split
  · exact isClassName_of_isDottedName
      (ClassDecl.isDottedName_localName hc.simpleName hc.qualifiedName)
  · exact isClassName_of_isDottedName (isDottedName_of_isIdentifier hc.simpleName)

theorem not_mem_typeName (hc : c.WellFormed) {a : Char} (hp : a ∈ punctuation) (hd : a ≠ '.') :
    a ∉ (config.typeName c).toList :=
  Java.not_mem_of_isClassName (isClassName_typeName hc) hp hd

theorem hasIdentifierForm_objectName (c : ClassDecl) :
    hasIdentifierForm c.objectName.toList = true :=
  hasIdentifierForm_of_isIdentifier c.isIdentifier_objectName

theorem hasIdentifierForm_receiver (config : Config) (c : ClassDecl) :
    hasIdentifierForm (config.receiver c).toList = true := by
  rw [receiver]
  split
  · exact hasIdentifierForm_objectName c
  · decide +kernel

/-- A member speaks of `this` exactly when it is not static. -/
theorem receiver_beq_this (config : Config) (c : ClassDecl) :
    (some (config.receiver c) == some "this") = !config.strategy.isCompanion := by
  rw [receiver]
  cases config.strategy.isCompanion with
  | true => simpa using c.objectName_ne_this
  | false => rfl

theorem legible_receiverParameters (hc : c.WellFormed) :
    ∀ p ∈ config.receiverParameters c, p.Legible := by
  intro p hp
  rw [receiverParameters] at hp
  split at hp
  · rw [List.mem_singleton.mp hp]
    exact ⟨hasIdentifierForm_objectName c, not_mem_typeName hc (by decide) (by decide)⟩
  · exact absurd hp List.not_mem_nil

/-! Every member's body and parameters by evaluation. As with statements, the equations of the
definitions themselves are slow to derive. -/

theorem factory_body (config : Config) (c : ClassDecl) (fields : List FieldDecl) :
    (config.factory c fields).body =
      .declareNew (config.typeName c) c.objectName ::
        (fields.map (·.name)).map (fun name => .assign c.objectName name name) ++
          [.returnVariable c.objectName] := by
  rw [List.map_map]
  rfl

theorem stringifier_body (config : Config) (c : ClassDecl) (fields : List FieldDecl) :
    (config.stringifier c fields).body =
      .startString (c.simpleName ++ "\x7b") ::
        (appendFields (config.receiver c) fields ++ [.appendText "\x7d", .returnString]) := rfl

/-- What a member says of itself is a sentence around a name. -/
theorem slash_not_mem {name before after : String} (h : isIdentifier name = true)
    (hb : '/' ∉ before.toList) (ha : '/' ∉ after.toList) :
    '/' ∉ (before ++ name ++ after).toList := by
  have hn : '/' ∉ name.toList := not_mem_of_isIdentifier h (by decide)
  simp [hb, hn, ha]

theorem speaksOfThis_factory (config : Config) (c : ClassDecl) (fields : List FieldDecl) :
    Java.speaksOfThis (config.factory c fields).body = false := by
  rw [factory_body]
  simp [Java.speaksOfThis, Java.Statement.object?, c.objectName_ne_this]

theorem legible_factory (hconfig : config.WellFormed) (hc : c.WellFormed) :
    (config.factory c c.instanceFields).Legible where
  summary := slash_not_mem hc.simpleName (by decide) (by decide)
  name := hasIdentifierForm_of_isIdentifier hconfig.factoryName
  returnType := not_mem_typeName hc (by decide) (by decide)
  parameters := by
    intro p hp
    obtain ⟨f, hf, rfl⟩ := List.mem_map.mp hp
    exact ⟨hc.hasIdentifierForm hf, hc.types f hf⟩
  body := by
    intro s hs
    rw [factory_body, List.mem_append, List.mem_cons, List.mem_map, List.mem_singleton] at hs
    rcases hs with (rfl | ⟨name, hn, rfl⟩) | rfl
    · exact ⟨isClassName_typeName hc, hasIdentifierForm_objectName c⟩
    · have hname := hasIdentifierForm_of_isIdentifier (hc.names name hn)
      exact ⟨hasIdentifierForm_objectName c, hname, hname⟩
    · exact hasIdentifierForm_objectName c
  body_ne_nil := by simp [factory_body]
  static := fun _ => speaksOfThis_factory config c _
  instance_ := fun h => absurd (show true = false from h) (by simp)

/-- Without fields the factory has nothing to stack. -/
theorem inlineLegible_factory (config : Config) (c : ClassDecl) :
    (config.factory c []).InlineLegible where
  parenthesis := by
    have hr : Java.returnsValue (config.factory c []).body = true := by
      rw [factory_body]
      rfl
    rw [if_pos hr]
    exact fun p hp => absurd hp List.not_mem_nil
  comma := Or.inl rfl

/-! The two accessors have the receiver in common. -/

theorem comma_receiverParameters (config : Config) (hc : c.WellFormed) :
    (config.strategy.isCompanion = false ∧ config.receiverParameters c = []) ∨
      ∃ p, config.strategy.isCompanion = true ∧ config.receiverParameters c = [p] ∧
        ',' ∉ p.type.toList := by
  rw [receiverParameters]
  cases config.strategy.isCompanion with
  | true => exact Or.inr ⟨_, rfl, rfl, not_mem_typeName hc (by decide) (by decide)⟩
  | false => exact Or.inl ⟨rfl, rfl⟩

theorem parenthesis_receiverParameters (hc : c.WellFormed) :
    ∀ p ∈ config.receiverParameters c, '(' ∉ p.type.toList := by
  intro p hp
  rw [receiverParameters] at hp
  split at hp
  · rw [List.mem_singleton.mp hp]
    exact not_mem_typeName hc (by decide) (by decide)
  · exact absurd hp List.not_mem_nil

theorem speaksOfThis_reader (config : Config) (c : ClassDecl) (f : FieldDecl) :
    Java.speaksOfThis (config.reader c f).body = !config.strategy.isCompanion := by
  rw [← receiver_beq_this config c]
  exact Bool.or_false _

theorem legible_reader (hc : c.WellFormed) {f : FieldDecl} (hf : f ∈ c.instanceFields) :
    (config.reader c f).Legible where
  summary := slash_not_mem (hc.isIdentifier hf) (by decide) (by decide)
  name := FieldDecl.hasIdentifierForm_readerName (hc.isIdentifier hf)
  returnType := hc.types f hf
  parameters := legible_receiverParameters hc
  body := by
    intro s hs
    rw [List.mem_singleton.mp hs]
    exact ⟨hasIdentifierForm_receiver config c, hc.hasIdentifierForm hf⟩
  body_ne_nil := List.cons_ne_nil _ _
  static := fun h => by rw [speaksOfThis_reader, show config.strategy.isCompanion = true from h]; rfl
  instance_ := fun h =>
    Or.inl (by rw [speaksOfThis_reader, show config.strategy.isCompanion = false from h]; rfl)

theorem inlineLegible_reader (hc : c.WellFormed) (f : FieldDecl) :
    (config.reader c f).InlineLegible where
  parenthesis := by
    rw [if_pos (show Java.returnsValue (config.reader c f).body = true from rfl)]
    exact parenthesis_receiverParameters hc
  comma := by
    rcases comma_receiverParameters config hc with ⟨_, h⟩ | ⟨p, _, h, hp⟩
    · exact Or.inl h
    · exact Or.inr (Or.inl ⟨p, h, fun _ => hp⟩)

theorem speaksOfThis_writer (config : Config) (c : ClassDecl) (f : FieldDecl) :
    Java.speaksOfThis (config.writer c f).body = !config.strategy.isCompanion := by
  rw [← receiver_beq_this config c]
  exact Bool.or_false _

theorem legible_writer (hc : c.WellFormed) {f : FieldDecl} (hf : f ∈ c.instanceFields) :
    (config.writer c f).Legible where
  summary := slash_not_mem (hc.isIdentifier hf) (by decide) (by decide)
  name := FieldDecl.hasIdentifierForm_writerName (hc.isIdentifier hf)
  returnType := by
    show '\n' ∉ "void".toList
    decide
  parameters := by
    intro p hp
    rcases List.mem_append.mp hp with hp | hp
    · exact legible_receiverParameters hc p hp
    · rw [List.mem_singleton.mp hp]
      exact ⟨hc.hasIdentifierForm hf, hc.types f hf⟩
  body := by
    intro s hs
    rw [List.mem_singleton.mp hs]
    exact ⟨hasIdentifierForm_receiver config c, hc.hasIdentifierForm hf, hc.hasIdentifierForm hf⟩
  body_ne_nil := List.cons_ne_nil _ _
  static := fun h => by rw [speaksOfThis_writer, show config.strategy.isCompanion = true from h]; rfl
  instance_ := fun h =>
    Or.inl (by rw [speaksOfThis_writer, show config.strategy.isCompanion = false from h]; rfl)

theorem inlineLegible_writer (hc : c.WellFormed) (f : FieldDecl) :
    (config.writer c f).InlineLegible where
  parenthesis := by
    have hr : Java.returnsValue (config.writer c f).body = false := rfl
    rw [hr, if_neg Bool.false_ne_true]
    show '(' ∉ "void".toList
    decide
  comma := by
    have hps : (config.writer c f).parameters = config.receiverParameters c ++ [⟨f.type, f.name⟩] :=
      rfl
    rcases comma_receiverParameters config hc with ⟨hs, h⟩ | ⟨p, hs, h, hp⟩
    · refine Or.inr (Or.inl ⟨_, by rw [hps, h]; rfl, fun hstatic => ?_⟩)
      rw [show config.strategy.isCompanion = true from hstatic] at hs
      exact absurd hs (by simp)
    · exact Or.inr (Or.inr ⟨p, _, by rw [hps, h]; rfl, hs, hp⟩)

/-- A name and plain text behind it can stand in a string literal. -/
theorem isPlain_append {name after : String} (h : hasIdentifierForm name.toList = true)
    (ha : Java.IsPlain after) : Java.IsPlain (name ++ after) := by
  obtain ⟨hquote, hescape, hline⟩ := ha
  have hname : ∀ a ∈ punctuation, a ∉ name.toList := fun a hp => not_mem_of_hasIdentifierForm h hp
  refine ⟨?_, ?_, ?_⟩
  · simp [hname '"' (by decide), hquote]
  · simp [hname '\\' (by decide), hescape]
  · simp [hname '\n' (by decide), hline]

theorem legible_appendFields {receiver : String} (hr : hasIdentifierForm receiver.toList = true)
    {fields : List FieldDecl} (hf : ∀ f ∈ fields, hasIdentifierForm f.name.toList = true) :
    ∀ s ∈ appendFields receiver fields, s.Legible := by
  have hfield : ∀ f ∈ fields, ∀ asObject,
      (Java.Statement.appendField (f.name ++ "=") receiver f.name asObject).Legible := by
    intro f hmem asObject
    exact ⟨isPlain_append (hf f hmem) ⟨by decide, by decide, by decide⟩, hr, hf f hmem⟩
  have hcomma : (Java.Statement.appendText ", ").Legible := ⟨by decide, by decide, by decide⟩
  induction fields with
  | nil => exact fun s hs => absurd hs List.not_mem_nil
  | cons f rest ih =>
    have ih := ih (fun g hg => hf g (List.mem_cons_of_mem _ hg)) fun g hg =>
      hfield g (List.mem_cons_of_mem _ hg)
    cases rest with
    | nil =>
      intro s hs
      rw [List.mem_singleton.mp hs]
      exact hfield f List.mem_cons_self _
    | cons g rest =>
      intro s hs
      rcases List.mem_cons.mp hs with rfl | hs
      · exact hfield f List.mem_cons_self _
      · rcases List.mem_cons.mp hs with rfl | hs
        · exact hcomma
        · exact ih s hs

/-- The statements of the string form speak of the receiver or of nothing. -/
theorem speaksOfThis_appendFields {receiver : String} (hr : receiver ≠ "this")
    (fields : List FieldDecl) : Java.speaksOfThis (appendFields receiver fields) = false := by
  induction fields with
  | nil => rfl
  | cons f rest ih =>
    have hfirst : (some receiver == some "this") = false := by simpa using hr
    cases rest with
    | nil => simpa [appendFields, Java.speaksOfThis, Java.Statement.object?] using hfirst
    | cons g rest =>
      rw [Java.speaksOfThis] at ih ⊢
      simpa [appendFields, Java.Statement.object?, hfirst] using ih

theorem legible_stringifier (hc : c.WellFormed) :
    (config.stringifier c c.instanceFields).Legible where
  summary := slash_not_mem hc.simpleName (by decide) (by decide)
  name := by
    show hasIdentifierForm "toString".toList = true
    decide +kernel
  returnType := by
    show '\n' ∉ "String".toList
    decide
  parameters := legible_receiverParameters hc
  body := by
    intro s hs
    rw [stringifier_body, List.mem_cons, List.mem_append, List.mem_cons, List.mem_singleton] at hs
    rcases hs with rfl | hs | rfl | rfl
    · exact isPlain_append (hasIdentifierForm_of_isIdentifier hc.simpleName)
        ⟨by decide, by decide, by decide⟩
    · exact legible_appendFields (hasIdentifierForm_receiver config c)
        (fun f hf => hc.hasIdentifierForm hf) s hs
    · exact ⟨by decide, by decide, by decide⟩
    · exact trivial
  body_ne_nil := by simp [stringifier_body]
  static := by
    intro h
    have hr : config.receiver c ≠ "this" := by
      rw [receiver, if_pos (show config.strategy.isCompanion = true from h)]
      exact c.objectName_ne_this
    have happend := speaksOfThis_appendFields hr c.instanceFields
    rw [Java.speaksOfThis] at happend
    rw [stringifier_body, Java.speaksOfThis, List.any_cons, List.any_append, happend]
    rfl
  instance_ := by
    -- without fields the body speaks of nothing, but the type is known
    intro _
    right
    show "static ".toList.isPrefixOf? ("String".toList ++ ' ' :: "toString".toList) = none
    decide

theorem inlineLegible_stringifier (hc : c.WellFormed) (fields : List FieldDecl) :
    (config.stringifier c fields).InlineLegible where
  parenthesis := by
    have hr : Java.returnsValue (config.stringifier c fields).body = true := by
      simp [stringifier_body, Java.returnsValue, Java.Statement.returns]
    rw [if_pos hr]
    exact parenthesis_receiverParameters hc
  comma := by
    rcases comma_receiverParameters config hc with ⟨_, h⟩ | ⟨p, _, h, hp⟩
    · exact Or.inl h
    · exact Or.inr (Or.inl ⟨p, h, fun _ => hp⟩)

/-- **Every member that a class asks for is read back from its text.** -/
theorem read?_method (hconfig : config.WellFormed) (hc : c.WellFormed) {r : Request}
    (hr : r ∈ c.requests) :
    Java.read? ((config.method c r).render config.indent config.emitJavadoc) =
      some (config.method c r).routine := by
  have hread : ∀ {m : Java.Method}, m.Legible →
      (m.layout = .inline ∨ m.parameters = [] → m.InlineLegible) →
      Java.read? (m.render config.indent config.emitJavadoc) = some m.routine := fun h hl =>
    Java.Method.read?_render hconfig.indent config.emitJavadoc h hl
  rcases ClassDecl.mem_requests.mp hr with ⟨_, rfl⟩ | ⟨f, hf, rfl⟩ | ⟨f, hf, rfl⟩ | ⟨_, rfl⟩
  · -- a factory is stacked, so its parameters stand on one line only if there are none
    refine hread (legible_factory hconfig hc) fun h => ?_
    have hnil : c.instanceFields = [] := by
      rcases h with h | h
      · exact absurd (show Java.ParameterLayout.stacked = .inline from h) (by simp)
      · exact List.map_eq_nil_iff.mp h
    show (config.factory c c.instanceFields).InlineLegible
    rw [hnil]
    exact inlineLegible_factory config c
  · exact hread (legible_reader hc (ClassDecl.mem_instanceFields_of_mem_readFields hf))
      fun _ => inlineLegible_reader hc f
  · exact hread (legible_writer hc (ClassDecl.mem_instanceFields_of_mem_writeFields hf))
      fun _ => inlineLegible_writer hc f
  · exact hread (legible_stringifier hc) fun _ => inlineLegible_stringifier hc _

end Config

end AccessorGen
