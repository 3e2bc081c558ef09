import AccessorGen.Proofs.Capital
import AccessorGen.Proofs.Lines
import AccessorGen.Proofs.Member.Written
import AccessorGen.Proofs.UnitPaths

/-!
# Members without line feeds

A line feed comes into a member only from the strings of the class and of the configuration. The strings
may be anything else: neither names nor types have to be any.
-/

set_option autoImplicit false

namespace AccessorGen

open Text (OneLine IsLine)

/-! ## Strings without line feeds -/

/-- There is no line feed in what the field is declared with. -/
structure FieldDecl.NoLineFeed (f : FieldDecl) : Prop where
  name : OneLine f.name
  type : OneLine f.type
  modifiers : ∀ m ∈ f.modifiers, OneLine m
  initializer : ∀ value ∈ f.initializer, OneLine value

/-- There is no line feed in the strings of the class. -/
structure ClassDecl.NoLineFeed (c : ClassDecl) : Prop where
  qualifiedName : OneLine c.qualifiedName
  simpleName : OneLine c.simpleName
  package : ∀ package ∈ c.package, OneLine package
  superclass : ∀ type ∈ c.superclass, OneLine type
  interfaces : ∀ type ∈ c.interfaces, OneLine type
  fields : ∀ f ∈ c.fields, f.NoLineFeed

/-- There is no line feed in the strings of the configuration. -/
structure Config.NoLineFeed (config : Config) : Prop where
  ending : OneLine config.strategy.ending
  factoryName : OneLine config.factoryName
  indent : OneLine config.indent
  headerComment : OneLine config.headerComment

namespace FieldDecl

variable {f : FieldDecl}

theorem NoLineFeed.readerName (hf : f.NoLineFeed) : OneLine f.readerName := by
  rw [FieldDecl.readerName, Text.oneLine_append]
  refine ⟨?_, Text.not_mem_capitalize (by decide +kernel) hf.name⟩
  cases f.isBoolean <;> decide

theorem NoLineFeed.writerName (hf : f.NoLineFeed) : OneLine f.writerName := by
  rw [FieldDecl.writerName, Text.oneLine_append]
  exact ⟨by decide, Text.not_mem_capitalize (by decide +kernel) hf.name⟩

theorem NoLineFeed.isLine_text (hf : f.NoLineFeed) : IsLine f.text := by
  have hmodifiers : OneLine (String.join (f.modifiers.map (· ++ " "))) := by
    apply Text.oneLine_join
    intro text htext
    obtain ⟨m, hm, rfl⟩ := List.mem_map.mp htext
    exact Text.oneLine_append.mpr ⟨hf.modifiers m hm, by decide⟩
  rw [FieldDecl.text]
  refine IsLine.append_left ⟨by decide, by decide⟩ ?_
  cases hi : f.initializer with
  | none => simp +decide [hmodifiers, hf.type, hf.name]
  | some value => simp +decide [hmodifiers, hf.type, hf.name, hf.initializer value hi]

end FieldDecl

namespace ClassDecl

variable {c : ClassDecl}

theorem NoLineFeed.of_mem_instanceFields (hc : c.NoLineFeed) {f : FieldDecl}
    (hf : f ∈ c.instanceFields) : f.NoLineFeed :=
  hc.fields f (List.mem_of_mem_filter hf)

theorem oneLine_objectName (c : ClassDecl) : OneLine c.objectName :=
  not_mem_of_isIdentifier c.isIdentifier_objectName (by decide)

end ClassDecl

/-! ## Members -/

namespace Config

variable {config : Config} {c : ClassDecl}

theorem oneLine_typeName (config : Config) (hc : c.NoLineFeed) : OneLine (config.typeName c) := by
  rw [typeName]
  split
  · exact ClassDecl.not_mem_localName hc.qualifiedName hc.simpleName
  · exact hc.simpleName

theorem oneLine_receiver (config : Config) (c : ClassDecl) : OneLine (config.receiver c) := by
  rw [receiver]
  split
  · exact c.oneLine_objectName
  · decide

theorem oneLine_receiverParameters (config : Config) (hc : c.NoLineFeed) :
    ∀ p ∈ config.receiverParameters c, OneLine p.text := by
  intro p hp
  rw [receiverParameters] at hp
  split at hp
  · rw [List.mem_singleton.mp hp]
    show OneLine (config.typeName c ++ " " ++ c.objectName)
    simp +decide [oneLine_typeName config hc, c.oneLine_objectName]
  · exact absurd hp List.not_mem_nil

theorem noLineFeed_factory (hconfig : config.NoLineFeed) (hc : c.NoLineFeed) {fields : List FieldDecl}
    (hfields : ∀ f ∈ fields, f.NoLineFeed) : (config.factory c fields).NoLineFeed where
  summary := by
    show OneLine ("Creates a new instance of " ++ c.simpleName ++ " with all fields initialized.")
    simp +decide [hc.simpleName]
  returnType := oneLine_typeName config hc
  name := hconfig.factoryName
  parameters := by
    intro p hp
    obtain ⟨f, hf, rfl⟩ := List.mem_map.mp hp
    show OneLine (f.type ++ " " ++ f.name)
    simp +decide [(hfields f hf).type, (hfields f hf).name]
  body := by
    intro s hs
    rw [factory_body, List.mem_append, List.mem_cons, List.mem_map, List.mem_singleton] at hs
    rcases hs with (rfl | ⟨name, hname, rfl⟩) | rfl
    · exact ⟨oneLine_typeName config hc, c.oneLine_objectName⟩
    · obtain ⟨f, hf, rfl⟩ := List.mem_map.mp hname
      exact ⟨c.oneLine_objectName, (hfields f hf).name, (hfields f hf).name⟩
    · exact c.oneLine_objectName

theorem noLineFeed_reader (config : Config) (hc : c.NoLineFeed) {f : FieldDecl} (hf : f.NoLineFeed) :
    (config.reader c f).NoLineFeed where
  summary := by
    show OneLine ("Gets the value of " ++ f.name ++ ".")
    simp +decide [hf.name]
  returnType := hf.type
  name := hf.readerName
  parameters := oneLine_receiverParameters config hc
  body := by
    intro s hs
    rw [List.mem_singleton.mp hs]
    exact ⟨oneLine_receiver config c, hf.name⟩

theorem noLineFeed_writer (config : Config) (hc : c.NoLineFeed) {f : FieldDecl} (hf : f.NoLineFeed) :
    (config.writer c f).NoLineFeed where
  summary := by
    show OneLine ("Sets the value of " ++ f.name ++ ".")
    simp +decide [hf.name]
  returnType := show OneLine "void" by decide
  name := hf.writerName
  parameters := by
    intro p hp
    rcases List.mem_append.mp hp with hp | hp
    · exact oneLine_receiverParameters config hc p hp
    · rw [List.mem_singleton.mp hp]
      show OneLine (f.type ++ " " ++ f.name)
      simp +decide [hf.type, hf.name]
  body := by
    intro s hs
    rw [List.mem_singleton.mp hs]
    exact ⟨oneLine_receiver config c, hf.name, hf.name⟩

theorem noLineFeed_appendFields {receiver : String} (hr : OneLine receiver) {fields : List FieldDecl}
    (hfields : ∀ f ∈ fields, f.NoLineFeed) : ∀ s ∈ appendFields receiver fields, s.NoLineFeed := by
  induction fields with
  | nil => exact fun s hs => absurd hs List.not_mem_nil
  | cons f rest ih =>
    have hname : OneLine f.name := (hfields f List.mem_cons_self).name
    have hfirst : (Java.Statement.appendField (f.name ++ "=") receiver f.name f.isCharArray).NoLineFeed :=
      ⟨Text.oneLine_append.mpr ⟨hname, by decide⟩, hr, hname⟩
    cases rest with
    | nil =>
      intro s hs
      rw [List.mem_singleton.mp hs]
      exact hfirst
    | cons g rest =>
      intro s hs
      rw [appendFields, List.mem_cons, List.mem_cons] at hs
      rcases hs with rfl | rfl | hs
      · exact hfirst
      · exact show OneLine ", " by decide
      · exact ih (fun f hf => hfields f (List.mem_cons_of_mem _ hf)) s hs
      · simp

theorem noLineFeed_stringifier (config : Config) (hc : c.NoLineFeed) {fields : List FieldDecl}
    (hfields : ∀ f ∈ fields, f.NoLineFeed) : (config.stringifier c fields).NoLineFeed where
  summary := by
    show OneLine ("Returns a string representation of this " ++ c.simpleName ++ " instance.")
    simp +decide [hc.simpleName]
  returnType := show OneLine "String" by decide
  name := show OneLine stringifierName by decide
  parameters := oneLine_receiverParameters config hc
  body := by
    intro s hs
    simp only [stringifier_body, List.mem_cons, List.mem_append, List.not_mem_nil, or_false] at hs
    rcases hs with rfl | hs | rfl | rfl
    · exact Text.oneLine_append.mpr ⟨hc.simpleName, by decide⟩
    · exact noLineFeed_appendFields (oneLine_receiver config c) hfields s hs
    · exact show OneLine "\x7d" by decide
    · trivial

/-- **No line feed comes into a member from anywhere.** -/
theorem noLineFeed_method (hconfig : config.NoLineFeed) (hc : c.NoLineFeed) {r : Request}
    (hr : r ∈ c.requests) : (config.method c r).NoLineFeed := by
  have hfields : ∀ f ∈ r.fields, f.NoLineFeed := fun f hf =>
    hc.of_mem_instanceFields (ClassDecl.mem_instanceFields_of_mem_requests hr hf)
  cases r with
  | constructor fields => exact noLineFeed_factory hconfig hc hfields
  | read f => exact noLineFeed_reader config hc (hfields f List.mem_cons_self)
  | write f => exact noLineFeed_writer config hc (hfields f List.mem_cons_self)
  | stringify fields => exact noLineFeed_stringifier config hc hfields

end Config

end AccessorGen
