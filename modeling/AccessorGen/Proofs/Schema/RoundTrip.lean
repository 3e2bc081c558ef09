import AccessorGen.Datum.Decode
import AccessorGen.Datum.Encode
import AccessorGen.Proofs.Datum.Leeway

/-!
# Schemas written and read

A schema is read back from the data it is written as, and from every restatement of that data. The leeway is
that of the tables: what is null may be left out anywhere, and so may an empty list under four keys; a
setting may be left out that is the default; the contents of a companion may be left empty where they say
the default; and keys that no table knows may stand in any of them. A list of modifiers is not among those
four, for none given is another thing than an empty list of them.

There is one lemma for each table, from the inner ones to the outer. Each reads the parts of its table one
by one.
-/

set_option autoImplicit false

namespace AccessorGen

/-! ## The leeway of the tables -/

namespace Datum

/-- The keys whose list may be left out where it is empty. -/
def listKeys : List String := ["class", "field", "markers", "implements"]

/-- What a table of classes or fields may leave out: what is null, and an empty list under one of those
keys. -/
def MayOmit (key : String) (d : Datum) : Prop := d = .null ∨ key ∈ listKeys ∧ d = .list []

/-- What the record has under the key. -/
def valueAt? (key : String) : Datum → Option Datum
  | .record es => es.lookup key
  | _ => none

/-- The record without the entries of that key. -/
def without (key : String) : Datum → Datum
  | .record es => .record (es.filter fun e => e.1 != key)
  | d => d

end Datum

def FieldSpec.leeway : Leeway where
  keys := FieldSpec.keys
  MayOmit := Datum.MayOmit
  Rewrites _ d d' := d' = d

def ClassSpec.leeway : Leeway where
  keys := ClassSpec.keys
  MayOmit := Datum.MayOmit
  Rewrites := Leeway.Only "field" (Leeway.Itemwise FieldSpec.leeway.Restates)

/-- A companion that goes by the default need not say so. -/
def Strategy.Rewrites (d d' : Datum) : Prop :=
  d' = d ∨ d = (Strategy.companion Strategy.defaultSuffix).toDatum ∧
    d' = .record [("companion", .record [])]

/-- A setting may be left out if its value is that of the default settings. -/
def Config.leeway : Leeway where
  keys := Config.keys
  MayOmit key d := (Config.toDatum {}).valueAt? key = some d
  Rewrites := Leeway.Only "strategy" Strategy.Rewrites

def Schema.leeway : Leeway where
  keys := Schema.keys
  MayOmit := Datum.MayOmit
  Rewrites key d d' :=
    key = "generator" ∧ (d = .null ∧ d' = .null ∨ Config.leeway.Restates d d') ∨
      key = "class" ∧ Leeway.Itemwise ClassSpec.leeway.Restates d d'

/-! ## Reading what was written -/

namespace Datum

variable {α : Type} {value? : Datum → Option α} {write : α → Datum}

theorem nullable?_of_ne_null {d : Datum} (h : d ≠ .null) :
    d.nullable? value? = (value? d).map some := by
  cases d with
  | null => exact absurd rfl h
  | bool | number | moment | text | list | record => rfl

theorem nullable?_getD (a : Option α) (hnull : ∀ a, write a ≠ .null)
    (hread : ∀ a, value? (write a) = some a) :
    ((a.map write).getD .null).nullable? value? = some a := by
  cases a with
  | none => rfl
  | some a => simp [nullable?_of_ne_null (hnull a), hread a]

theorem ofText?_eq (s : Option String) : ofText? s = (s.map .text).getD .null := by cases s <;> rfl

theorem nullable?_ofText? (s : Option String) : (ofText? s).nullable? text? = some s := by
  rw [ofText?_eq]
  exact nullable?_getD s nofun fun _ => rfl

theorem mapM_eq_some {items : List Datum} {as : List α}
    (h : List.Forall₂ (fun d a => value? d = some a) items as) : items.mapM value? = some as := by
  induction h with
  | nil => rfl
  | cons ha _ ih => simp [List.mapM_cons, ha, ih]

/-- A list is read from restatements of its items. -/
theorem list?_of_itemwise {R : Datum → Datum → Prop}
    (hread : ∀ a d, R (write a) d → value? d = some a) {as : List α} {d : Datum}
    (h : Leeway.Itemwise R (.list (as.map write)) d) : list? value? d = some as := by
  obtain ⟨items, items', hitems, rfl, hR⟩ := h
  cases hitems
  apply mapM_eq_some
  rw [List.forall₂_map_left_iff] at hR
  exact hR.flip.imp fun d a => hread a d

theorem list?_ofTexts (ss : List String) : list? text? (ofTexts ss) = some ss := by
  apply mapM_eq_some
  rw [List.forall₂_map_left_iff, List.forall₂_same]
  intro s _
  rfl

/-! What may be left out is what its absence means. -/

theorem not_mayOmit_text (key s : String) : ¬MayOmit key (.text s) := by simp [MayOmit]

theorem eq_none_of_mayOmit {key : String} (hkey : key ∉ listKeys) {a : Option α}
    (hnull : ∀ a, write a ≠ .null) (h : MayOmit key ((a.map write).getD .null)) : a = none := by
  cases a with
  | none => rfl
  | some a =>
    rcases h with h | ⟨hlist, -⟩
    · exact absurd h (hnull a)
    · exact absurd hlist hkey

theorem eq_none_of_mayOmit_ofText? {key : String} {s : Option String} (h : MayOmit key (ofText? s)) :
    s = none := by
  cases s with
  | none => rfl
  | some s => exact absurd h (not_mayOmit_text key s)

theorem eq_nil_of_mayOmit {key : String} {as : List α} (h : MayOmit key (.list (as.map write))) :
    [] = as := by
  rcases h with h | ⟨-, h⟩
  · cases h
  · simpa [eq_comm] using h

end Datum

/-! ## Table by table -/

/-- **A field is read from every restatement.** -/
theorem FieldSpec.ofDatum?_of_restates (fmt : Format) (f : FieldSpec) (d : Datum)
    (h : FieldSpec.leeway.Restates f.toDatum d) : FieldSpec.ofDatum? fmt d = some f := by
  obtain ⟨es, es', hes, rfl, h⟩ := h
  cases hes
  have hname := Leeway.required_of_restated "name" Datum.text? f.name rfl h rfl
    (fun d' hd => hd ▸ rfl) (Datum.not_mayOmit_text _ _)
  have htype := Leeway.required_of_restated "type" Datum.text? f.type rfl h rfl
    (fun d' hd => hd ▸ rfl) (Datum.not_mayOmit_text _ _)
  have hstatic := Leeway.nullable_of_restated "static" Datum.bool? f.isStatic rfl h rfl
    (fun d' hd => hd ▸ Datum.nullable?_getD f.isStatic nofun fun _ => rfl)
    (Datum.eq_none_of_mayOmit (by decide) nofun)
  have hmodifiers := Leeway.nullable_of_restated "modifiers" (Datum.list? Datum.text?) f.modifiers
    rfl h rfl (fun d' hd => hd ▸ Datum.nullable?_getD f.modifiers nofun Datum.list?_ofTexts)
    (Datum.eq_none_of_mayOmit (by decide) nofun)
  have hinitializer := Leeway.nullable_of_restated "initializer" Datum.text? f.initializer rfl h rfl
    (fun d' hd => hd ▸ Datum.nullable?_ofText? f.initializer) Datum.eq_none_of_mayOmit_ofText?
  have hmarkers := Leeway.withDefault_of_restated "markers" (Datum.list? Datum.text?) f.markers []
    rfl h rfl (fun d' hd => hd ▸ Datum.list?_ofTexts f.markers) Datum.eq_nil_of_mayOmit
  simp only [ofDatum?, Parts.ofDatum?, Option.bind_eq_bind, Option.bind_some, hname, htype, hstatic,
    hmodifiers, hinitializer, hmarkers]
  rfl

example :
    FieldSpec.ofDatum? .json
        (.record [("colour", .null), ("type", .text "int"), ("markers", .list []),
          ("name", .text "seat")]) =
      some { name := "seat", type := "int" } := by rfl

/-- **A class is read from every restatement,** its fields restated as well. -/
theorem ClassSpec.ofDatum?_of_restates (fmt : Format) (c : ClassSpec) (d : Datum)
    (h : ClassSpec.leeway.Restates c.toDatum d) : ClassSpec.ofDatum? fmt d = some c := by
  obtain ⟨es, es', hes, rfl, h⟩ := h
  cases hes
  have hname := Leeway.required_of_restated "name" Datum.text? c.name rfl h rfl
    (fun d' hd => Leeway.Only.eq_of_ne hd (by decide) ▸ rfl) (Datum.not_mayOmit_text _ _)
  have hpackage := Leeway.nullable_of_restated "package" Datum.text? c.package rfl h rfl
    (fun d' hd => Leeway.Only.eq_of_ne hd (by decide) ▸ Datum.nullable?_ofText? c.package)
    Datum.eq_none_of_mayOmit_ofText?
  have hmarkers := Leeway.withDefault_of_restated "markers" (Datum.list? Datum.text?) c.markers []
    rfl h rfl (fun d' hd => Leeway.Only.eq_of_ne hd (by decide) ▸ Datum.list?_ofTexts c.markers)
    Datum.eq_nil_of_mayOmit
  have hsuperclass := Leeway.nullable_of_restated "extends" Datum.text? c.superclass rfl h rfl
    (fun d' hd => Leeway.Only.eq_of_ne hd (by decide) ▸ Datum.nullable?_ofText? c.superclass)
    Datum.eq_none_of_mayOmit_ofText?
  have hinterfaces := Leeway.withDefault_of_restated "implements" (Datum.list? Datum.text?)
    c.interfaces [] rfl h rfl
    (fun d' hd => Leeway.Only.eq_of_ne hd (by decide) ▸ Datum.list?_ofTexts c.interfaces)
    Datum.eq_nil_of_mayOmit
  have hfields := Leeway.withDefault_of_restated "field" (Datum.list? (FieldSpec.ofDatum? fmt))
    c.fields [] rfl h rfl
    (fun d' hd =>
      Datum.list?_of_itemwise (FieldSpec.ofDatum?_of_restates fmt) (Leeway.Only.rewrites hd))
    Datum.eq_nil_of_mayOmit
  simp only [ofDatum?, Parts.ofDatum?, Option.bind_eq_bind, Option.bind_some, hname, hpackage,
    hmarkers, hsuperclass, hinterfaces, hfields]
  rfl

theorem Strategy.ofDatum?_toDatum (fmt : Format) (s : Strategy) :
    Strategy.ofDatum? fmt s.toDatum = some s := by
  cases s with
  | augment => rfl
  | companion suffix =>
    simp [toDatum, ofDatum?, Format.companionSuffix?, Parts.withDefault, Datum.text?]

/-- **A strategy is read from every way to write it.** -/
theorem Strategy.ofDatum?_of_rewrites (fmt : Format) (s : Strategy) (d : Datum)
    (h : Strategy.Rewrites s.toDatum d) : Strategy.ofDatum? fmt d = some s := by
  rcases h with rfl | ⟨hs, rfl⟩
  · exact ofDatum?_toDatum fmt s
  · have hdefault : s = .companion defaultSuffix := by
      have hread := ofDatum?_toDatum fmt s
      rw [hs, ofDatum?_toDatum] at hread
      exact (Option.some.inj hread).symm
    rw [hdefault]
    simp [ofDatum?, Format.companionSuffix?, Parts.withDefault]

/-- A value that is read back is known from how it is written, so one that may be left out is the
default. -/
theorem Config.eq_of_mayOmit {α : Type} {value? : Datum → Option α} {write : α → Datum}
    (hread : ∀ a, value? (write a) = some a) {key : String} {default v : α}
    (hdefault : (Config.toDatum {}).valueAt? key = some (write default))
    (h : Config.leeway.MayOmit key (write v)) : default = v := by
  have hwrite : write default = write v := Option.some.inj (hdefault.symm.trans h)
  have hvalue := hread default
  rw [hwrite, hread v] at hvalue
  exact (Option.some.inj hvalue).symm

/-- **The settings are read from every restatement.** -/
theorem Config.ofDatum?_of_restates (fmt : Format) (config : Config) (d : Datum)
    (h : Config.leeway.Restates config.toDatum d) : Config.ofDatum? fmt d = some config := by
  obtain ⟨es, es', hes, rfl, h⟩ := h
  cases hes
  have hstrategy := Leeway.withDefault_of_restated "strategy" (Strategy.ofDatum? fmt)
    config.strategy ({} : Config).strategy rfl h rfl
    (fun d' hd => Strategy.ofDatum?_of_rewrites fmt _ _ (Leeway.Only.rewrites hd))
    (eq_of_mayOmit (Strategy.ofDatum?_toDatum fmt) rfl)
  have htext : ∀ s, Datum.text? (.text s) = some s := fun _ => rfl
  have hbool : ∀ b, Datum.bool? (.bool b) = some b := fun _ => rfl
  have hfactory := Leeway.withDefault_of_restated "factory_name" Datum.text? config.factoryName
    ({} : Config).factoryName rfl h rfl (fun d' hd => Leeway.Only.eq_of_ne hd (by decide) ▸ rfl)
    (eq_of_mayOmit htext rfl)
  have hindent := Leeway.withDefault_of_restated "indent" Datum.text? config.indent
    ({} : Config).indent rfl h rfl (fun d' hd => Leeway.Only.eq_of_ne hd (by decide) ▸ rfl)
    (eq_of_mayOmit htext rfl)
  have hjavadoc := Leeway.withDefault_of_restated "emit_javadoc" Datum.bool? config.emitJavadoc
    ({} : Config).emitJavadoc rfl h rfl (fun d' hd => Leeway.Only.eq_of_ne hd (by decide) ▸ rfl)
    (eq_of_mayOmit hbool rfl)
  have hmark := Leeway.withDefault_of_restated "add_generated_annotation" Datum.bool?
    config.markGenerated ({} : Config).markGenerated rfl h rfl
    (fun d' hd => Leeway.Only.eq_of_ne hd (by decide) ▸ rfl) (eq_of_mayOmit hbool rfl)
  have hheader := Leeway.withDefault_of_restated "header_comment" Datum.text? config.headerComment
    ({} : Config).headerComment rfl h rfl (fun d' hd => Leeway.Only.eq_of_ne hd (by decide) ▸ rfl)
    (eq_of_mayOmit htext rfl)
  simp only [ofDatum?, Parts.ofDatum?, Option.bind_eq_bind, Option.bind_some, hstrategy, hfactory,
    hindent, hjavadoc, hmark, hheader]
  rfl

theorem Schema.generator_of_rewrites {d d' : Datum} (h : Schema.leeway.Rewrites "generator" d d') :
    d = .null ∧ d' = .null ∨ Config.leeway.Restates d d' := by
  rcases h with ⟨-, h⟩ | ⟨hkey, -⟩
  · exact h
  · exact absurd hkey (by decide)

theorem Schema.classes_of_rewrites {d d' : Datum} (h : Schema.leeway.Rewrites "class" d d') :
    Leeway.Itemwise ClassSpec.leeway.Restates d d' := by
  rcases h with ⟨hkey, -⟩ | ⟨-, h⟩
  · exact absurd hkey (by decide)
  · exact h

/-- The table of settings, which need not be there. -/
theorem Config.nullable?_of_rewrites (fmt : Format) (config : Option Config) (d : Datum)
    (h : Schema.leeway.Rewrites "generator" ((config.map toDatum).getD .null) d) :
    d.nullable? (Config.ofDatum? fmt) = some config := by
  cases config with
  | none =>
    rcases Schema.generator_of_rewrites h with ⟨-, rfl⟩ | ⟨es, es', hes, -⟩
    · rfl
    · cases hes
  | some config =>
    rcases Schema.generator_of_rewrites h with ⟨hnull, -⟩ | h
    · cases hnull
    · have hread := Config.ofDatum?_of_restates fmt config d h
      obtain ⟨es, es', -, rfl, -⟩ := h
      have hne : Datum.record es' ≠ .null := nofun
      rw [Datum.nullable?_of_ne_null hne, hread]
      rfl

/-- **A schema is read from every restatement,** the settings and the classes restated as well. -/
theorem Schema.ofDatum?_of_restates (fmt : Format) (s : Schema) (d : Datum)
    (h : Schema.leeway.Restates s.toDatum d) : Schema.ofDatum? fmt d = some s := by
  obtain ⟨es, es', hes, rfl, h⟩ := h
  cases hes
  have hconfig := Leeway.nullable_of_restated "generator" (Config.ofDatum? fmt) s.config rfl h rfl
    (Config.nullable?_of_rewrites fmt s.config) (Datum.eq_none_of_mayOmit (by decide) nofun)
  have hclasses := Leeway.withDefault_of_restated "class" (Datum.list? (ClassSpec.ofDatum? fmt))
    s.classes [] rfl h rfl
    (fun d' hd =>
      Datum.list?_of_itemwise (ClassSpec.ofDatum?_of_restates fmt) (classes_of_rewrites hd))
    Datum.eq_nil_of_mayOmit
  simp only [ofDatum?, Parts.ofDatum?, Option.bind_eq_bind, Option.bind_some, hconfig, hclasses]
  rfl

/-! ## What is written is one of its restatements -/

theorem FieldSpec.restates_toDatum (f : FieldSpec) : FieldSpec.leeway.Restates f.toDatum f.toDatum :=
  ⟨_, _, rfl, rfl, Leeway.restatesEntries_refl fun _ _ => rfl⟩

theorem ClassSpec.restates_toDatum (c : ClassSpec) : ClassSpec.leeway.Restates c.toDatum c.toDatum := by
  have hfields := Leeway.itemwise_refl FieldSpec.restates_toDatum c.fields
  refine ⟨_, _, rfl, rfl, Leeway.restatesEntries_refl ?_⟩
  simp [leeway, Leeway.Only, hfields]

theorem Config.restates_toDatum (config : Config) :
    Config.leeway.Restates config.toDatum config.toDatum := by
  refine ⟨_, _, rfl, rfl, Leeway.restatesEntries_refl ?_⟩
  simp [leeway, Leeway.Only, Strategy.Rewrites]

theorem Schema.restates_toDatum (s : Schema) : Schema.leeway.Restates s.toDatum s.toDatum := by
  have hclasses := Leeway.itemwise_refl ClassSpec.restates_toDatum s.classes
  refine ⟨_, _, rfl, rfl, Leeway.restatesEntries_refl ?_⟩
  cases hconfig : s.config with
  | none => simp [leeway, hclasses]
  | some config => simp [leeway, hclasses, config.restates_toDatum]

/-- A field without the key of its modifiers is one for which none are given. -/
theorem FieldSpec.ofDatum?_without_modifiers (fmt : Format) (f : FieldSpec) :
    FieldSpec.ofDatum? fmt (f.toDatum.without "modifiers") = some { f with modifiers := none } := by
  -- written out, the two fields differ in that key alone, and null may be left out
  have hwritten : f.toDatum.without "modifiers" =
      { f with modifiers := none : FieldSpec }.toDatum.without "modifiers" := rfl
  rw [hwritten]
  apply ofDatum?_of_restates
  refine ⟨_, _, rfl, rfl, Leeway.restatesEntries_filter (fun _ _ => rfl) ?_⟩
  rintro ⟨key, d⟩ he hkey
  have hkey : key = "modifiers" := by simpa using hkey
  subst hkey
  have hnull : d = .null := by simpa using he
  exact Or.inl hnull

/-- **A schema is read back from what it is written as, and from every restatement of that.** A field
without the key of its modifiers is another field than one with an empty list of them. -/
theorem Schema.reads_back (fmt : Format) (s : Schema) :
    Schema.ofDatum? fmt s.toDatum = some s ∧
    (∀ d, Schema.leeway.Restates s.toDatum d → Schema.ofDatum? fmt d = some s) ∧
    ∀ f : FieldSpec,
      FieldSpec.ofDatum? fmt (f.toDatum.without "modifiers") = some { f with modifiers := none } := by
  refine ⟨?_, ?_, ?_⟩
  · exact ofDatum?_of_restates fmt s s.toDatum s.restates_toDatum
  · exact ofDatum?_of_restates fmt s
  · exact FieldSpec.ofDatum?_without_modifiers fmt

end AccessorGen
