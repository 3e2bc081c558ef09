import AccessorGen.Command.Settings
import AccessorGen.Proofs.Schema.Recomposed
import AccessorGen.Proofs.UnitPaths

/-!
# Companions and classes of one name

A round compares its units with each other and never with its classes. A companion is told from the class
that it serves by its suffix and by the dots that are gone from its local name, so the two share a name
exactly when there is neither a suffix nor a dot (`Sound.qualified_companion_eq_iff`). Nothing tells it
from another class that happens to be called like it. Where no class has the name of a companion none has
its file either, because the file of a class that is not nested determines its name.
-/

set_option autoImplicit false

namespace AccessorGen

namespace Text

variable {s : String}

@[simp] theorem length_flattenDots (s : String) : (flattenDots s).length = s.length := by
  rw [flattenDots, String.length_ofList, List.length_map, String.length_toList]

theorem flattenDots_append_eq_iff {ending : String} :
    flattenDots s ++ ending = s ↔ ending = "" ∧ '.' ∉ s.toList := by
  constructor
  · intro h
    have hlength := congrArg String.length h
    rw [String.length_append, length_flattenDots, Nat.add_eq_left, String.length_eq_zero_iff] at hlength
    rw [hlength, String.append_empty] at h
    exact ⟨hlength, h ▸ not_mem_flattenDots s⟩
  · intro h
    rw [h.1, flattenDots_of_not_mem h.2, String.append_empty]

end Text

namespace UnitName

theorem qualified_inj {package a b : String} :
    (UnitName.mk package a).qualified = (UnitName.mk package b).qualified ↔ a = b := by
  rw [qualified_mk, qualified_mk]
  split
  · rfl
  · rw [String.append_right_inj]

theorem EndsIn.eq_of_filePath_eq {e e' : String} {n m : UnitName} (hn : n.EndsIn e) (hm : m.EndsIn e')
    (he : '/' ∉ e.toList) (he' : '/' ∉ e'.toList) (h : n.filePath = m.filePath) : n = m := by
  apply hn.eq_of_path_eq hm
  rw [← hn.names_filePath he, h, hm.names_filePath he']

end UnitName

namespace ClassDecl

variable {c : ClassDecl}

theorem Sound.qualifiedName_eq_qualified (h : c.Sound) :
    c.qualifiedName = (UnitName.mk c.packageName c.localName).qualified := by
  rw [UnitName.qualified_mk]
  rcases h.qualifiedName_eq with ⟨hp, hq⟩ | ⟨hp, hq⟩
  · rw [if_pos hp, hq]
  · rw [if_neg hp, hq]

/-- **A companion has the name of its own class only without a suffix,** and then unless the class is
nested. -/
theorem Sound.qualified_companion_eq_iff (h : c.Sound) (suffix : String) :
    (c.unitName (.companion suffix)).qualified = c.qualifiedName ↔ suffix = "" ∧ c.isNested = false := by
  have hname : c.unitName (.companion suffix) =
      ⟨c.packageName, Text.flattenDots c.localName ++ suffix⟩ := rfl
  rw [hname, h.qualifiedName_eq_qualified, UnitName.qualified_inj, Text.flattenDots_append_eq_iff,
    ← isNested_iff, Bool.not_eq_true]

end ClassDecl

/-- No unit declares a type that one of the classes already is. -/
def UnitsApart (units : List SourceUnit) (classes : List ClassDecl) : Prop :=
  ∀ u ∈ units, ∀ d ∈ classes, u.qualifiedName ≠ d.qualifiedName

namespace Config

variable {config : Config} {classes : List ClassDecl} {units : List SourceUnit} {suffix : String}

/-- What holds of the names of all units, said of the classes that ask for something. -/
theorem forall_units_iff (hn : ∀ c ∈ classes, c.instanceNames.Nodup)
    (h : config.roundUnits classes = .ok units) {p : UnitName → Prop} :
    (∀ u ∈ units, p u.name) ↔ ∀ c ∈ classes, c.requests ≠ [] → p (c.unitName config.strategy) := by
  obtain ⟨us, hus, rfl, -⟩ := generateFrom_eq_ok_iff.mp h
  rw [forall_mem_iff_of_forall₂ (forall₂_requests hn hus)
    (p := fun c => p (c.unitName config.strategy)) fun c u hcu => by rw [name_of_classUnit hcu]]
  simp only [List.mem_filter, Bool.not_eq_true', List.isEmpty_eq_false_iff, and_imp]

/-- The class that is served is set apart from the others, which may be called as they like. -/
theorem forall_ne_companion_iff {c : ClassDecl} (hsound : c.Sound) (hc : c ∈ classes) :
    (∀ d ∈ classes, (c.unitName (.companion suffix)).qualified ≠ d.qualifiedName) ↔
      (suffix = "" → c.isNested = true) ∧
        ∀ d ∈ classes, d ≠ c → (c.unitName (.companion suffix)).qualified ≠ d.qualifiedName := by
  have hown : (c.unitName (.companion suffix)).qualified ≠ c.qualifiedName ↔
      (suffix = "" → c.isNested = true) := by
    rw [Ne, hsound.qualified_companion_eq_iff, not_and, Bool.not_eq_false]
  rw [← hown]
  constructor
  · intro h
    exact ⟨h c hc, fun d hd _ => h d hd⟩
  · intro h d hd
    by_cases hdc : d = c
    · rw [hdc]
      exact h.1
    · exact h.2 d hd hdc

theorem apart_of_endings (hs : config.strategy = .companion suffix)
    (h : config.roundUnits classes = .ok units)
    (hendings : ∀ d ∈ classes, ∀ front, d.qualifiedName ≠ front ++ suffix) : UnitsApart units classes := by
  intro u hu d hd he
  obtain ⟨c, -, hunit⟩ := exists_class_of_mem h hu
  apply hendings d hd (UnitName.mk c.packageName (Text.flattenDots c.localName)).qualified
  rw [← he, SourceUnit.qualifiedName, name_of_classUnit hunit, hs, ← UnitName.qualified_append]
  rfl

theorem filePath_ne_of_apart (hsound : ∀ c ∈ classes, c.Sound)
    (hending : '/' ∉ config.strategy.ending.toList) (h : config.roundUnits classes = .ok units)
    (hapart : UnitsApart units classes) :
    ∀ u ∈ units, ∀ d ∈ classes, d.isNested = false →
      u.name.filePath ≠ (d.unitName .augment).filePath := by
  intro u hu d hd hflat he
  have hname : u.name = d.unitName .augment :=
    (endsIn_of_roundUnits hsound h hu).eq_of_filePath_eq ((hsound d hd).endsIn_unitName fun _ => hflat)
      hending (by decide) he
  apply hapart u hu d hd
  rw [SourceUnit.qualifiedName, hname, (hsound d hd).qualified_unitName hflat]

/-- **When the companions of a round are apart from its classes.** Each class that asks for anything has to
be told from its own companion, by a suffix or by being nested, and no other class may be called like that
companion; a suffix in which no class ends is enough. Then no companion takes the file of a class. -/
theorem companions_apart_iff (hs : config.strategy = .companion suffix) {schemas : List Schema}
    (hd : describeAll schemas = .ok classes) (h : config.roundUnits classes = .ok units) :
    (UnitsApart units classes ↔
      ∀ c ∈ classes, c.requests ≠ [] →
        (suffix = "" → c.isNested = true) ∧
          ∀ d ∈ classes, d ≠ c →
            (c.unitName (.companion suffix)).qualified ≠ d.qualifiedName) ∧
    ((∀ d ∈ classes, ∀ front, d.qualifiedName ≠ front ++ suffix) → UnitsApart units classes) ∧
    (UnitsApart units classes → '/' ∉ suffix.toList →
      ∀ u ∈ units, ∀ d ∈ classes, d.isNested = false →
        u.name.filePath ≠ (d.unitName .augment).filePath) := by
  obtain ⟨hsound, -⟩ := sound_of_describeAll hd
  refine ⟨?_, apart_of_endings hs h, fun hapart hslash => ?_⟩
  · have hunits := forall_units_iff (fun c hc => (hsound c hc).nodup_instanceNames) h
      (p := fun n => ∀ d ∈ classes, n.qualified ≠ d.qualifiedName)
    rw [hs] at hunits
    refine hunits.trans (forall₂_congr fun c hc => ?_)
    rw [forall_ne_companion_iff (hsound c hc) hc]
  · refine filePath_ne_of_apart hsound ?_ h hapart
    rw [hs]
    exact hslash

/-- A class and one inside it, both of which are served. -/
def homeSchemas : List Schema := [
  { classes := [
      { name := "home.Lamp", markers := ["ToString"] },
      { name := "home.Lamp.Bulb", package := some "home", markers := ["ToString"] }] }]

def homeClasses : List ClassDecl := [
  { ClassDecl.ofName "home.Lamp" with markers := .ofList [.stringForm] },
  { ClassDecl.ofName "home.Lamp.Bulb" with
    package := some "home"
    markers := .ofList [.stringForm] }]

def companionsWith (suffix : String) : Config := { strategy := .companion suffix }

theorem describeAll_homeSchemas : describeAll homeSchemas = .ok homeClasses := by
  unfold describeAll
  exact if_pos (by decide +kernel)

theorem companions_apart_home :
    (companionsWith "Kit").roundUnits homeClasses =
        .ok (homeClasses.map (companionsWith "Kit").unitOf) ∧
      UnitsApart (homeClasses.map (companionsWith "Kit").unitOf) homeClasses := by
  have h : (companionsWith "Kit").roundUnits homeClasses =
      .ok (homeClasses.map (companionsWith "Kit").unitOf) := by decide +kernel
  refine ⟨h, (companions_apart_iff rfl describeAll_homeSchemas h).1.mpr ?_⟩
  decide +kernel

/-- Without a suffix the companion is the class again, in the same file. -/
theorem companion_redeclares_lamp :
    describeAll homeSchemas = .ok homeClasses ∧
      Command.Options.settle { suffix := some "" } homeSchemas = .ok (companionsWith "") ∧
      (companionsWith "").roundUnits homeClasses =
        .ok (homeClasses.map (companionsWith "").unitOf) ∧
      ¬UnitsApart (homeClasses.map (companionsWith "").unitOf) homeClasses := by
  refine ⟨describeAll_homeSchemas, rfl, by decide +kernel, ?_⟩
  intro h
  have hsame := h _ List.mem_cons_self _ List.mem_cons_self
  exact hsame (by decide +kernel)

end Config

end AccessorGen
