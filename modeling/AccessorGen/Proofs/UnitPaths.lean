import AccessorGen.Proofs.Places
import AccessorGen.Proofs.RoundOutcome
import Mathlib.Data.List.Nodup

/-!
# Names and paths of the units of a round

A round compares the names of its units, and files are found by paths, in which dots and empty
packages are gone. Nothing is lost by that for units of sound classes. All simple names of a round end
alike (`UnitName.EndsIn`), and in front of that ending there is no dot; so the last dot of a qualified
name is found again, and the components of a path give back the package and the simple name.

The last component of a path has a dot in it and the directories have none. So no file is in the way of
another one. That a path is made of components at all needs less: names without slashes, of whatever
classes (`UnitName.NoSlash`).
-/

set_option autoImplicit false

namespace AccessorGen

/-- What the simple names of the units of a round end in. -/
def Strategy.ending : Strategy → String
  | .augment => ""
  | .companion suffix => suffix

namespace UnitName

/-- What the names of the units of a round have in common: a dotted package or none, and a simple name
with neither dot nor slash in front of the ending. -/
structure EndsIn (ending : String) (n : UnitName) : Prop where
  package : n.package = "" ∨ isDottedName n.package = true
  simpleName : ∃ base, '.' ∉ base.toList ∧ '/' ∉ base.toList ∧ n.simpleName = base ++ ending

variable {ending : String} {n m : UnitName}

/-! ## Qualified names -/

theorem qualified_mk (package name : String) :
    (UnitName.mk package name).qualified =
      if package = "" then name else package ++ "." ++ name := rfl

theorem qualified_append (package base ending : String) :
    (UnitName.mk package (base ++ ending)).qualified =
      (UnitName.mk package base).qualified ++ ending := by
  rw [qualified_mk, qualified_mk]
  by_cases hp : package = ""
  · rw [if_pos hp, if_pos hp]
  · rw [if_neg hp, if_neg hp, ← String.append_assoc]

theorem lastSegment_qualified {base : String} (h : '.' ∉ base.toList) (package : String) :
    Text.lastSegment (UnitName.mk package base).qualified = base := by
  rw [qualified_mk]
  by_cases hp : package = ""
  · rw [if_pos hp, Text.lastSegment_of_not_mem h]
  · rw [if_neg hp, Text.lastSegment_append, Text.lastSegment_of_not_mem h]

theorem package_eq_of_qualified_eq {p q base : String} (hbase : '.' ∉ base.toList)
    (h : (UnitName.mk p base).qualified = (UnitName.mk q base).qualified) : p = q := by
  have hdot : ∀ r : String, base ≠ r ++ "." ++ base := by
    intro r hr
    rw [hr] at hbase
    exact hbase (by simp)
  rw [qualified_mk, qualified_mk] at h
  by_cases hp : p = ""
  · by_cases hq : q = ""
    · rw [hp, hq]
    · rw [if_pos hp, if_neg hq] at h
      exact absurd h (hdot q)
  · by_cases hq : q = ""
    · rw [if_neg hp, if_pos hq] at h
      exact absurd h.symm (hdot p)
    · rw [if_neg hp, if_neg hq, String.append_left_inj, String.append_left_inj] at h
      exact h

/-- **The qualified name determines the name.** -/
theorem EndsIn.eq_of_qualified_eq (hn : n.EndsIn ending) (hm : m.EndsIn ending)
    (h : n.qualified = m.qualified) : n = m := by
  obtain ⟨p, s⟩ := n
  obtain ⟨q, s'⟩ := m
  obtain ⟨a, ha, -, rfl⟩ := hn.simpleName
  obtain ⟨b, hb, -, rfl⟩ := hm.simpleName
  rw [qualified_append, qualified_append, String.append_left_inj] at h
  obtain rfl : a = b := by
    rw [← lastSegment_qualified ha p, h, lastSegment_qualified hb q]
  rw [package_eq_of_qualified_eq ha h]

/-! ## Paths -/

theorem isIdentifier_of_mem_directories (hn : n.EndsIn ending) {name : String}
    (h : name ∈ n.directories) : isIdentifier name = true := by
  obtain ⟨hsegment, hne⟩ := List.mem_filter.mp h
  rcases hn.package with hp | hp
  · rw [hp] at hsegment
    rw [List.mem_singleton.mp hsegment] at hne
    exact absurd hne (by simp)
  · exact List.all_eq_true.mp hp name hsegment

/-- The directories give back the package. -/
theorem EndsIn.intercalate_directories (hn : n.EndsIn ending) :
    String.intercalate "." n.directories = n.package := by
  rcases hn.package with hp | hp
  · rw [directories, hp]
    rfl
  · have hall : ∀ name ∈ Text.segments n.package, (decide (name ≠ "")) = true := fun name hname =>
      decide_eq_true (ne_empty_of_isIdentifier (List.all_eq_true.mp hp name hname))
    rw [directories, List.filter_eq_self.mpr hall, Text.intercalate_segments]

/-- The path determines the name, also between names that end differently. -/
theorem EndsIn.eq_of_path_eq {ending' : String} (hn : n.EndsIn ending) (hm : m.EndsIn ending')
    (h : n.path = m.path) : n = m := by
  obtain ⟨hdirectories, hfile⟩ := List.append_inj' h rfl
  have hpackage : n.package = m.package := by
    rw [← hn.intercalate_directories, hdirectories, hm.intercalate_directories]
  have hsimple : n.simpleName ++ ".java" = m.simpleName ++ ".java" := List.singleton_inj.mp hfile
  rw [String.append_left_inj] at hsimple
  obtain ⟨p, s⟩ := n
  obtain ⟨q, s'⟩ := m
  cases hpackage
  cases hsimple
  rfl

/-- **No file is in the way of another one.** -/
theorem EndsIn.not_path_prefix_directories (hm : m.EndsIn ending) (n : UnitName) :
    ¬n.path <+: m.directories := by
  intro h
  -- the name of the file would be that of a directory
  have hmem : n.fileName ∈ m.directories :=
    h.subset (List.mem_append_right _ List.mem_cons_self)
  have hdot : '.' ∉ n.fileName.toList :=
    not_mem_of_isIdentifier (isIdentifier_of_mem_directories hm hmem) (by decide)
  exact hdot (by simp [fileName])

theorem EndsIn.eq_of_prefix_path (hn : n.EndsIn ending) (hm : m.EndsIn ending)
    (h : n.path <+: m.path) : n = m := by
  rcases List.prefix_concat_iff.mp h with h | h
  · exact hn.eq_of_path_eq hm h
  · exact absurd h (hm.not_path_prefix_directories n)

/-- The path of every unit ends alike, whatever its name is. -/
theorem exists_filePath_eq (n : UnitName) : ∃ front, n.filePath = front ++ ".java" := by
  have hends : ∀ directories : List String, ∃ front,
      String.intercalate "/" (directories ++ [n.fileName]) = front ++ ".java" := by
    intro directories
    induction directories with
    | nil => exact ⟨n.simpleName, String.intercalate_singleton⟩
    | cons name rest ih =>
      obtain ⟨front, h⟩ := ih
      refine ⟨name ++ "/" ++ front, ?_⟩
      rw [List.cons_append, String.intercalate_cons_of_ne_nil (by simp), h, ← String.append_assoc]
  exact hends n.directories

/-- There is no slash in the name. -/
structure NoSlash (n : UnitName) : Prop where
  package : '/' ∉ n.package.toList
  simpleName : '/' ∉ n.simpleName.toList

theorem NoSlash.isComponent_fileName (hn : n.NoSlash) : Place.IsComponent n.fileName := by
  have hlength : 5 ≤ n.fileName.length := by
    rw [fileName, String.length_append]
    exact Nat.le_add_left 5 _
  constructor
  · rw [fileName, String.toList_append]
    simp [hn.simpleName]
  all_goals
    intro h
    rw [h] at hlength
    exact absurd hlength (by decide)

/-- **The path of a unit is made of components,** whatever else is in its name. -/
theorem NoSlash.isComponent_path (hn : n.NoSlash) : ∀ name ∈ n.path, Place.IsComponent name := by
  intro name hname
  rcases List.mem_append.mp hname with h | h
  · obtain ⟨hsegment, hne⟩ := List.mem_filter.mp h
    -- a segment has no dots, so it is neither of the two names made of dots
    have hdot : '.' ∉ name.toList := fun hd => (Text.mem_of_mem_segments hsegment hd).2 rfl
    refine ⟨fun hs => hn.package (Text.mem_of_mem_segments hsegment hs).1, by simpa using hne, ?_, ?_⟩
    · intro he
      rw [he] at hdot
      exact hdot (by decide)
    · intro he
      rw [he] at hdot
      exact hdot (by decide)
  · rw [List.mem_singleton.mp h]
    exact hn.isComponent_fileName

theorem EndsIn.noSlash (hn : n.EndsIn ending) (he : '/' ∉ ending.toList) : n.NoSlash := by
  constructor
  · rcases hn.package with hp | hp
    · simp [hp]
    · exact not_mem_of_isDottedName hp (by decide) (by decide)
  · obtain ⟨base, -, hbase, hsimple⟩ := hn.simpleName
    rw [hsimple, String.toList_append]
    simp [hbase, he]

theorem EndsIn.isComponent_path (hn : n.EndsIn ending) (he : '/' ∉ ending.toList) :
    ∀ name ∈ n.path, Place.IsComponent name :=
  (hn.noSlash he).isComponent_path

/-- The path as it is read. -/
theorem EndsIn.names_filePath (hn : n.EndsIn ending) (he : '/' ∉ ending.toList) :
    Place.names n.filePath = n.path :=
  Place.names_intercalate (hn.isComponent_path he)

end UnitName

/-! ## Names of classes without slashes

A character that is in none of the names given to a class is in none of those worked out from them. -/

namespace ClassDecl

variable {c : ClassDecl} {a : Char}

theorem not_mem_packageName (hq : a ∉ c.qualifiedName.toList)
    (hp : ∀ package ∈ c.package, a ∉ package.toList) : a ∉ c.packageName.toList := by
  unfold ClassDecl.packageName
  cases hpackage : c.package with
  | some package => exact hp package hpackage
  | none =>
    cases hcut : (Text.beforeSuffix? c.simpleName c.qualifiedName).bind (Text.beforeSuffix? ".") with
    | none => simp
    | some front =>
      obtain ⟨dotted, hdotted, hfront⟩ := Option.bind_eq_some_iff.mp hcut
      rw [Text.beforeSuffix?_eq_some] at hdotted hfront
      intro ha
      apply hq
      rw [hdotted, hfront]
      simp only [String.toList_append, List.mem_append]
      exact Or.inl (Or.inl ha)

theorem not_mem_localName (hq : a ∉ c.qualifiedName.toList) (hs : a ∉ c.simpleName.toList) :
    a ∉ c.localName.toList := by
  rcases c.localName_cases with ⟨-, hl⟩ | ⟨-, hl⟩ | ⟨-, -, hl⟩
  · rw [hl]
    exact hq
  · intro ha
    apply hq
    rw [hl, String.toList_append]
    exact List.mem_append_right _ ha
  · rw [hl]
    exact hs

theorem not_mem_unitSimpleName (hq : a ∉ c.qualifiedName.toList) (hs : a ∉ c.simpleName.toList)
    {strategy : Strategy} (he : a ∉ strategy.ending.toList) (hu : a ≠ '_') :
    a ∉ (strategy.unitSimpleName c).toList := by
  cases strategy with
  | augment => exact hs
  | companion suffix =>
    show a ∉ (Text.flattenDots c.localName ++ suffix).toList
    rw [String.toList_append, List.mem_append]
    intro ha
    rcases ha with ha | ha
    · rcases Text.mem_of_mem_flattenDots ha with h | h
      · exact hu h
      · exact not_mem_localName hq hs h
    · exact he ha

/-- There is no slash in the names of the class. -/
structure NoSlash (c : ClassDecl) : Prop where
  qualifiedName : '/' ∉ c.qualifiedName.toList
  simpleName : '/' ∉ c.simpleName.toList
  package : ∀ package ∈ c.package, '/' ∉ package.toList

theorem NoSlash.unitName (hc : c.NoSlash) {strategy : Strategy} (he : '/' ∉ strategy.ending.toList) :
    (c.unitName strategy).NoSlash :=
  ⟨not_mem_packageName hc.qualifiedName hc.package,
    not_mem_unitSimpleName hc.qualifiedName hc.simpleName he (by decide)⟩

end ClassDecl

/-! ## Units of sound classes -/

theorem ClassDecl.Sound.endsIn_unitName {c : ClassDecl} (hc : c.Sound) {strategy : Strategy}
    (h : strategy.isCompanion = false → c.isNested = false) :
    (c.unitName strategy).EndsIn strategy.ending := by
  constructor
  · by_cases hp : c.packageName = ""
    · exact Or.inl hp
    · exact Or.inr (hc.isDottedName_packageName hp)
  · refine ⟨Text.flattenDots c.localName, Text.not_mem_flattenDots _, fun hslash => ?_, ?_⟩
    · rcases Text.mem_of_mem_flattenDots hslash with hc' | hslash
      · exact absurd hc' (by simp)
      · exact not_mem_of_isDottedName hc.isDottedName_localName (by decide) (by decide) hslash
    · cases strategy with
      | companion suffix => rfl
      | augment =>
        -- a class that is not nested has a local name without dots
        have hflat := h rfl
        have hdot : '.' ∉ c.localName.toList := by
          rw [ClassDecl.isNested, List.contains_eq_mem, decide_eq_false_iff_not] at hflat
          exact hflat
        show c.simpleName = Text.flattenDots c.localName ++ ""
        rw [String.append_empty, Text.flattenDots_of_not_mem hdot, hc.localName_eq (h rfl)]

namespace Config

variable {config : Config} {classes : List ClassDecl} {units : List SourceUnit}

theorem endsIn_of_roundUnits (hsound : ∀ c ∈ classes, c.Sound)
    (h : config.roundUnits classes = .ok units) {u : SourceUnit} (hu : u ∈ units) :
    u.name.EndsIn config.strategy.ending := by
  obtain ⟨c, hc, hunit⟩ := exists_class_of_mem h hu
  rw [name_of_classUnit hunit]
  exact (hsound c hc).endsIn_unitName (isNested_of_classUnit hunit)

theorem nodup_names_of_roundUnits (h : config.roundUnits classes = .ok units) :
    (units.map (·.name)).Nodup := by
  obtain ⟨-, -, -, hnodup, -⟩ := generateFrom_eq_ok_iff.mp h
  exact hnodup

/-- What tells names apart tells the units of a round apart. -/
theorem nodup_map_of_roundUnits {β : Type} (hsound : ∀ c ∈ classes, c.Sound)
    (h : config.roundUnits classes = .ok units) {f : UnitName → β}
    (hf : ∀ n m : UnitName, n.EndsIn config.strategy.ending → m.EndsIn config.strategy.ending →
      f n = f m → n = m) :
    (units.map fun u => f u.name).Nodup := by
  have hends : ∀ n ∈ units.map (·.name), n.EndsIn config.strategy.ending := by
    intro n hn
    obtain ⟨u, hu, rfl⟩ := List.mem_map.mp hn
    exact endsIn_of_roundUnits hsound h hu
  have hmap : (units.map fun u => f u.name) = (units.map (·.name)).map f := by
    rw [List.map_map]
    rfl
  rw [hmap]
  exact List.Nodup.map_on (fun n hn m hm => hf n m (hends n hn) (hends m hm))
    (nodup_names_of_roundUnits h)

end Config

end AccessorGen
