import AccessorGen.Destination
import AccessorGen.Proofs.Trees
import AccessorGen.Proofs.UnitPaths

/-!
# Units delivered into a directory

Units fit into a directory if no file is in the way of another one, be it there already or one of their
own (`SourceDirectory.Fits`). Each write keeps that for the units that are still to come, so all of them
are written, and what stands in the tree afterwards can be said of every place (`nodeAfter`): their
files, the directories on the way to them, and what stood there before. Delivered a second time, the
same units fit again and change nothing.

The units of a round fit into every directory that is vacant.
-/

set_option autoImplicit false

namespace AccessorGen

namespace SourceDirectory

variable {s : SourceDirectory} {units : List SourceUnit}

/-- The place of the directory. -/
def place (s : SourceDirectory) : Place := (Place.names s.root).foldl Place.step []

/-- The place of the unit's file. -/
def placeOf (s : SourceDirectory) (n : UnitName) : Place :=
  (Place.names (s.pathOf n)).foldl Place.step []

/-- The places that the way to the unit's file leads through. -/
def wayTo (s : SourceDirectory) (n : UnitName) : List Place :=
  Place.way [] (Place.names s.root ++ n.directories)

/-- The places that the ways to the files of the units lead through. -/
def waysTo (s : SourceDirectory) (units : List SourceUnit) : List Place :=
  units.flatMap fun u => s.wayTo u.name

/-- The directory after the units have been delivered, if the tree is then this one. -/
def having (s : SourceDirectory) (units : List SourceUnit) (tree : FileTree) : SourceDirectory :=
  { s with tree, written := s.written ++ units.map fun u => s.pathOf u.name }

/-- What stands at a place after the units have been delivered. -/
def nodeAfter (s : SourceDirectory) (units : List SourceUnit) (q : Place) : Option Node :=
  match units.find? fun u => s.placeOf u.name == q with
  | some u => some (.file (.text u.source))
  | none => if q ∈ s.waysTo units then some .directory else s.tree.node? q

/-- The tree holds the unit's file and the directories on the way to it, and is otherwise as before. -/
def IsAfter (s : SourceDirectory) (u : SourceUnit) (after : FileTree) : Prop :=
  ∀ q, after.node? q = if q = s.placeOf u.name then some (.file (.text u.source))
    else if q ∈ s.wayTo u.name then some .directory else s.tree.node? q

/-- Files of the units can be written below the directory, none of them in the way of another one. -/
structure Fits (s : SourceDirectory) (units : List SourceUnit) : Prop where
  limits : s.tree.limits = none
  components : ∀ u ∈ units, ∀ name ∈ u.name.path, Place.IsComponent name
  nodup : (units.map fun u => s.placeOf u.name).Nodup
  apart : ∀ u ∈ units, s.placeOf u.name ∉ s.waysTo units
  way : ∀ q ∈ s.waysTo units, ¬s.tree.HasFile q
  free : ∀ u ∈ units, s.tree.node? (s.placeOf u.name) ≠ some .directory

/-! ## Places of files -/

theorem names_pathOf {n : UnitName} (h : ∀ name ∈ n.path, Place.IsComponent name) :
    Place.names (s.pathOf n) = Place.names s.root ++ n.path :=
  Place.names_below s.root h

/-- The path of a unit ends in a name, whatever the name of the unit is. -/
theorem exists_names_pathOf (s : SourceDirectory) (n : UnitName) :
    ∃ front name, Place.names (s.pathOf n) = front ++ [name] := by
  obtain ⟨front, h⟩ := n.exists_filePath_eq
  unfold pathOf
  rw [h, ← String.append_assoc]
  exact Place.exists_names_eq_concat _ (by decide) (by decide)

theorem placeOf_eq {n : UnitName} (h : ∀ name ∈ n.path, Place.IsComponent name) :
    s.placeOf n = s.place ++ n.path := by
  rw [placeOf, names_pathOf h, List.foldl_append]
  exact Place.foldl_step_of_leadsDown (fun name hname => (h name hname).leadsDown) s.place

/-- Units with different paths go to different places. -/
theorem nodup_placeOf (hcomponents : ∀ u ∈ units, ∀ name ∈ u.name.path, Place.IsComponent name)
    (hnodup : (units.map fun u => u.name.path).Nodup) :
    (units.map fun u => s.placeOf u.name).Nodup := by
  have hplaces : (units.map fun u => s.placeOf u.name) =
      (units.map fun u => u.name.path).map (s.place ++ ·) := by
    rw [List.map_map]
    exact List.map_congr_left fun u hu => placeOf_eq (hcomponents u hu)
  rw [hplaces]
  exact hnodup.map fun _ _ => List.append_cancel_left

theorem below_placeOf {n : UnitName} (h : ∀ name ∈ n.path, Place.IsComponent name) :
    Place.Below s.place (s.placeOf n) :=
  ⟨n.path, by simp [UnitName.path], fun name hname => (h name hname).leadsDown, placeOf_eq h⟩

/-- The way to a file leads to the directory and then down. -/
theorem mem_wayTo {n : UnitName} (h : ∀ name ∈ n.path, Place.IsComponent name) {q : Place} :
    q ∈ s.wayTo n ↔ q ∈ Place.way [] (Place.names s.root) ∨
      ∃ front, front ≠ [] ∧ front <+: n.directories ∧ q = s.place ++ front := by
  have hdown : ∀ name ∈ n.directories, Place.LeadsDown name := fun name hname =>
    (h name (List.mem_append_left _ hname)).leadsDown
  rw [wayTo, Place.way_append, List.mem_append, Place.mem_way_of_leadsDown hdown]
  rfl

theorem mem_waysTo_cons {u : SourceUnit} {rest : List SourceUnit} {q : Place} :
    q ∈ s.waysTo (u :: rest) ↔ q ∈ s.wayTo u.name ∨ q ∈ s.waysTo rest := List.mem_append

/-! ## One unit -/

theorem write_of_fits {u : SourceUnit} {rest : List SourceUnit} (h : s.Fits (u :: rest)) :
    ∃ after : FileTree, Destination.write s u = .ok (s.having [u] after) ∧ after.limits = none ∧
      s.IsAfter u after := by
  have hmem : u ∈ u :: rest := List.mem_cons_self
  have hfree := h.free u hmem
  have hpath : Place.names (s.pathOf u.name) =
      (Place.names s.root ++ u.name.directories) ++ [u.name.fileName] := by
    rw [names_pathOf (h.components u hmem), UnitName.path, List.append_assoc]
  have hplace : s.placeOf u.name =
      ((Place.names s.root ++ u.name.directories).foldl Place.step []).step u.name.fileName := by
    rw [placeOf, hpath, List.foldl_concat]
  have hapart : s.placeOf u.name ∉ s.wayTo u.name := fun hq =>
    h.apart u hmem (mem_waysTo_cons.mpr (Or.inl hq))
  rw [hplace] at hfree hapart
  obtain ⟨after, hwrite, hlimits, hnodes⟩ := FileTree.write_spec h.limits hpath
    (fun q hq => h.way q (mem_waysTo_cons.mpr (Or.inl hq))) hapart hfree (.text u.source)
  refine ⟨after, ?_, hlimits, by rw [IsAfter, hplace]; exact hnodes⟩
  show (s.tree.write (s.pathOf u.name) (.text u.source) >>= _) = _
  rw [hwrite]
  rfl

/-- **The units still to come fit after a unit has been written.** -/
theorem Fits.tail {u : SourceUnit} {rest : List SourceUnit} (h : s.Fits (u :: rest))
    {after : FileTree} (hlimits : after.limits = none) (hnodes : s.IsAfter u after) :
    (s.having [u] after).Fits rest := by
  have hmem : u ∈ u :: rest := List.mem_cons_self
  have hways : ∀ q ∈ s.waysTo rest, q ∈ s.waysTo (u :: rest) := fun q hq =>
    mem_waysTo_cons.mpr (Or.inr hq)
  constructor
  · exact hlimits
  · exact fun v hv => h.components v (List.mem_cons_of_mem _ hv)
  · exact (List.nodup_cons.mp h.nodup).2
  · exact fun v hv hq => h.apart v (List.mem_cons_of_mem _ hv) (hways _ hq)
  · -- the only file that is new is not on the way to any other
    rintro q hq ⟨content, hcontent⟩
    have hne : q ≠ s.placeOf u.name := by
      rintro rfl
      exact h.apart u hmem (hways _ hq)
    have hcontent : after.node? q = some (.file content) := hcontent
    rw [hnodes, if_neg hne] at hcontent
    by_cases hu : q ∈ s.wayTo u.name
    · rw [if_pos hu] at hcontent
      cases hcontent
    · rw [if_neg hu] at hcontent
      exact h.way q (hways q hq) ⟨content, hcontent⟩
  · -- the directories that are new are all on the way to the file
    intro v hv hdirectory
    have hdirectory : after.node? (s.placeOf v.name) = some .directory := hdirectory
    rw [hnodes] at hdirectory
    by_cases he : s.placeOf v.name = s.placeOf u.name
    · rw [if_pos he] at hdirectory
      cases hdirectory
    · have haway : s.placeOf v.name ∉ s.wayTo u.name := fun hq =>
        h.apart v (List.mem_cons_of_mem _ hv) (mem_waysTo_cons.mpr (Or.inl hq))
      rw [if_neg he, if_neg haway] at hdirectory
      exact h.free v (List.mem_cons_of_mem _ hv) hdirectory

/-! ## All units -/

theorem nodeAfter_of_mem (h : (units.map fun u => s.placeOf u.name).Nodup) {u : SourceUnit}
    (hu : u ∈ units) : s.nodeAfter units (s.placeOf u.name) = some (.file (.text u.source)) := by
  unfold nodeAfter
  cases hfind : units.find? fun v => s.placeOf v.name == s.placeOf u.name with
  | none =>
    have hnone := List.find?_eq_none.mp hfind u hu
    exact absurd (beq_self_eq_true _) hnone
  | some v =>
    have hsame : s.placeOf v.name = s.placeOf u.name := by simpa using List.find?_some hfind
    rw [List.inj_on_of_nodup_map h (List.mem_of_find?_eq_some hfind) hu hsame]

theorem nodeAfter_of_ne {q : Place} (h : ∀ u ∈ units, q ≠ s.placeOf u.name) :
    s.nodeAfter units q = if q ∈ s.waysTo units then some .directory else s.tree.node? q := by
  have hnone : units.find? (fun u => s.placeOf u.name == q) = none :=
    List.find?_eq_none.mpr fun u hu => by simpa using (h u hu).symm
  unfold nodeAfter
  rw [hnone]

/-- Writing a unit and then the others comes to the same as all of them. -/
theorem nodeAfter_cons {u : SourceUnit} {rest : List SourceUnit} (h : s.Fits (u :: rest))
    {after : FileTree} (hnodes : s.IsAfter u after) (q : Place) :
    (s.having [u] after).nodeAfter rest q = s.nodeAfter (u :: rest) q := by
  obtain ⟨hfresh, hnodup⟩ := List.nodup_cons.mp h.nodup
  by_cases hrest : ∃ v ∈ rest, q = s.placeOf v.name
  · obtain ⟨v, hv, rfl⟩ := hrest
    rw [nodeAfter_of_mem h.nodup (List.mem_cons_of_mem _ hv)]
    exact nodeAfter_of_mem (s := s.having [u] after) hnodup hv
  · have hne : ∀ v ∈ rest, q ≠ s.placeOf v.name := fun v hv hq => hrest ⟨v, hv, hq⟩
    rw [nodeAfter_of_ne (s := s.having [u] after) hne]
    show (if q ∈ s.waysTo rest then some .directory else after.node? q) = _
    by_cases hq : q = s.placeOf u.name
    · -- the file of the unit is not on the way to the others
      have haway : q ∉ s.waysTo rest := fun hway =>
        h.apart u List.mem_cons_self (mem_waysTo_cons.mpr (Or.inr (hq ▸ hway)))
      rw [if_neg haway, hnodes, if_pos hq, hq, nodeAfter_of_mem h.nodup List.mem_cons_self]
    · have hall : ∀ v ∈ u :: rest, q ≠ s.placeOf v.name := by
        intro v hv
        rcases List.mem_cons.mp hv with rfl | hv
        · exact hq
        · exact hne v hv
      rw [nodeAfter_of_ne hall, hnodes, if_neg hq]
      simp only [mem_waysTo_cons]
      by_cases hway : q ∈ s.waysTo rest <;> simp [hway]

/-- **Units that fit are delivered, all of them.** -/
theorem deliver_of_fits (h : s.Fits units) :
    ∃ after : FileTree, (deliver s units).target = s.having units after ∧
      (deliver s units).result = .ok () ∧ after.limits = none ∧
      ∀ q, after.node? q = s.nodeAfter units q := by
  -- on the units, from whatever directory the units before them have left
  induction units generalizing s with
  | nil =>
    refine ⟨s.tree, ?_, rfl, h.limits, fun q => ?_⟩
    · rw [deliver, having, List.map_nil, List.append_nil]
    · rw [nodeAfter_of_ne (fun u hu => absurd hu List.not_mem_nil)]
      rfl
  | cons u rest ih =>
    obtain ⟨next, hwrite, hlimits, hnodes⟩ := write_of_fits h
    obtain ⟨after, htarget, hresult, hl, hafter⟩ := ih (h.tail hlimits hnodes)
    have hhaving : (s.having [u] next).having rest after = s.having (u :: rest) after := by
      simp only [having, List.map_cons, List.map_nil, List.append_assoc, List.singleton_append]
      rfl
    refine ⟨after, ?_, ?_, hl, fun q => (hafter q).trans (nodeAfter_cons h hnodes q)⟩
    · rw [deliver, hwrite, ← hhaving]
      exact htarget
    · rw [deliver, hwrite]
      exact hresult

/-- **Delivered units fit again.** -/
theorem Fits.again (h : s.Fits units) {after : FileTree} (hlimits : after.limits = none)
    (hnodes : ∀ q, after.node? q = s.nodeAfter units q) : (s.having units after).Fits units := by
  refine ⟨hlimits, h.components, h.nodup, h.apart, ?_, ?_⟩
  · rintro q hq ⟨content, hcontent⟩
    have hne : ∀ u ∈ units, q ≠ s.placeOf u.name := by
      rintro u hu rfl
      exact h.apart u hu hq
    have hcontent : after.node? q = some (.file content) := hcontent
    rw [hnodes, nodeAfter_of_ne hne, if_pos (show q ∈ s.waysTo units from hq)] at hcontent
    cases hcontent
  · intro u hu hdirectory
    have hdirectory : after.node? (s.placeOf u.name) = some .directory := hdirectory
    rw [hnodes, nodeAfter_of_mem h.nodup hu] at hdirectory
    cases hdirectory

theorem nodeAfter_again (h : s.Fits units) {after : FileTree}
    (hnodes : ∀ q, after.node? q = s.nodeAfter units q) (q : Place) :
    (s.having units after).nodeAfter units q = s.nodeAfter units q := by
  by_cases hunit : ∃ u ∈ units, q = s.placeOf u.name
  · obtain ⟨u, hu, rfl⟩ := hunit
    rw [nodeAfter_of_mem h.nodup hu]
    exact nodeAfter_of_mem (s := s.having units after) h.nodup hu
  · have hne : ∀ u ∈ units, q ≠ s.placeOf u.name := fun u hu hq => hunit ⟨u, hu, hq⟩
    rw [nodeAfter_of_ne (s := s.having units after) hne]
    show (if q ∈ s.waysTo units then some .directory else after.node? q) = _
    rw [hnodes, nodeAfter_of_ne hne]
    by_cases hq : q ∈ s.waysTo units <;> simp [hq]

/-- The files are those of the units and those that stood anywhere else before. -/
theorem nodeAfter_eq_file_iff (h : s.Fits units) {q : Place} {content : Content} :
    s.nodeAfter units q = some (.file content) ↔
      (∃ u ∈ units, q = s.placeOf u.name ∧ content = .text u.source) ∨
        (∀ u ∈ units, q ≠ s.placeOf u.name) ∧ s.tree.node? q = some (.file content) := by
  by_cases hunit : ∃ u ∈ units, q = s.placeOf u.name
  · obtain ⟨u, hu, rfl⟩ := hunit
    rw [nodeAfter_of_mem h.nodup hu]
    constructor
    · intro he
      cases he
      exact Or.inl ⟨u, hu, rfl, rfl⟩
    · rintro (⟨v, hv, hplace, rfl⟩ | ⟨hne, -⟩)
      · rw [List.inj_on_of_nodup_map h.nodup hu hv hplace]
      · exact absurd rfl (hne u hu)
  · have hne : ∀ u ∈ units, q ≠ s.placeOf u.name := fun u hu hq => hunit ⟨u, hu, hq⟩
    rw [nodeAfter_of_ne hne]
    by_cases hq : q ∈ s.waysTo units
    · -- a directory now, and no file before
      rw [if_pos hq]
      constructor
      · intro he
        cases he
      · rintro (⟨u, hu, hplace, -⟩ | ⟨-, hfile⟩)
        · exact absurd hplace (hne u hu)
        · exact absurd ⟨content, hfile⟩ (h.way q hq)
    · rw [if_neg hq]
      constructor
      · exact fun hfile => Or.inr ⟨hne, hfile⟩
      · rintro (⟨u, hu, hplace, -⟩ | ⟨-, hfile⟩)
        · exact absurd hplace (hne u hu)
        · exact hfile

/-! ## Vacant directories -/

/-- Nothing is in the directory, and making it puts nothing there: the way to it meets no file and does
not lead through anything below it. -/
structure Vacant (s : SourceDirectory) : Prop where
  reachable : ∀ q ∈ Place.way [] (Place.names s.root), ¬s.tree.HasFile q ∧ ¬Place.Below s.place q
  empty : ∀ q, Place.Below s.place q → s.tree.node? q = none

/-- A directory that is there and has nothing in it. -/
theorem vacant_of_directory
    (hway : ∀ q ∈ Place.way [] (Place.names s.root), s.tree.node? q = some .directory)
    (hempty : ∀ q, Place.Below s.place q → s.tree.node? q = none) : s.Vacant := by
  refine ⟨fun q hq => ⟨?_, fun hbelow => ?_⟩, hempty⟩
  · rintro ⟨content, hcontent⟩
    rw [hway q hq] at hcontent
    cases hcontent
  · have hnone := hempty q hbelow
    rw [hway q hq] at hnone
    cases hnone

/-- A directory that may still have to be made, with nothing in it, and a path that does not go up. -/
theorem vacant_of_up_not_mem (hup : Place.up ∉ Place.names s.root)
    (hway : ∀ q ∈ Place.way [] (Place.names s.root), ¬s.tree.HasFile q)
    (hempty : ∀ q, Place.Below s.place q → s.tree.node? q = none) : s.Vacant := by
  refine ⟨fun q hq => ⟨hway q hq, ?_⟩, hempty⟩
  rintro ⟨names, hne, -, rfl⟩
  have hle : (s.place ++ names).length ≤ s.place.length := Place.length_le_of_mem_way hup hq
  rw [List.length_append] at hle
  exact hne (List.length_eq_zero_iff.mp (by omega))

theorem Vacant.fits (hs : s.Vacant) (hlimits : s.tree.limits = none)
    (hcomponents : ∀ u ∈ units, ∀ name ∈ u.name.path, Place.IsComponent name)
    (hnodup : (units.map fun u => u.name.path).Nodup)
    (hbegins : ∀ u ∈ units, ∀ v ∈ units, ¬u.name.path <+: v.name.directories) : s.Fits units := by
  have hbelow : ∀ u ∈ units, Place.Below s.place (s.placeOf u.name) := fun u hu =>
    below_placeOf (hcomponents u hu)
  constructor
  · exact hlimits
  · exact hcomponents
  · exact nodup_placeOf hcomponents hnodup
  · intro u hu hq
    obtain ⟨v, hv, hway⟩ := List.mem_flatMap.mp hq
    rcases (mem_wayTo (hcomponents v hv)).mp hway with hroot | ⟨front, -, hfront, he⟩
    · exact (hs.reachable _ hroot).2 (hbelow u hu)
    · rw [placeOf_eq (hcomponents u hu)] at he
      rw [← List.append_cancel_left he] at hfront
      exact hbegins u hu v hv hfront
  · rintro q hq ⟨content, hcontent⟩
    obtain ⟨v, hv, hway⟩ := List.mem_flatMap.mp hq
    rcases (mem_wayTo (hcomponents v hv)).mp hway with hroot | ⟨front, hne, hfront, rfl⟩
    · exact (hs.reachable q hroot).1 ⟨content, hcontent⟩
    · have hnone := hs.empty (s.place ++ front) ⟨front, hne, fun name hname =>
        (hcomponents v hv name (List.mem_append_left _ (hfront.subset hname))).leadsDown, rfl⟩
      rw [hnone] at hcontent
      cases hcontent
  · intro u hu hdirectory
    rw [hs.empty _ (hbelow u hu)] at hdirectory
    cases hdirectory

end SourceDirectory

namespace Config

variable {config : Config} {classes : List ClassDecl} {units : List SourceUnit}

/-- **The units of a round fit into a vacant directory.** -/
theorem fits_of_roundUnits (hsound : ∀ c ∈ classes, c.Sound)
    (hending : '/' ∉ config.strategy.ending.toList) (h : config.roundUnits classes = .ok units)
    {s : SourceDirectory} (hs : s.Vacant) (hlimits : s.tree.limits = none) : s.Fits units :=
  hs.fits hlimits (fun _ hu => (endsIn_of_roundUnits hsound h hu).isComponent_path hending)
    (nodup_map_of_roundUnits hsound h fun _ _ hn hm => hn.eq_of_path_eq hm)
    fun u _ _ hv => (endsIn_of_roundUnits hsound h hv).not_path_prefix_directories u.name

/-- A round that is generated is delivered. -/
theorem deliverRound_of_ok {σ : Type} [Destination σ]
    (h : config.roundUnits classes = .ok units) (target : σ) :
    (config.deliverRound classes target).target = (deliver target units).target ∧
      (config.deliverRound classes target).result =
        (deliver target units).result.map fun _ => units := by
  unfold deliverRound
  rw [h]
  exact ⟨rfl, rfl⟩

theorem deliverRound_target (h : config.roundUnits classes = .ok units) (s : SourceDirectory) :
    (config.deliverRound classes s).target = (deliver s units).target := (deliverRound_of_ok h s).1

theorem deliverRound_result (h : config.roundUnits classes = .ok units) {s : SourceDirectory}
    (hdeliver : (deliver s units).result = .ok ()) :
    (config.deliverRound classes s).result = .ok units := by
  rw [(deliverRound_of_ok h s).2, hdeliver]
  rfl

/-- **No unit of a round overwrites or blocks another one.** The units of a round of classes out of
schemas have different qualified names and different paths, and no path leads through the file of
another one. So the round is delivered into every vacant directory: one file for each unit holds its
source, and elsewhere the files are the same as before. Delivered once more, it changes nothing. -/
theorem deliverRound_vacant (config : Config) (hending : '/' ∉ config.strategy.ending.toList)
    {schemas : List Schema} {classes : List ClassDecl} (h : describeAll schemas = .ok classes)
    {units : List SourceUnit} (hunits : config.roundUnits classes = .ok units) :
    (units.map (·.qualifiedName)).Nodup ∧ (units.map (·.name.filePath)).Nodup ∧
    (∀ u ∈ units, ∀ v ∈ units,
      Place.names u.name.filePath <+: Place.names v.name.filePath → u = v) ∧
    ∀ s : SourceDirectory, s.tree.limits = none → s.Vacant →
      (config.deliverRound classes s).result = .ok units ∧
      (units.map fun u => s.placeOf u.name).Nodup ∧
      (∀ q content,
        (config.deliverRound classes s).target.tree.node? q = some (.file content) ↔
          (∃ u ∈ units, q = s.placeOf u.name ∧ content = .text u.source) ∨
            ¬Place.Below s.place q ∧ s.tree.node? q = some (.file content)) ∧
      (config.deliverRound classes (config.deliverRound classes s).target).result = .ok units ∧
      ∀ q, (config.deliverRound classes (config.deliverRound classes s).target).target.tree.node? q =
        (config.deliverRound classes s).target.tree.node? q := by
  obtain ⟨hsound, -⟩ := sound_of_describeAll h
  have hends : ∀ u ∈ units, u.name.EndsIn config.strategy.ending := fun u hu =>
    endsIn_of_roundUnits hsound hunits hu
  refine ⟨?_, ?_, fun u hu v hv hbegins => ?_, fun s hlimits hs => ?_⟩
  · exact nodup_map_of_roundUnits hsound hunits fun _ _ hn hm => hn.eq_of_qualified_eq hm
  · refine nodup_map_of_roundUnits hsound hunits fun n m hn hm he => hn.eq_of_path_eq hm ?_
    rw [← hn.names_filePath hending, he, hm.names_filePath hending]
  · rw [(hends u hu).names_filePath hending, (hends v hv).names_filePath hending] at hbegins
    exact List.inj_on_of_nodup_map (nodup_names_of_roundUnits hunits) hu hv
      ((hends u hu).eq_of_prefix_path (hends v hv) hbegins)
  · have hfits := fits_of_roundUnits hsound hending hunits hs hlimits
    obtain ⟨after, htarget, hresult, hl, hnodes⟩ := SourceDirectory.deliver_of_fits hfits
    obtain ⟨again, htarget', hresult', -, hnodes'⟩ :=
      SourceDirectory.deliver_of_fits (hfits.again hl hnodes)
    rw [deliverRound_target hunits s, htarget, deliverRound_target hunits, htarget']
    refine ⟨deliverRound_result hunits hresult, hfits.nodup, fun q content => ?_,
      deliverRound_result hunits hresult', fun q => ?_⟩
    · show after.node? q = some (.file content) ↔ _
      rw [hnodes, SourceDirectory.nodeAfter_eq_file_iff hfits]
      refine or_congr_right (and_congr_left fun hfile => ⟨fun _ hbelow => ?_, fun hout u hu hq => ?_⟩)
      · rw [hs.empty q hbelow] at hfile
        cases hfile
      · exact hout (hq ▸ SourceDirectory.below_placeOf (hfits.components u hu))
    · show again.node? q = after.node? q
      rw [hnodes', SourceDirectory.nodeAfter_again hfits hnodes, hnodes]

/-- A class and one inside it, which both go to companions. -/
def shopSchemas : List Schema := [
  { classes := [
      { name := "shop.Item", markers := ["ToString"] },
      { name := "shop.Item.Part", package := some "shop", markers := ["ToString"] }] }]

def shopClasses : List ClassDecl := [
  { ClassDecl.ofName "shop.Item" with markers := .ofList [.stringForm] },
  { ClassDecl.ofName "shop.Item.Part" with
    package := some "shop"
    markers := .ofList [.stringForm] }]

def companions : Config := { strategy := .companion "Lombok" }

/-- A directory that is not there yet, and a file beside it. -/
def outTarget : SourceDirectory where
  root := "out/java"
  tree := { nodes := [(["out"], .directory), (["notes.txt"], .file (.text "kept"))] }

theorem vacant_outTarget : outTarget.Vacant := by
  have hplace : outTarget.place = ["out", "java"] := by decide +kernel
  refine SourceDirectory.vacant_of_up_not_mem (by decide +kernel) ?_ ?_
  · have hway : Place.way [] (Place.names outTarget.root) = [["out"], ["out", "java"]] := by
      decide +kernel
    rw [hway]
    rintro q hq ⟨content, hcontent⟩
    simp only [List.mem_cons, List.not_mem_nil, or_false] at hq
    rcases hq with rfl | rfl <;> cases hcontent
  · rintro q hbelow
    rw [FileTree.node?_of_not_above (Place.isAbove_of_below hbelow)]
    obtain ⟨names, hne, -, rfl⟩ := hbelow
    rw [hplace]
    simp [outTarget, List.lookup_cons]

theorem roundUnits_shopClasses :
    companions.roundUnits shopClasses = .ok (shopClasses.map companions.unitOf) := by
  have hunit : ∀ c ∈ shopClasses, companions.classUnit c = .ok (some (companions.unitOf c)) := by
    intro c hc
    have hne : c.requests ≠ [] := by revert c; decide +kernel
    have hnone : c.touchedFields = [] := by revert c; decide +kernel
    have hnames : c.instanceNames.Nodup := by revert c; decide +kernel
    exact classUnit_eq_unitOf hnames hne (fun _ => by simp [hnone]) fun h => absurd h (by decide)
  refine generateFrom_eq_ok_iff.mpr
    ⟨shopClasses.map fun c => some (companions.unitOf c), ?_, ?_, ?_, ?_⟩
  · rw [List.forall₂_map_right_iff, List.forall₂_same]
    exact hunit
  · rfl
  · decide +kernel
  · exact fun n _ => List.not_mem_nil

theorem deliverRound_vacant_shop :
    describeAll shopSchemas = .ok shopClasses ∧
      companions.roundUnits shopClasses = .ok (shopClasses.map companions.unitOf) ∧
      outTarget.Vacant ∧
      (companions.deliverRound shopClasses outTarget).result =
        .ok (shopClasses.map companions.unitOf) ∧
      (companions.deliverRound shopClasses outTarget).target.tree.node? ["notes.txt"] =
        some (.file (.text "kept")) := by
  have h : describeAll shopSchemas = .ok shopClasses := by
    unfold describeAll
    exact if_pos (by decide +kernel)
  have hout : ¬Place.Below outTarget.place ["notes.txt"] := by
    have hplace : outTarget.place = ["out", "java"] := by decide +kernel
    rintro ⟨names, -, -, he⟩
    rw [hplace] at he
    exact absurd (List.cons.inj he).1 (by simp)
  obtain ⟨-, -, -, hdeliver⟩ :=
    deliverRound_vacant companions (by decide) h roundUnits_shopClasses
  obtain ⟨hresult, -, hfiles, -⟩ := hdeliver outTarget rfl vacant_outTarget
  exact ⟨h, roundUnits_shopClasses, vacant_outTarget, hresult,
    (hfiles ["notes.txt"] (.text "kept")).mpr (Or.inr ⟨hout, rfl⟩)⟩

end Config

end AccessorGen
