import AccessorGen.Proofs.Delivery

/-!
# Files written and overwritten

`Delivery` follows units that fit into a directory. Here nothing is known of the directory: other files may
stand in the places of the units or in the way of them, units may go to one and the same file, and the
delivery may stop early. What can be said all the same is which units the directory takes (`taken`), and
that afterwards it differs from what it was by the last of them at each place (`SourceDirectory.Took`).

Taking one unit is a write that succeeds, and what is taken first and what is taken next add up.
-/

set_option autoImplicit false

namespace AccessorGen

/-! ## Any destination -/

section

variable {σ : Type} [Destination σ]

/-- The units that are taken when these are delivered: those before the first that cannot be written. -/
def taken (target : σ) : List SourceUnit → List SourceUnit
  | [] => []
  | u :: rest =>
    match Destination.write target u with
    | .error _ => []
    | .ok next => u :: taken next rest

theorem mem_of_mem_taken {target : σ} {units : List SourceUnit} {u : SourceUnit}
    (h : u ∈ taken target units) : u ∈ units := by
  induction units generalizing target with
  | nil => exact h
  | cons v rest ih =>
    rw [taken] at h
    cases hwrite : Destination.write target v with
    | error fault =>
      rw [hwrite] at h
      cases h
    | ok next =>
      rw [hwrite] at h
      exact List.mem_cons.mpr ((List.mem_cons.mp h).imp id ih)

/-- **How a delivery ends:** with all the units, or at the one behind those that were taken. -/
theorem deliver_outcome (target : σ) (units : List SourceUnit) :
    ((deliver target units).result = .ok () ∧ taken target units = units) ∨
      ∃ u rest fault, units = taken target units ++ u :: rest ∧
        (deliver target units).result = .error (.file fault) ∧
        Destination.write (deliver target units).target u = .error fault := by
  induction units generalizing target with
  | nil => exact Or.inl ⟨rfl, rfl⟩
  | cons u rest ih =>
    unfold deliver taken
    cases hwrite : Destination.write target u with
    | error fault => exact Or.inr ⟨u, rest, fault, rfl, rfl, hwrite⟩
    | ok next =>
      rcases ih next with ⟨hresult, htaken⟩ | ⟨v, later, fault, hunits, hresult, hfault⟩
      · exact Or.inl ⟨hresult, congrArg (u :: ·) htaken⟩
      · exact Or.inr ⟨v, later, fault, congrArg (u :: ·) hunits, hresult, hfault⟩

end

namespace SourceDirectory

variable {s mid after : SourceDirectory} {units : List SourceUnit} {q : Place}

/-! ## The last unit at a place -/

/-- The last of the units whose file is at the place. -/
def lastAt (s : SourceDirectory) (units : List SourceUnit) (q : Place) : Option SourceUnit :=
  units.reverse.find? fun u => s.placeOf u.name == q

theorem lastAt_append (front back : List SourceUnit) (q : Place) :
    s.lastAt (front ++ back) q = (s.lastAt back q).or (s.lastAt front q) := by
  unfold lastAt
  rw [List.reverse_append, List.find?_append]

theorem lastAt_singleton (u : SourceUnit) (q : Place) :
    s.lastAt [u] q = if q = s.placeOf u.name then some u else none := by
  unfold lastAt
  by_cases hq : q = s.placeOf u.name
  · simp [hq]
  · simp [hq, Ne.symm hq]

theorem lastAt_eq_none_iff : s.lastAt units q = none ↔ ∀ u ∈ units, s.placeOf u.name ≠ q := by
  simp [lastAt]

/-- It is the last: those behind it go elsewhere. -/
theorem exists_of_lastAt_eq_some {u : SourceUnit} (h : s.lastAt units q = some u) :
    ∃ before later, units = before ++ u :: later ∧ s.placeOf u.name = q ∧
      ∀ v ∈ later, s.placeOf v.name ≠ q := by
  obtain ⟨hplace, front, back, hsplit, hfront⟩ := List.find?_eq_some_iff_append.mp h
  refine ⟨back.reverse, front.reverse, ?_, by simpa using hplace, ?_⟩
  · rw [← List.reverse_reverse units, hsplit]
    simp
  · intro v hv
    simpa using hfront v (List.mem_reverse.mp hv)

/-- Where each unit has a place to itself, the last one there is that unit. -/
theorem lastAt_of_nodup (hnodup : (units.map fun u => s.placeOf u.name).Nodup) {u : SourceUnit}
    (hu : u ∈ units) : s.lastAt units (s.placeOf u.name) = some u := by
  cases hlast : s.lastAt units (s.placeOf u.name) with
  | none => exact absurd rfl (lastAt_eq_none_iff.mp hlast u hu)
  | some v =>
    obtain ⟨before, later, rfl, hplace, -⟩ := exists_of_lastAt_eq_some hlast
    rw [List.inj_on_of_nodup_map hnodup (by simp) hu hplace]

/-! ## What a directory has taken -/

theorem pathOf_congr (h : after.root = s.root) (n : UnitName) : after.pathOf n = s.pathOf n := by
  unfold pathOf
  rw [h]

theorem lastAt_congr (h : after.root = s.root) : after.lastAt units q = s.lastAt units q := by
  unfold lastAt placeOf
  simp only [pathOf_congr h]

/-- The directory has taken these units and is otherwise the same: their paths are noted in their order,
and of the files those of the units have changed, to the source of the last unit at each place. -/
structure Took (s : SourceDirectory) (units : List SourceUnit) (after : SourceDirectory) : Prop where
  root : after.root = s.root
  limits : after.tree.limits = s.tree.limits
  written : after.written = s.written ++ units.map fun u => s.pathOf u.name
  files : ∀ q, after.tree.file? q =
    ((s.lastAt units q).map fun u => Content.text u.source).or (s.tree.file? q)

theorem Took.refl (s : SourceDirectory) : s.Took [] s where
  root := rfl
  limits := rfl
  written := by simp
  files _ := rfl

/-- **What is taken first and what is taken next add up.** -/
theorem Took.trans {front back : List SourceUnit} (hfront : s.Took front mid)
    (hback : mid.Took back after) : s.Took (front ++ back) after where
  root := hback.root.trans hfront.root
  limits := hback.limits.trans hfront.limits
  written := by
    rw [hback.written, hfront.written, List.map_append, List.append_assoc]
    simp only [pathOf_congr hfront.root]
  files q := by
    rw [hback.files, hfront.files, lastAt_congr hfront.root, lastAt_append, ← Option.or_assoc,
      ← Option.map_or]

/-- **A unit that is written is taken.** -/
theorem took_of_write (hlimits : s.tree.limits = none) {u : SourceUnit}
    (h : Destination.write s u = .ok after) : s.Took [u] after := by
  obtain ⟨front, name, hpath⟩ := s.exists_names_pathOf u.name
  obtain ⟨tree, htree, hafter⟩ := bind_eq_ok_iff.mp h
  obtain ⟨hnone, hfiles⟩ := FileTree.file?_of_write_eq_ok hlimits hpath htree
  cases hafter
  refine ⟨rfl, hnone.trans hlimits.symm, rfl, ?_⟩
  intro q
  show tree.file? q = _
  rw [hfiles, lastAt_singleton]
  show (if q = s.placeOf u.name then _ else _) = _
  by_cases hq : q = s.placeOf u.name
  · simp [hq]
  · simp [hq]

/-- **A delivery leaves the directory with the units it has taken.** -/
theorem took_deliver (hlimits : s.tree.limits = none) (units : List SourceUnit) :
    s.Took (taken s units) (deliver s units).target := by
  -- on the units, from whatever directory the units before them have left
  induction units generalizing s with
  | nil => exact Took.refl s
  | cons u rest ih =>
    unfold deliver taken
    cases hwrite : Destination.write s u with
    | error fault => exact Took.refl s
    | ok next =>
      have hfirst := took_of_write hlimits hwrite
      exact hfirst.trans (ih (hfirst.limits.trans hlimits))

/-! ## A directory and its record -/

theorem pathOf_eq_of_placeOf_eq {n m : UnitName} (hn : n.NoSlash) (hm : m.NoSlash)
    (h : s.placeOf n = s.placeOf m) : s.pathOf n = s.pathOf m := by
  rw [placeOf_eq hn.isComponent_path, placeOf_eq hm.isComponent_path] at h
  unfold pathOf UnitName.filePath
  rw [List.append_cancel_left h]

/-- The directory and its record agree, where these units were taken since there was this tree: at each
path that is noted stands the source of the last unit that went there, all other files are as they were,
and no file is gone. -/
structure Holds (s : SourceDirectory) (units : List SourceUnit) (tree : FileTree) : Prop where
  written : s.written = units.map fun u => s.pathOf u.name
  last : ∀ path ∈ s.written, ∃ before u later, units = before ++ u :: later ∧
    s.pathOf u.name = path ∧ (∀ v ∈ later, s.pathOf v.name ≠ path) ∧
    s.tree.file? (Place.ofPath path) = some (.text u.source)
  others : ∀ q, (∀ path ∈ s.written, Place.ofPath path ≠ q) → s.tree.file? q = tree.file? q
  kept : ∀ q, tree.HasFile q → s.tree.HasFile q

/-- **A directory that had noted nothing agrees with its record once it has taken units.** -/
theorem Took.holds (h : s.Took units after) (hempty : s.written = [])
    (hunits : ∀ u ∈ units, u.name.NoSlash) : after.Holds units s.tree := by
  have hwritten : after.written = units.map fun u => after.pathOf u.name := by
    rw [h.written, hempty, List.nil_append]
    simp only [pathOf_congr h.root]
  have hfiles : ∀ q, after.tree.file? q =
      ((after.lastAt units q).map fun u => Content.text u.source).or (s.tree.file? q) := by
    intro q
    rw [h.files, lastAt_congr h.root]
  refine ⟨hwritten, ?_, ?_, ?_⟩
  · intro path hpath
    rw [hwritten] at hpath
    obtain ⟨w, hw, rfl⟩ := List.mem_map.mp hpath
    cases hlast : after.lastAt units (after.placeOf w.name) with
    | none => exact absurd rfl (lastAt_eq_none_iff.mp hlast w hw)
    | some u =>
      obtain ⟨before, later, hsplit, hplace, hlater⟩ := exists_of_lastAt_eq_some hlast
      have hu : u ∈ units := by simp [hsplit]
      refine ⟨before, u, later, hsplit, pathOf_eq_of_placeOf_eq (hunits u hu) (hunits w hw) hplace,
        ?_, ?_⟩
      · -- another path leads to another place
        intro v hv hpath
        apply hlater v hv
        unfold placeOf
        rw [hpath]
      · show after.tree.file? (after.placeOf w.name) = _
        rw [hfiles, hlast]
        rfl
  · intro q hq
    have hnone : after.lastAt units q = none := by
      apply lastAt_eq_none_iff.mpr
      intro u hu
      apply hq (after.pathOf u.name)
      rw [hwritten]
      exact List.mem_map_of_mem hu
    rw [hfiles, hnone]
    rfl
  · intro q ⟨content, hcontent⟩
    have hbefore : s.tree.file? q = some content := FileTree.file?_eq_some_iff.mpr hcontent
    cases hlast : after.lastAt units q with
    | none =>
      refine ⟨content, FileTree.file?_eq_some_iff.mp ?_⟩
      rw [hfiles, hlast, hbefore]
      rfl
    | some u =>
      refine ⟨.text u.source, FileTree.file?_eq_some_iff.mp ?_⟩
      rw [hfiles, hlast]
      rfl

end SourceDirectory

end AccessorGen
