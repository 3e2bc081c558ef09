import AccessorGen.FileTree
import AccessorGen.Proofs.Places
import AccessorGen.Proofs.Traversal

/-!
# Writing into a file tree

In a tree without limits, making directories fails only at a file that stands on the way, and writing
a file fails beyond that only where a directory stands in its place. Where nothing fails, the tree is
known at every place afterwards: the file, the directories on the way to it, and everything else as it
was (`write_spec`). Of the files alone it is enough to know that the write succeeded
(`file?_of_write_eq_ok`).
-/

set_option autoImplicit false

namespace AccessorGen

namespace FileTree

variable {t : FileTree}

/-- Whether a regular file stands at the place. -/
def HasFile (t : FileTree) (p : Place) : Prop := ∃ content, t.node? p = some (.file content)

/-- What the regular file at the place holds, if one stands there. -/
def file? (t : FileTree) (p : Place) : Option Content :=
  match t.node? p with
  | some (.file content) => some content
  | _ => none

theorem file?_eq_some_iff {p : Place} {content : Content} :
    t.file? p = some content ↔ t.node? p = some (.file content) := by
  unfold file?
  split
  · next h => simp [h]
  · next h => simpa using h content

theorem file?_congr {t' : FileTree} {p : Place} (h : t.node? p = t'.node? p) :
    t.file? p = t'.file? p := by
  unfold file?
  rw [h]

/-! ## One node -/

theorem node?_of_not_above {p : Place} (hp : p.isAbove = false) :
    t.node? p = t.nodes.lookup p := by
  unfold node?
  rw [hp]
  rfl

theorem node?_of_above {p : Place} (hp : p.isAbove = true) : t.node? p = some .directory := by
  unfold node?
  rw [hp]
  rfl

theorem not_above_of_node? {p : Place} (h : t.node? p ≠ some .directory) : p.isAbove = false := by
  cases hp : p.isAbove with
  | false => rfl
  | true => exact absurd (node?_of_above hp) h

theorem lookup_map_replace (nodes : List (Place × Node)) (p q : Place) (n : Node) :
    (nodes.map fun e => if e.1 == p then (p, n) else e).lookup q =
      if q = p then (nodes.lookup p).map fun _ => n else nodes.lookup q := by
  induction nodes with
  | nil => simp
  | cons e rest ih =>
    obtain ⟨r, m⟩ := e
    rw [List.map_cons]
    by_cases hr : r = p
    · subst hr
      simp only [beq_self_eq_true, if_true, List.lookup_cons, ih]
      by_cases hq : q = r
      · simp [hq]
      · have hqr : (q == r) = false := by simpa using hq
        simp [hq, hqr]
    · have hp : (r == p) = false := by simpa using hr
      have hp' : (p == r) = false := by simpa using Ne.symm hr
      simp only [hp, hp', Bool.false_eq_true, if_false, List.lookup_cons, ih]
      by_cases hq : q = p
      · subst hq
        simp [hp']
      · simp [hq]

theorem lookup_append_of_none {nodes : List (Place × Node)} {p : Place}
    (h : nodes.lookup p = none) (q : Place) (n : Node) :
    (nodes ++ [(p, n)]).lookup q = if q = p then some n else nodes.lookup q := by
  rw [List.lookup_append]
  by_cases hq : q = p
  · subst hq
    simp [h]
  · have hp : (q == p) = false := by simpa using hq
    simp [hq, List.lookup_cons, hp]

/-- **A node that is put somewhere is found there, and nothing else moves.** -/
theorem node?_put {p : Place} (hp : p.isAbove = false) (n : Node) (q : Place) :
    (t.put p n).node? q = if q = p then some n else t.node? q := by
  by_cases hq : q.isAbove = true
  · have hne : q ≠ p := by
      rintro rfl
      rw [hp] at hq
      cases hq
    rw [node?_of_above hq, node?_of_above hq, if_neg hne]
  · rw [Bool.not_eq_true] at hq
    rw [node?_of_not_above hq, node?_of_not_above hq]
    unfold put
    cases hlookup : t.nodes.lookup p with
    | none =>
      rw [if_neg (by simp)]
      exact lookup_append_of_none hlookup q n
    | some m =>
      rw [if_pos (by simp)]
      show List.lookup q (t.nodes.map fun e => if e.1 == p then (p, n) else e) = _
      rw [lookup_map_replace, hlookup]
      rfl

@[simp] theorem limits_put (p : Place) (n : Node) : (t.put p n).limits = t.limits := by
  unfold put
  split <;> rfl

theorem takesName_of_limits (h : t.limits = none) (name : String) : t.takesName name = true := by
  unfold takesName
  rw [h]

theorem checkPath_of_limits (h : t.limits = none) (path : String) : t.checkPath path = .ok () := by
  unfold checkPath
  rw [h]

/-! ## Directories on a way -/

/-- One name further on the way, where a directory is found or made. -/
theorem makeDirectories_cons (hlimits : t.limits = none) {p : Place} {name : String}
    (h : ¬t.HasFile (p.step name)) (made : Bool) (rest : List String) :
    ∃ (next : FileTree) (made' : Bool), t.makeDirectories p made (name :: rest) =
        next.makeDirectories (p.step name) made' rest ∧
      next.limits = none ∧
      ∀ q, next.node? q = if q = p.step name then some .directory else t.node? q := by
  rw [makeDirectories, takesName_of_limits hlimits, if_pos rfl]
  cases hnode : t.node? (p.step name) with
  | none =>
    have hnot : (p.step name).isAbove = false := not_above_of_node? (t := t) (by simp [hnode])
    exact ⟨t.put (p.step name) .directory, true, rfl, by simpa using hlimits,
      fun q => node?_put hnot .directory q⟩
  | some n =>
    cases n with
    | file content => exact absurd ⟨content, hnode⟩ h
    | directory =>
      refine ⟨t, made, rfl, hlimits, fun q => ?_⟩
      by_cases hq : q = p.step name
      · rw [if_pos hq, hq, hnode]
      · rw [if_neg hq]

/-- **Directories are made where no file is in the way.** Then they stand on all of the way. -/
theorem makeDirectories_spec (hlimits : t.limits = none) {p : Place} {names : List String}
    (h : ∀ q ∈ Place.way p names, ¬t.HasFile q) (made : Bool) :
    ∃ after, t.makeDirectories p made names = .ok (after, names.foldl Place.step p) ∧
      after.limits = none ∧
      ∀ q, after.node? q = if q ∈ Place.way p names then some .directory else t.node? q := by
  induction names generalizing t p made with
  | nil => exact ⟨t, rfl, hlimits, fun q => by simp [Place.way]⟩
  | cons name rest ih =>
    obtain ⟨next, made', hnext, hl, hnodes⟩ :=
      makeDirectories_cons hlimits (h _ List.mem_cons_self) made rest
    -- a directory more is no file on the rest of the way
    have hrest : ∀ q ∈ Place.way (p.step name) rest, ¬next.HasFile q := by
      rintro q hq ⟨content, hcontent⟩
      rw [hnodes] at hcontent
      by_cases he : q = p.step name
      · rw [if_pos he] at hcontent
        cases hcontent
      · rw [if_neg he] at hcontent
        exact h q (List.mem_cons_of_mem _ hq) ⟨content, hcontent⟩
    obtain ⟨after, hafter, hl', hnodes'⟩ := ih hl hrest made'
    refine ⟨after, hnext.trans hafter, hl', fun q => ?_⟩
    simp only [hnodes', hnodes, Place.way, List.mem_cons]
    by_cases hq : q ∈ Place.way (p.step name) rest <;> simp [hq]

/-- A file on the way is what makes it fail. -/
theorem not_hasFile_of_makeDirectories (hlimits : t.limits = none) {p : Place} {names : List String}
    {made : Bool} {result : FileTree × Place} (h : t.makeDirectories p made names = .ok result) :
    ∀ q ∈ Place.way p names, ¬t.HasFile q := by
  induction names generalizing t p made with
  | nil =>
    intro q hq
    cases hq
  | cons name rest ih =>
    have hfirst : ¬t.HasFile (p.step name) := by
      intro ⟨content, hcontent⟩
      rw [makeDirectories, takesName_of_limits hlimits, if_pos rfl, hcontent] at h
      cases h
    obtain ⟨next, made', hnext, hl, hnodes⟩ := makeDirectories_cons hlimits hfirst made rest
    rw [hnext] at h
    intro q hq hfile
    rcases List.mem_cons.mp hq with rfl | hq
    · exact hfirst hfile
    · have hne : q ≠ p.step name := by
        intro he
        exact hfirst (he ▸ hfile)
      obtain ⟨content, hcontent⟩ := hfile
      exact ih hl h q hq ⟨content, by rw [hnodes, if_neg hne, hcontent]⟩

/-- **A file is written where no file is in the way and no directory in its place.** -/
theorem write_spec (hlimits : t.limits = none) {path : String} {front : List String} {name : String}
    (hpath : Place.names path = front ++ [name])
    (hway : ∀ q ∈ Place.way [] front, ¬t.HasFile q)
    (htarget : (front.foldl Place.step []).step name ∉ Place.way [] front)
    (hfree : t.node? ((front.foldl Place.step []).step name) ≠ some .directory)
    (content : Content) :
    ∃ after, t.write path content = .ok after ∧ after.limits = none ∧
      ∀ q, after.node? q =
        if q = (front.foldl Place.step []).step name then some (.file content)
        else if q ∈ Place.way [] front then some .directory
        else t.node? q := by
  obtain ⟨made, hmade, hl, hnodes⟩ := makeDirectories_spec hlimits hway false
  -- making the directories has put none in the place of the file
  have hthere : made.node? ((front.foldl Place.step []).step name) =
      t.node? ((front.foldl Place.step []).step name) := by
    rw [hnodes, if_neg htarget]
  rw [← hthere] at hfree
  refine ⟨made.put ((front.foldl Place.step []).step name) (.file content), ?_, by simpa using hl,
    fun q => ?_⟩
  · simp only [write, hpath, List.dropLast_concat, checkPath_of_limits hlimits, hmade,
      bind, Except.bind, checkPath_of_limits hl, takesName_of_limits hl, if_true,
      List.getLastD_concat]
  · rw [node?_put (not_above_of_node? hfree), hnodes]

/-- **Nothing else makes a write fail.** The last condition is void for a path that does not go up. -/
theorem exists_write_eq_ok_iff (hlimits : t.limits = none) {path : String} {front : List String}
    {name : String} (hpath : Place.names path = front ++ [name]) (content : Content) :
    (∃ after, t.write path content = .ok after) ↔
      (∀ q ∈ Place.way [] front, ¬t.HasFile q) ∧
        t.node? ((front.foldl Place.step []).step name) ≠ some .directory ∧
        (front.foldl Place.step []).step name ∉ Place.way [] front := by
  constructor
  · intro ⟨after, h⟩
    unfold write at h
    simp only [hpath, List.dropLast_concat, List.getLastD_concat] at h
    obtain ⟨_, -, h⟩ := bind_eq_ok_iff.mp h
    obtain ⟨⟨made, p⟩, hmade, h⟩ := bind_eq_ok_iff.mp h
    have hway := not_hasFile_of_makeDirectories hlimits hmade
    obtain ⟨made', hmade', hl, hnodes⟩ := makeDirectories_spec hlimits hway false
    cases hmade.symm.trans hmade'
    simp only [checkPath_of_limits hl, takesName_of_limits hl, bind, Except.bind, if_true] at h
    -- the place is free once the directories are there
    have hfree : made.node? ((front.foldl Place.step []).step name) ≠ some .directory := by
      intro hdirectory
      rw [hdirectory] at h
      cases h
    rw [hnodes] at hfree
    have htarget : (front.foldl Place.step []).step name ∉ Place.way [] front := by
      intro hmem
      exact hfree (if_pos hmem)
    rw [if_neg htarget] at hfree
    exact ⟨hway, hfree, htarget⟩
  · intro ⟨hway, hfree, htarget⟩
    obtain ⟨after, hafter, -⟩ := write_spec hlimits hpath hway htarget hfree content
    exact ⟨after, hafter⟩

/-- **A write that succeeds changes one file.** -/
theorem file?_of_write_eq_ok (hlimits : t.limits = none) {path : String} {front : List String}
    {name : String} (hpath : Place.names path = front ++ [name]) {content : Content} {after : FileTree}
    (h : t.write path content = .ok after) :
    after.limits = none ∧
      ∀ q, after.file? q =
        if q = (Place.names path).foldl Place.step [] then some content else t.file? q := by
  obtain ⟨hway, hfree, htarget⟩ := (exists_write_eq_ok_iff hlimits hpath content).mp ⟨after, h⟩
  obtain ⟨after', hafter, hl, hnodes⟩ := write_spec hlimits hpath hway htarget hfree content
  cases h.symm.trans hafter
  refine ⟨hl, fun q => ?_⟩
  rw [hpath, List.foldl_concat]
  by_cases hq : q = (front.foldl Place.step []).step name
  · rw [if_pos hq, file?_eq_some_iff, hnodes, if_pos hq]
  · rw [if_neg hq]
    by_cases hmem : q ∈ Place.way [] front
    · -- a directory now, and no file before
      have hnow : ∀ content, after.file? q ≠ some content := by
        intro content hcontent
        rw [file?_eq_some_iff, hnodes, if_neg hq, if_pos hmem] at hcontent
        cases hcontent
      have hbefore : ∀ content, t.file? q ≠ some content := by
        intro content hcontent
        exact hway q hmem ⟨content, file?_eq_some_iff.mp hcontent⟩
      rw [Option.eq_none_iff_forall_ne_some.mpr hnow, Option.eq_none_iff_forall_ne_some.mpr hbefore]
    · apply file?_congr
      rw [hnodes, if_neg hq, if_neg hmem]

end FileTree

end AccessorGen
