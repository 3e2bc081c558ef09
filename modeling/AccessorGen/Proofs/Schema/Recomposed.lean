import AccessorGen.Proofs.Schema.Batches

/-!
# Names taken apart and put together

The package of a class and its name relative to the package are cut out of the qualified name, and each
cut has a way out for a name that does not have the expected form. Where no package is given, or one
that is in front of the name, the two parts make up the whole again (`qualifiedName_eq_of_package`).
The last segment survives all ways out (`lastSegment_localName`).

Segment by segment the parts of a class that passes the check are the segments of the qualified name,
none lost and none added, where an empty package counts as no segments at all. A class is nested when
more than one segment is left for the local name.
-/

set_option autoImplicit false

namespace AccessorGen

namespace Text

theorem not_mem_lastSegment (s : String) : '.' ∉ (lastSegment s).toList := by
  by_cases h : '.' ∈ s.toList
  · obtain ⟨_, -, hlast⟩ := exists_append_lastSegment h
    exact hlast
  · rw [lastSegment_of_not_mem h]
    exact h

theorem mem_dot_iff_two_le {s : String} : '.' ∈ s.toList ↔ 2 ≤ (segments s).length := by
  constructor
  · intro h
    obtain ⟨front, hs, -⟩ := exists_append_lastSegment h
    have hfront := List.length_pos_of_ne_nil (segments_ne_nil front)
    have hlast := List.length_pos_of_ne_nil (segments_ne_nil (lastSegment s))
    rw [hs, segments_append, List.length_append]
    omega
  · intro h
    by_contra hdot
    rw [segments_of_not_mem hdot, List.length_singleton] at h
    omega

end Text

namespace ClassDecl

/-- A bare class of that name, in the package if one is given. -/
def ofNameIn (qualifiedName : String) (package : Option String) : ClassDecl :=
  { ofName qualifiedName with package }

/-- The segments of the package; the default package has none. -/
def packageSegments (c : ClassDecl) : List String :=
  if c.packageName = "" then [] else Text.segments c.packageName

variable {c : ClassDecl}

theorem isNested_iff : c.isNested = true ↔ '.' ∈ c.localName.toList := by
  rw [isNested, List.contains_eq_mem, decide_eq_true_eq]

/-- **Whatever the package is, the local name ends in the simple name.** -/
theorem lastSegment_localName (hs : c.simpleName = Text.lastSegment c.qualifiedName) :
    Text.lastSegment c.localName = c.simpleName := by
  rcases c.localName_cases with ⟨-, hl⟩ | ⟨-, hq⟩ | ⟨-, -, hl⟩
  · rw [hl, hs]
  · rw [hs, hq, Text.lastSegment_append]
  · rw [hl, hs, Text.lastSegment_of_not_mem (Text.not_mem_lastSegment _)]

/-- **Without a package of its own only a class whose name starts with its one dot is nested.** -/
theorem isNested_iff_of_package_none (hs : c.simpleName = Text.lastSegment c.qualifiedName)
    (hp : c.package = none) :
    c.isNested = true ↔ ∃ last, '.' ∉ last.toList ∧ c.qualifiedName = "." ++ last := by
  have hlast : '.' ∉ c.simpleName.toList := hs ▸ Text.not_mem_lastSegment _
  rw [isNested_iff]
  constructor
  · intro hdot
    rcases c.qualifiedName_eq_of_package hs (by simp [hp]) with ⟨he, hq⟩ | ⟨hne, hq⟩
    · -- the whole name is the local one, so it has a dot, and nothing is in front of the last
      rcases packageName_of_none hs hp with ⟨-, hno⟩ | hcut
      · exact absurd (hq ▸ hdot) hno
      · refine ⟨c.simpleName, hlast, ?_⟩
        rw [hcut, he, String.empty_append]
    · rcases packageName_of_none hs hp with ⟨he, -⟩ | hcut
      · exact absurd he hne
      · rw [hcut, String.append_right_inj] at hq
        exact absurd (hq ▸ hdot) hlast
  · intro h
    obtain ⟨last, hno, hq⟩ := h
    -- in front of the simple name there is only the dot, so the package is the default one
    have hsimple : c.simpleName = last := by
      rw [hs, hq, ← String.empty_append (s := "."), Text.lastSegment_append,
        Text.lastSegment_of_not_mem hno]
    have hdot : Text.beforeSuffix? "." "." = some "" := Text.beforeSuffix?_eq_some.mpr rfl
    have hpackage : c.packageName = "" := by
      rw [packageName, hp, hsimple, hq]
      simp [Text.beforeSuffix?_eq_some.mpr rfl, hdot]
    rw [localName, if_pos hpackage, hq]
    simp

/-- The segments of a name that is put together again. -/
theorem segments_qualifiedName
    (h : (c.packageName = "" ∧ c.qualifiedName = c.localName) ∨
      (c.packageName ≠ "" ∧ c.qualifiedName = c.packageName ++ "." ++ c.localName)) :
    Text.segments c.qualifiedName = c.packageSegments ++ Text.segments c.localName := by
  rcases h with ⟨hp, hq⟩ | ⟨hp, hq⟩
  · rw [hq, packageSegments, if_pos hp, List.nil_append]
  · rw [hq, packageSegments, if_neg hp, Text.segments_append]

theorem Sound.isIdentifier_of_mem_segments (h : c.Sound) {segment : String}
    (hmem : segment ∈ c.packageSegments ++ Text.segments c.localName) :
    IsIdentifier segment := by
  rw [← segments_qualifiedName h.qualifiedName_eq] at hmem
  exact (isDottedName_iff.mp h.qualifiedName).2 segment hmem

/-- **A sound class is nested when its name goes on for more than one segment behind the package.** -/
theorem Sound.isNested_iff_two_le (h : c.Sound) :
    c.isNested = true ↔
      ∃ inner, Text.segments c.qualifiedName = c.packageSegments ++ inner ∧ 2 ≤ inner.length := by
  rw [isNested_iff, Text.mem_dot_iff_two_le, segments_qualifiedName h.qualifiedName_eq]
  constructor
  · intro hlength
    exact ⟨_, rfl, hlength⟩
  · intro hinner
    obtain ⟨inner, hsegments, hlength⟩ := hinner
    rw [List.append_cancel_left hsegments]
    exact hlength

/-- **Qualified names are cut in two and put together again.** The local name ends in the simple name, for
every name and every package. Without a package, or with one that is empty or in front of the name, the
parts make up the name; without one, nothing is nested but a class whose name starts with its one dot.
Of a class that passes the check the parts are made of identifiers and make up the name, and the class is
nested exactly when two or more segments are behind those of the package. -/
theorem names_recompose :
    (∀ (name : String) (package : Option String),
      Text.lastSegment (ofNameIn name package).localName = (ofNameIn name package).simpleName ∧
      (package = none ∨ package = some "" ∨
          (∃ p rest, package = some p ∧ name = p ++ "." ++ rest) →
        ((ofNameIn name package).packageName = "" ∧ (ofNameIn name package).localName = name) ∨
          name = (ofNameIn name package).packageName ++ "." ++ (ofNameIn name package).localName) ∧
      (package = none → (ofNameIn name package).isNested = true →
        ∃ last, '.' ∉ last.toList ∧ name = "." ++ last)) ∧
    ∀ spec : ClassSpec, spec.check.isValid = true → ∃ c, spec.describe = .ok c ∧
      c.qualifiedName = spec.name ∧
      ((c.packageName = "" ∧ c.localName = c.qualifiedName) ∨
        c.qualifiedName = c.packageName ++ "." ++ c.localName) ∧
      Text.segments c.qualifiedName = c.packageSegments ++ Text.segments c.localName ∧
      (∀ segment ∈ c.packageSegments ++ Text.segments c.localName, IsIdentifier segment) ∧
      (c.isNested = true ↔
        ∃ inner, Text.segments c.qualifiedName = c.packageSegments ++ inner ∧ 2 ≤ inner.length) := by
  constructor
  · intro name package
    have hs : (ofNameIn name package).simpleName =
        Text.lastSegment (ofNameIn name package).qualifiedName := rfl
    refine ⟨lastSegment_localName hs, ?_, ?_⟩
    · intro hpackage
      have hfront : ∀ p, (ofNameIn name package).package = some p →
          p = "" ∨ ∃ rest, name = p ++ "." ++ rest := by
        intro p hp
        rcases hpackage with rfl | rfl | ⟨q, rest, rfl, hq⟩
        · cases hp
        · cases hp
          exact Or.inl rfl
        · cases hp
          exact Or.inr ⟨rest, hq⟩
      rcases qualifiedName_eq_of_package hs hfront with ⟨hp, hq⟩ | ⟨-, hq⟩
      · exact Or.inl ⟨hp, hq.symm⟩
      · exact Or.inr hq
    · intro hnone hnested
      exact (isNested_iff_of_package_none hs hnone).mp hnested
  · intro spec hvalid
    obtain ⟨c, hc⟩ := ClassSpec.exists_describe_of_isValid hvalid
    have hsound := ClassSpec.sound_of_describe hvalid hc
    refine ⟨c, hc, (ClassSpec.describe_spec hc).1, ?_, segments_qualifiedName hsound.qualifiedName_eq,
      fun segment hmem => hsound.isIdentifier_of_mem_segments hmem, hsound.isNested_iff_two_le⟩
    rcases hsound.qualifiedName_eq with ⟨hp, hq⟩ | ⟨-, hq⟩
    · exact Or.inl ⟨hp, hq.symm⟩
    · exact Or.inr hq

end ClassDecl

end AccessorGen
