import AccessorGen.Proofs.Identifier
import AccessorGen.UnitName
import Mathlib.Data.List.Basic

/-!
# Dotted names and the names of classes

A dotted name is one whose segments are identifiers. Cutting a name apart at one of its dots and
putting the parts together again are the same equation read in two directions
(`isDottedName_append`), and everything that is said of the names of classes below comes from it: the
name of a class relative to its package is dotted whenever the qualified name is, whether or not the
package was right.
-/

set_option autoImplicit false

namespace AccessorGen

namespace Text

/-- A character is a separator or stands between two of them. -/
theorem mem_splitOn_of_mem (sep : Char) {c : Char} {cs : List Char} (h : c ∈ cs) :
    c = sep ∨ ∃ part ∈ cs.splitOn sep, c ∈ part := by
  induction cs with
  | nil => exact absurd h (by simp)
  | cons a rest ih =>
    rw [List.splitOn_cons_eq_if_modifyHead]
    by_cases ha : a = sep
    · rw [if_pos (by simpa using ha)]
      rcases List.mem_cons.mp h with rfl | h
      · exact Or.inl ha
      · exact (ih h).imp id fun ⟨part, hp, hc⟩ => ⟨part, List.mem_cons_of_mem _ hp, hc⟩
    · -- the character joins the first of the parts of the rest
      rw [if_neg (by simpa using ha)]
      obtain ⟨first, others, hs⟩ := List.exists_cons_of_ne_nil (List.splitOn_ne_nil sep rest)
      rw [hs] at ih ⊢
      simp only [List.modifyHead_cons, List.mem_cons, exists_eq_or_imp] at ih ⊢
      rcases List.mem_cons.mp h with rfl | h
      · exact Or.inr (Or.inl (Or.inl rfl))
      · rcases ih h with hc | hc | hc
        · exact Or.inl hc
        · exact Or.inr (Or.inl (Or.inr hc))
        · exact Or.inr (Or.inr hc)

theorem not_mem_of_mem_splitOn {sep : Char} {cs part : List Char} (h : part ∈ cs.splitOn sep) :
    sep ∉ part := by
  induction cs generalizing part with
  | nil =>
    rw [List.splitOn_nil, List.mem_singleton] at h
    simp [h]
  | cons a rest ih =>
    rw [List.splitOn_cons_eq_if_modifyHead] at h
    by_cases ha : a = sep
    · rw [if_pos (by simpa using ha)] at h
      rcases List.mem_cons.mp h with rfl | h
      · simp
      · exact ih h
    · rw [if_neg (by simpa using ha)] at h
      obtain ⟨first, others, hs⟩ := List.exists_cons_of_ne_nil (List.splitOn_ne_nil sep rest)
      rw [hs] at ih h
      rw [List.modifyHead_cons] at h
      rcases List.mem_cons.mp h with rfl | h
      · simpa using ⟨Ne.symm ha, ih List.mem_cons_self⟩
      · exact ih (List.mem_cons_of_mem _ h)

theorem mem_of_mem_splitOn {sep c : Char} {cs part : List Char} (h : part ∈ cs.splitOn sep)
    (hc : c ∈ part) : c ∈ cs := by
  induction cs generalizing part with
  | nil =>
    rw [List.splitOn_nil, List.mem_singleton] at h
    rw [h] at hc
    exact hc
  | cons a rest ih =>
    rw [List.splitOn_cons_eq_if_modifyHead] at h
    by_cases ha : a = sep
    · rw [if_pos (by simpa using ha)] at h
      rcases List.mem_cons.mp h with rfl | h
      · exact absurd hc List.not_mem_nil
      · exact List.mem_cons_of_mem _ (ih h hc)
    · rw [if_neg (by simpa using ha)] at h
      obtain ⟨first, others, hs⟩ := List.exists_cons_of_ne_nil (List.splitOn_ne_nil sep rest)
      rw [hs] at ih h
      rw [List.modifyHead_cons] at h
      rcases List.mem_cons.mp h with rfl | h
      · exact List.mem_cons.mpr ((List.mem_cons.mp hc).imp id (ih List.mem_cons_self))
      · exact List.mem_cons_of_mem _ (ih (List.mem_cons_of_mem _ h) hc)

/-- What has no separator in it stays with the last part. -/
theorem exists_splitOn_append {sep : Char} (cs : List Char) {ds : List Char} (h : sep ∉ ds) :
    ∃ front last, (cs ++ ds).splitOn sep = front ++ [last ++ ds] := by
  induction cs with
  | nil => exact ⟨[], [], List.splitOn_eq_singleton h⟩
  | cons c cs ih =>
    obtain ⟨front, last, hs⟩ := ih
    rw [List.cons_append, List.splitOn_cons_eq_if_modifyHead, hs]
    by_cases hc : c = sep
    · exact ⟨[] :: front, last, if_pos (by simpa using hc)⟩
    · rw [if_neg (by simpa using hc)]
      cases front with
      | nil => exact ⟨[], c :: last, rfl⟩
      | cons part front => exact ⟨(c :: part) :: front, last, rfl⟩

/-- What is in front and has no separator in it joins the first of the parts. -/
theorem splitOn_append_left {sep : Char} {as : List Char} (h : sep ∉ as) (bs : List Char) :
    (as ++ bs).splitOn sep = (bs.splitOn sep).modifyHead (as ++ ·) := by
  induction as with
  | nil => exact (congrFun List.modifyHead_id (bs.splitOn sep)).symm
  | cons a rest ih =>
    rw [List.mem_cons, not_or] at h
    rw [List.cons_append, List.splitOn_cons_eq_if_modifyHead, if_neg (by simpa using Ne.symm h.1),
      ih h.2, List.modifyHead_modifyHead]
    rfl

/-- The parts of the text between the occurrences of a character. There is at least one, which may be
empty. -/
def cut (sep : Char) (s : String) : List String := (s.toList.splitOn sep).map String.ofList

section Cut

variable {sep : Char} {separator s : String}

theorem cut_append (h : separator.toList = [sep]) (a b : String) :
    cut sep (a ++ separator ++ b) = cut sep a ++ cut sep b := by
  rw [cut, String.toList_append, String.toList_append, h, List.append_assoc, List.singleton_append,
    List.splitOn_append_cons_self, List.map_append]
  rfl

theorem cut_of_not_mem (h : sep ∉ s.toList) : cut sep s = [s] := by
  rw [cut, List.splitOn_eq_singleton h]
  simp

theorem cut_ne_nil (sep : Char) (s : String) : cut sep s ≠ [] := by simp [cut]

theorem cut_append_left {a : String} (h : sep ∉ a.toList) (b : String) :
    cut sep (a ++ b) = (cut sep b).modifyHead (a ++ ·) := by
  rw [cut, String.toList_append, splitOn_append_left h, cut]
  cases b.toList.splitOn sep with
  | nil => rfl
  | cons first rest => simp

/-- The characters of a part are characters of the text, and the one it was cut at is not among them. -/
theorem mem_of_mem_cut {part : String} (h : part ∈ cut sep s) {c : Char} (hc : c ∈ part.toList) :
    c ∈ s.toList ∧ c ≠ sep := by
  obtain ⟨cs, hcs, rfl⟩ := List.mem_map.mp h
  rw [String.toList_ofList] at hc
  refine ⟨mem_of_mem_splitOn hcs hc, ?_⟩
  intro he
  exact not_mem_of_mem_splitOn hcs (he ▸ hc)

/-- The parts give back the text. -/
theorem intercalate_cut (h : separator.toList = [sep]) (s : String) :
    String.intercalate separator (cut sep s) = s := by
  have hmap : (cut sep s).map String.toList = s.toList.splitOn sep := by
    rw [cut, List.map_map]
    simp [Function.comp_def]
  rw [← String.toList_inj, String.toList_intercalate, hmap, h]
  exact List.intercalate_splitOn sep

/-- The text gives back the parts. -/
theorem cut_intercalate (h : separator.toList = [sep]) {parts : List String} (hne : parts ≠ [])
    (hparts : ∀ part ∈ parts, sep ∉ part.toList) :
    cut sep (String.intercalate separator parts) = parts := by
  have hlists : ∀ cs ∈ parts.map String.toList, sep ∉ cs := by
    intro cs hcs
    obtain ⟨part, hpart, rfl⟩ := List.mem_map.mp hcs
    exact hparts part hpart
  rw [cut, String.toList_intercalate, h, List.splitOn_intercalate sep hlists (by simpa using hne),
    List.map_map]
  simp [Function.comp_def]

end Cut

theorem segments_append (a b : String) : segments (a ++ "." ++ b) = segments a ++ segments b :=
  cut_append rfl a b

theorem segments_of_not_mem {s : String} (h : '.' ∉ s.toList) : segments s = [s] := cut_of_not_mem h

theorem mem_of_mem_segments {s part : String} (h : part ∈ segments s) {c : Char}
    (hc : c ∈ part.toList) : c ∈ s.toList ∧ c ≠ '.' := mem_of_mem_cut h hc

theorem intercalate_segments (s : String) : String.intercalate "." (segments s) = s :=
  intercalate_cut rfl s

theorem segments_ne_nil (s : String) : segments s ≠ [] := by simp [segments]

theorem afterPrefix?_eq_some {start s rest : String} :
    afterPrefix? start s = some rest ↔ s = start ++ rest := by
  rw [afterPrefix?, Option.map_eq_some_iff]
  constructor
  · rintro ⟨cs, h, rfl⟩
    rw [List.isPrefixOf?_eq_some_iff_append_eq] at h
    rw [← String.toList_inj, String.toList_append, String.toList_ofList, h]
  · rintro rfl
    refine ⟨rest.toList, ?_, by simp⟩
    rw [List.isPrefixOf?_eq_some_iff_append_eq, String.toList_append]

theorem beforeSuffix?_eq_some {ending s front : String} :
    beforeSuffix? ending s = some front ↔ s = front ++ ending := by
  rw [beforeSuffix?, Option.map_eq_some_iff]
  constructor
  · rintro ⟨cs, h, rfl⟩
    rw [List.isSuffixOf?_eq_some_iff_append_eq] at h
    rw [← String.toList_inj, String.toList_append, String.toList_ofList, h]
  · rintro rfl
    refine ⟨front.toList, ?_, by simp⟩
    rw [List.isSuffixOf?_eq_some_iff_append_eq, String.toList_append]

theorem lastSegment_append (a b : String) : lastSegment (a ++ "." ++ b) = lastSegment b := by
  rw [lastSegment, segments_append, lastSegment, List.getLastD_eq_getLast?,
    List.getLastD_eq_getLast?, List.getLast?_append_of_ne_nil _ (segments_ne_nil b)]

theorem lastSegment_of_not_mem {s : String} (h : '.' ∉ s.toList) : lastSegment s = s := by
  rw [lastSegment, segments_of_not_mem h]
  rfl

/-- Cut at its last dot, a name is what is in front of it and its last segment. -/
theorem exists_append_lastSegment {s : String} (h : '.' ∈ s.toList) :
    ∃ front, s = front ++ "." ++ lastSegment s ∧ '.' ∉ (lastSegment s).toList := by
  obtain ⟨back, front, hcut, hback⟩ := List.eq_append_cons_of_mem (List.mem_reverse.mpr h)
  have hs : s = String.ofList front.reverse ++ "." ++ String.ofList back.reverse := by
    rw [← String.toList_inj, ← List.reverse_reverse s.toList, hcut]
    simp
  have hlast : lastSegment s = String.ofList back.reverse := by
    rw [hs, lastSegment_append, lastSegment_of_not_mem (by simpa using hback)]
  exact ⟨String.ofList front.reverse, by rw [hlast]; exact hs, by simpa [hlast] using hback⟩

theorem not_mem_flattenDots (s : String) : '.' ∉ (flattenDots s).toList := by
  intro h
  rw [flattenDots, String.toList_ofList, List.mem_map] at h
  obtain ⟨c, -, hc⟩ := h
  by_cases hd : c = '.'
  · rw [if_pos hd] at hc
    exact absurd hc (by simp)
  · rw [if_neg hd] at hc
    exact hd hc

theorem mem_of_mem_flattenDots {s : String} {c : Char} (h : c ∈ (flattenDots s).toList) :
    c = '_' ∨ c ∈ s.toList := by
  rw [flattenDots, String.toList_ofList, List.mem_map] at h
  obtain ⟨a, ha, rfl⟩ := h
  by_cases hd : a = '.'
  · exact Or.inl (if_pos hd)
  · rw [if_neg hd]
    exact Or.inr ha

theorem flattenDots_of_not_mem {s : String} (h : '.' ∉ s.toList) : flattenDots s = s := by
  have hmap : (s.toList.map fun c => if c = '.' then '_' else c) = s.toList.map id :=
    List.map_congr_left fun c hc => if_neg fun (he : c = '.') => h (he ▸ hc)
  rw [flattenDots, hmap, List.map_id, String.ofList_toList]

end Text

/-- Whether the segments of the name are identifiers. -/
def isDottedName (s : String) : Bool := (Text.segments s).all isIdentifier

theorem isDottedName_append (a b : String) :
    isDottedName (a ++ "." ++ b) = (isDottedName a && isDottedName b) := by
  rw [isDottedName, Text.segments_append, List.all_append]
  rfl

theorem isDottedName_of_isIdentifier {s : String} (h : isIdentifier s = true) :
    isDottedName s = true := by
  rw [isDottedName, Text.segments_of_not_mem (not_mem_of_isIdentifier h (by decide))]
  simpa using h

/-- Between the dots of a dotted name stands what an identifier goes on with. -/
theorem continuesIdentifier_of_mem_isDottedName {s : String} (h : isDottedName s = true) {c : Char}
    (hm : c ∈ s.toList) : c = '.' ∨ continuesIdentifier c = true := by
  rcases Text.mem_splitOn_of_mem '.' hm with hc | ⟨part, hpart, hc⟩
  · exact Or.inl hc
  · have hsegment := List.all_eq_true.mp h (String.ofList part) (List.mem_map_of_mem hpart)
    exact Or.inr (continuesIdentifier_of_mem (hasIdentifierForm_of_isIdentifier hsegment)
      (by simpa using hc))

/-- Dots are the only punctuation in a dotted name. -/
theorem not_mem_of_isDottedName {s : String} (h : isDottedName s = true) {c : Char}
    (hp : c ∈ punctuation) (hd : c ≠ '.') : c ∉ s.toList := by
  intro hm
  rcases continuesIdentifier_of_mem_isDottedName h hm with hc | hc
  · exact hd hc
  · rw [continuesIdentifier_punctuation c hp] at hc
    exact Bool.noConfusion hc

namespace ClassDecl

/-- The local name is the qualified name, what is behind the package, or the simple name. -/
theorem localName_cases (c : ClassDecl) :
    (c.packageName = "" ∧ c.localName = c.qualifiedName) ∨
    (c.packageName ≠ "" ∧ c.qualifiedName = c.packageName ++ "." ++ c.localName) ∨
    (c.packageName ≠ "" ∧ (∀ rest, c.qualifiedName ≠ c.packageName ++ "." ++ rest) ∧
      c.localName = c.simpleName) := by
  by_cases hp : c.packageName = ""
  · exact Or.inl ⟨hp, by rw [localName, if_pos hp]⟩
  · rw [localName, if_neg hp]
    cases hrest : (Text.afterPrefix? c.packageName c.qualifiedName).bind
        (Text.afterPrefix? ".") with
    | some rest =>
      obtain ⟨dotted, hd, hr⟩ := Option.bind_eq_some_iff.mp hrest
      rw [Text.afterPrefix?_eq_some] at hd hr
      refine Or.inr (Or.inl ⟨hp, ?_⟩)
      rw [hd, hr, String.append_assoc]
      rfl
    | none =>
      -- had the name gone on after the package and a dot, something would have been cut off
      refine Or.inr (Or.inr ⟨hp, fun rest hq => ?_, rfl⟩)
      rw [String.append_assoc, ← Text.afterPrefix?_eq_some] at hq
      rw [hq, Option.bind_some, Text.afterPrefix?_eq_some.mpr rfl] at hrest
      exact absurd hrest (by simp)

/-- A class that is not nested goes by its simple name in its package, whichever that is. -/
theorem localName_eq_simpleName {c : ClassDecl}
    (hs : c.simpleName = Text.lastSegment c.qualifiedName) (hn : c.isNested = false) :
    c.localName = c.simpleName := by
  have hdot : '.' ∉ c.localName.toList := by
    rw [isNested, List.contains_eq_mem, decide_eq_false_iff_not] at hn
    exact hn
  rcases c.localName_cases with ⟨_, hl⟩ | ⟨_, hl⟩ | ⟨_, _, hl⟩
  · rw [hs, ← hl, Text.lastSegment_of_not_mem hdot]
  · rw [hs, hl, Text.lastSegment_append, Text.lastSegment_of_not_mem hdot]
  · exact hl

theorem isDottedName_localName {c : ClassDecl} (hs : isIdentifier c.simpleName = true)
    (hq : isDottedName c.qualifiedName = true) : isDottedName c.localName = true := by
  rcases c.localName_cases with ⟨_, hl⟩ | ⟨_, hl⟩ | ⟨_, _, hl⟩
  · rw [hl]
    exact hq
  · rw [hl, isDottedName_append, Bool.and_eq_true] at hq
    exact hq.2
  · rw [hl]
    exact isDottedName_of_isIdentifier hs

end ClassDecl

end AccessorGen
