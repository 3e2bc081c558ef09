import AccessorGen.Java.Method
import AccessorGen.Proofs.Naming

/-!
# Lines of text and of code

A text is its lines with a line feed between each two, and a text in paragraphs has an empty line between
each two of them. Both joins are undone by splitting, the first wherever the parts have no line feed in
them and the second wherever no part has an empty line.

A generated method meets both conditions under the first one alone: if the texts that it is made of have
no line feed, none of its lines is empty (`Java.Method.isLine_of_mem_lines`), because each begins or ends
in punctuation of its own.
-/

set_option autoImplicit false

namespace AccessorGen

namespace Text

/-- The text stands on one line: there is no line feed in it. -/
def OneLine (s : String) : Prop := '\n' ∉ s.toList

instance (s : String) : Decidable (OneLine s) := inferInstanceAs (Decidable ('\n' ∉ s.toList))

/-- The lines of the text. There is at least one; a line feed at the end leaves an empty one behind it. -/
def lines (s : String) : List String := cut '\n' s

/-- Whether the text begins with this word. -/
def beginsWith (word s : String) : Bool := word.toList.isPrefixOf s.toList

/-- The text is a line, and there is something on it. -/
structure IsLine (s : String) : Prop where
  ne_empty : s ≠ ""
  oneLine : OneLine s

variable {a b s : String}

@[simp] theorem oneLine_append : OneLine (a ++ b) ↔ OneLine a ∧ OneLine b := by
  rw [OneLine, String.toList_append, List.mem_append, not_or]
  rfl

theorem oneLine_intercalate {separator : String} (hs : OneLine separator) {texts : List String}
    (h : ∀ t ∈ texts, OneLine t) : OneLine (String.intercalate separator texts) := by
  induction texts with
  | nil => exact List.not_mem_nil
  | cons t rest ih =>
    cases rest with
    | nil =>
      rw [String.intercalate_singleton]
      exact h t List.mem_cons_self
    | cons t' rest =>
      rw [String.intercalate_cons_of_ne_nil (by simp), oneLine_append, oneLine_append]
      exact ⟨⟨h t List.mem_cons_self, hs⟩, ih fun t ht => h t (List.mem_cons_of_mem _ ht)⟩

theorem oneLine_join {texts : List String} (h : ∀ t ∈ texts, OneLine t) :
    OneLine (String.join texts) := by
  rw [OneLine, String.toList_join, List.mem_flatMap]
  intro hmem
  obtain ⟨t, ht, hfeed⟩ := hmem
  exact h t ht hfeed

theorem IsLine.append (ha : IsLine a) (hb : OneLine b) : IsLine (a ++ b) :=
  ⟨fun h => ha.ne_empty (String.append_eq_empty_iff.mp h).1, oneLine_append.mpr ⟨ha.oneLine, hb⟩⟩

theorem IsLine.append_left (hb : IsLine b) (ha : OneLine a) : IsLine (a ++ b) :=
  ⟨fun h => hb.ne_empty (String.append_eq_empty_iff.mp h).2, oneLine_append.mpr ⟨ha, hb.oneLine⟩⟩

theorem lines_append (a b : String) : lines (a ++ "\n" ++ b) = lines a ++ lines b := cut_append rfl a b

theorem lines_of_oneLine (h : OneLine s) : lines s = [s] := cut_of_not_mem h

/-- The text is these lines, each ended by a line feed, whatever follows. -/
def WholeLines (front : String) (ls : List String) : Prop :=
  ∀ rest, lines (front ++ rest) = ls ++ lines rest

theorem wholeLines_empty : WholeLines "" [] := by
  intro rest
  rw [String.empty_append, List.nil_append]

theorem wholeLines_lines (s : String) : WholeLines (s ++ "\n") (lines s) := lines_append s

theorem wholeLines_of_oneLine (h : OneLine s) : WholeLines (s ++ "\n") [s] := by
  rw [← lines_of_oneLine h]
  exact wholeLines_lines s

theorem WholeLines.append {ls ks : List String} (ha : WholeLines a ls) (hb : WholeLines b ks) :
    WholeLines (a ++ b) (ls ++ ks) := by
  intro rest
  rw [String.append_assoc, ha, hb, List.append_assoc]

theorem WholeLines.ite {ls ks : List String} (ha : WholeLines a ls) (hb : WholeLines b ks) (p : Prop)
    [Decidable p] : WholeLines (if p then a else b) (if p then ls else ks) := by
  split
  · exact ha
  · exact hb

theorem lines_intercalate {ls : List String} (hne : ls ≠ []) (h : ∀ l ∈ ls, OneLine l) :
    lines (String.intercalate "\n" ls) = ls := cut_intercalate rfl hne h

theorem lines_intercalate_paragraphs {texts : List String} (hne : texts ≠ []) :
    lines (String.intercalate "\n\n" texts) = List.intercalate [""] (texts.map lines) := by
  induction texts with
  | nil => exact absurd rfl hne
  | cons t rest ih =>
    cases rest with
    | nil => rw [String.intercalate_singleton, List.map_singleton, List.intercalate_singleton]
    | cons t' rest =>
      have hbreak : t ++ "\n\n" = t ++ "\n" ++ "" ++ "\n" := by
        rw [String.append_empty, String.append_assoc]
        rfl
      rw [String.intercalate_cons_of_ne_nil (by simp), hbreak, lines_append, lines_append,
        ih (by simp)]
      simp only [List.map_cons, List.intercalate_cons_cons]
      rfl

end Text

/-! ## Lines of code -/

namespace Java

open Text (OneLine IsLine)

/-- There is no line feed in what the statement is made of. -/
def Statement.NoLineFeed : Statement → Prop
  | .declareNew type name => OneLine type ∧ OneLine name
  | .assign object field value => OneLine object ∧ OneLine field ∧ OneLine value
  | .returnVariable name => OneLine name
  | .returnField object field => OneLine object ∧ OneLine field
  | .startString text | .appendText text => OneLine text
  | .appendField label object field _ =>
    OneLine label ∧ OneLine object ∧ OneLine field
  | .returnString => True

/-- **A statement is a line.** -/
theorem Statement.isLine_text {s : Statement} (h : s.NoLineFeed) : IsLine s.text := by
  have hclosed : ∀ {front ending : String}, ending ≠ "" → OneLine (front ++ ending) →
      IsLine (front ++ ending) := fun hne ho =>
    ⟨fun he => hne (String.append_eq_empty_iff.mp he).2, ho⟩
  cases s with
  | declareNew type name =>
    show IsLine (type ++ " " ++ name ++ " = new " ++ type ++ "();")
    exact hclosed (by simp) (by simp +decide [h.1, h.2])
  | assign object field value =>
    show IsLine (object ++ "." ++ field ++ " = " ++ value ++ ";")
    exact hclosed (by simp) (by simp +decide [h.1, h.2.1, h.2.2])
  | returnVariable name =>
    show IsLine ("return " ++ name ++ ";")
    exact hclosed (by simp) (by simp +decide [show OneLine name from h])
  | returnField object field =>
    show IsLine ("return " ++ object ++ "." ++ field ++ ";")
    exact hclosed (by simp) (by simp +decide [h.1, h.2])
  | startString text =>
    show IsLine ("StringBuilder sb = new StringBuilder(\"" ++ text ++ "\");")
    exact hclosed (by simp) (by simp +decide [show OneLine text from h])
  | appendText text =>
    show IsLine ("sb.append(\"" ++ text ++ "\");")
    exact hclosed (by simp) (by simp +decide [show OneLine text from h])
  | appendField label object field asObject =>
    show IsLine ("sb.append(\"" ++ label ++ "\").append(String.valueOf(" ++
      (if asObject then "(Object) " else "") ++ object ++ "." ++ field ++ "));")
    refine hclosed (by simp) ?_
    cases asObject <;> simp +decide [h.1, h.2.1, h.2.2]
  | returnString => exact ⟨by decide, by decide⟩

/-- There is no line feed in what the method is made of. -/
structure Method.NoLineFeed (m : Method) : Prop where
  summary : OneLine m.summary
  returnType : OneLine m.returnType
  name : OneLine m.name
  parameters : ∀ p ∈ m.parameters, OneLine p.text
  body : ∀ s ∈ m.body, s.NoLineFeed

namespace Method

variable {m : Method}

theorem isLine_stackedLines {ps : List Parameter} (h : ∀ p ∈ ps, OneLine p.text) :
    ∀ l ∈ stackedLines ps, IsLine l.text := by
  induction ps with
  | nil => exact fun l hl => absurd hl List.not_mem_nil
  | cons p rest ih =>
    have hp : OneLine p.text := h p List.mem_cons_self
    cases rest with
    | nil =>
      intro l hl
      rw [List.mem_singleton.mp hl]
      exact IsLine.append_left ⟨by decide, by decide⟩ hp
    | cons p' rest =>
      intro l hl
      rcases List.mem_cons.mp hl with rfl | hl
      · exact IsLine.append_left ⟨by decide, by decide⟩ hp
      · exact ih (fun p hp => h p (List.mem_cons_of_mem _ hp)) l hl

theorem NoLineFeed.isLine_opening (hm : m.NoLineFeed) : IsLine m.opening := by
  refine IsLine.append_left ⟨by decide, by decide⟩ ?_
  cases hs : m.isStatic <;> simp +decide [hm.returnType, hm.name]

theorem NoLineFeed.isLine_signature (hm : m.NoLineFeed) : ∀ l ∈ m.signature, IsLine l.text := by
  by_cases h : m.layout = .inline ∨ m.parameters = []
  · rw [signature_inline h]
    intro l hl
    rw [List.mem_singleton.mp hl]
    refine (hm.isLine_opening.append ?_).append (by decide)
    apply Text.oneLine_intercalate (by decide)
    intro text htext
    obtain ⟨p, hp, rfl⟩ := List.mem_map.mp htext
    exact hm.parameters p hp
  · rw [not_or] at h
    have hl : m.layout = .stacked := by
      cases hl : m.layout with
      | inline => exact absurd hl h.1
      | stacked => rfl
    rw [signature_stacked hl h.2]
    intro l hl
    rcases List.mem_cons.mp hl with rfl | hl
    · exact hm.isLine_opening
    · exact isLine_stackedLines hm.parameters l hl

/-- **No line of a method is empty, and none is more than one.** -/
theorem NoLineFeed.isLine_of_mem_lines (hm : m.NoLineFeed) {documented : Bool} {l : Line}
    (hl : l ∈ m.lines documented) : IsLine l.text := by
  rw [lines, code] at hl
  simp only [List.mem_append] at hl
  rcases hl with hdoc | ((hoverride | hsignature) | hbody) | hclose
  · cases documented with
    | false => exact absurd hdoc List.not_mem_nil
    | true =>
      simp only [if_true, javadoc, List.mem_cons, List.not_mem_nil, or_false] at hdoc
      rcases hdoc with rfl | rfl | rfl
      · exact ⟨by decide, by decide⟩
      · exact IsLine.append ⟨by decide, by decide⟩ hm.summary
      · exact ⟨by decide, by decide⟩
  · cases hm' : m.isOverride with
    | false =>
      rw [hm'] at hoverride
      exact absurd hoverride List.not_mem_nil
    | true =>
      rw [hm'] at hoverride
      rw [List.mem_singleton.mp hoverride]
      exact ⟨by decide, by decide⟩
  · exact hm.isLine_signature l hsignature
  · obtain ⟨s, hs, rfl⟩ := List.mem_map.mp hbody
    exact Statement.isLine_text (hm.body s hs)
  · rw [List.mem_singleton.mp hclose]
    exact ⟨by decide, by decide⟩

theorem isLine_render {indent : String} (hi : OneLine indent) {l : Line} (hl : IsLine l.text) :
    IsLine (l.render indent) := by
  apply hl.append_left
  apply Text.oneLine_join
  intro text htext
  rw [List.eq_of_mem_replicate htext]
  exact hi

/-- The lines of the text of a method are those of the method, indented. -/
theorem NoLineFeed.lines_render (hm : m.NoLineFeed) {indent : String} (hi : OneLine indent)
    (documented : Bool) :
    Text.lines (m.render indent documented) =
      (m.lines documented).map (·.render indent) := by
  apply Text.lines_intercalate
  · simp [lines, code]
  · intro text htext
    obtain ⟨l, hl, rfl⟩ := List.mem_map.mp htext
    exact (isLine_render hi (hm.isLine_of_mem_lines hl)).oneLine

end Method

end Java

end AccessorGen
