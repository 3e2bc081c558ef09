import AccessorGen.Proofs.Schema.Described
import AccessorGen.Proofs.SourceText

/-!
# The comment above a type

The header comment goes behind two slashes, and what is read as a comment there ends with the line. So
its first line stands behind the slashes; the others stand in the source as they were given
(`Config.codeAbove`). The comment is all comment exactly if those lines declare nothing by themselves, and
always if there are none.

A line is what stands between two line ends in the characters of the source, and a carriage return ends
one as well as a line feed. Unicode escapes are not looked into: one that spells a line end is counted as
the six characters that it is written with.
-/

set_option autoImplicit false

namespace AccessorGen

open Text (OneLine)

namespace Java

/-- The lines of a source, ended by line feeds and carriage returns. A pair of both ends two lines, the
second of them empty. -/
def linesOf (s : String) : List String := (Text.lines s).flatMap (Text.cut '\r')

/-- Neither of the two is in the text. -/
def Unbroken (s : String) : Prop := OneLine s ∧ '\r' ∉ s.toList

instance (s : String) : Decidable (Unbroken s) := inferInstanceAs (Decidable (_ ∧ _))

variable {a b s : String}

theorem unbroken_append : Unbroken (a ++ b) ↔ Unbroken a ∧ Unbroken b := by
  simp only [Unbroken, Text.oneLine_append, String.toList_append, List.mem_append, not_or,
    and_and_and_comm]

theorem linesOf_of_unbroken (h : Unbroken s) : linesOf s = [s] := by
  rw [linesOf, Text.lines_of_oneLine h.1, List.flatMap_singleton, Text.cut_of_not_mem h.2]

theorem linesOf_ne_nil (s : String) : linesOf s ≠ [] := by
  intro h
  obtain ⟨l, ls, hs⟩ := List.exists_cons_of_ne_nil (Text.cut_ne_nil '\n' s)
  rw [linesOf, Text.lines, hs, List.flatMap_cons, List.append_eq_nil_iff] at h
  exact Text.cut_ne_nil '\r' l h.1

/-- What is in front of the text on its first line. -/
theorem linesOf_append_left (ha : Unbroken a) (b : String) :
    linesOf (a ++ b) = (linesOf b).modifyHead (a ++ ·) := by
  obtain ⟨l, ls, hb⟩ := List.exists_cons_of_ne_nil (Text.cut_ne_nil '\n' b)
  obtain ⟨part, parts, hl⟩ := List.exists_cons_of_ne_nil (Text.cut_ne_nil '\r' l)
  simp only [linesOf, Text.lines, Text.cut_append_left ha.1, hb, List.modifyHead_cons,
    List.flatMap_cons, Text.cut_append_left ha.2, hl, List.cons_append]

/-- The lines of a text that is whole lines in front of another one. -/
theorem linesOf_of_wholeLines {ls : List String} (h : Text.WholeLines a ls) (b : String) :
    linesOf (a ++ b) = ls.flatMap (Text.cut '\r') ++ linesOf b := by
  rw [linesOf, h, List.flatMap_append, linesOf]

end Java

open Java (Unbroken linesOf)

/-- What may stand above the type of a class and declares nothing: empty lines, the package, the annotation
and comments. -/
def ClassDecl.MayStandAbove (c : ClassDecl) (line : String) : Prop :=
  line = "" ∨ (c.packageName ≠ "" ∧ line = "package " ++ c.packageName ++ ";") ∨
    line = generatedMark ∨ Text.beginsWith "//" line = true

instance (c : ClassDecl) (line : String) : Decidable (c.MayStandAbove line) :=
  inferInstanceAs (Decidable (_ ∨ _ ∧ _ ∨ _ ∨ _))

theorem ClassDecl.Sound.unbroken_packageName {c : ClassDecl} (h : c.Sound) :
    Unbroken c.packageName := by
  by_cases hp : c.packageName = ""
  · rw [hp]
    decide
  · have hname := h.isDottedName_packageName hp
    refine ⟨not_mem_of_isDottedName hname (by decide) (by decide), fun hreturn => ?_⟩
    -- a carriage return is none of the characters that a line is taken apart at
    have hother : continuesIdentifier '\r' = false := by decide +kernel
    rcases continuesIdentifier_of_mem_isDottedName hname hreturn with hc | hc
    · exact absurd hc (by decide)
    · rw [hother] at hc
      exact Bool.noConfusion hc

namespace Config

variable {config : Config} {c : ClassDecl}

/-- The lines of the comment: slashes in front of the first one, and the others as they are given. -/
def commentLines (config : Config) : List String :=
  if config.headerComment = "" then [] else (linesOf config.headerComment).modifyHead ("// " ++ ·)

/-- The lines of the source above the type. -/
def codeAbove (config : Config) (c : ClassDecl) : List String :=
  (if c.packageName = "" then [] else ["package " ++ c.packageName ++ ";", ""]) ++
    config.commentLines ++ if config.markGenerated then [generatedMark] else []

/-- How a type is opened. -/
def opensWith (config : Config) : String :=
  if config.strategy.isCompanion then "public final class " else "public class "

theorem exists_typeHeader_eq (config : Config) (c : ClassDecl) :
    ∃ rest, config.typeHeader c = config.opensWith ++ rest := by
  rw [typeHeader_eq, openingLine, opensWith]
  cases config.strategy with
  | augment => exact ⟨_, by simp only [String.append_assoc]; rfl⟩
  | companion suffix => exact ⟨_, by simp only [String.append_assoc]; rfl⟩

/-- The preamble is what stands above the type, line by line. -/
theorem linesOf_preamble (hc : c.Sound) (rest : String) :
    linesOf (config.preamble c ++ rest) = config.codeAbove c ++ linesOf rest := by
  have hname := hc.unbroken_packageName
  have hline : Unbroken ("package " ++ c.packageName ++ ";") :=
    Java.unbroken_append.mpr ⟨Java.unbroken_append.mpr ⟨by decide, hname⟩, by decide⟩
  have hempty : Text.cut '\r' "" = [""] := rfl
  have hpackage : (if c.packageName = "" then [] else
      ["package " ++ c.packageName ++ ";", ""]).flatMap (Text.cut '\r') =
        if c.packageName = "" then [] else ["package " ++ c.packageName ++ ";", ""] := by
    split
    · rfl
    · rw [List.flatMap_cons, List.flatMap_singleton, Text.cut_of_not_mem hline.2, hempty]
      rfl
  have hcomment : (if config.headerComment = "" then [] else
      Text.lines ("// " ++ config.headerComment)).flatMap (Text.cut '\r') = config.commentLines := by
    rw [commentLines]
    split
    · rfl
    · exact Java.linesOf_append_left (by decide) config.headerComment
  have hmark : (if config.markGenerated then [generatedMark] else []).flatMap (Text.cut '\r') =
      if config.markGenerated then [generatedMark] else [] := by
    split
    · rfl
    · rfl
  rw [Java.linesOf_of_wholeLines (wholeLines_preamble_of_oneLine config hname.1), List.flatMap_append,
    List.flatMap_append, hpackage, hcomment, hmark, codeAbove]

/-- Behind what stands above it, the type is opened. -/
theorem exists_linesOf_source (hc : c.Sound) {u : SourceUnit}
    (h : config.classUnit c = .ok (some u)) :
    ∃ opening below, linesOf u.source = config.codeAbove c ++ opening :: below ∧
      Text.beginsWith config.opensWith opening = true := by
  have hopens : Unbroken config.opensWith := by
    rw [opensWith]
    split
    · decide
    · decide
  obtain ⟨rest, hrest⟩ := config.exists_typeHeader_eq c
  obtain ⟨text, htext⟩ : ∃ text, u.source = config.preamble c ++ (config.opensWith ++ text) := by
    rw [source_of_classUnit h, render, hrest]
    simp only [String.append_assoc]
    exact ⟨_, rfl⟩
  obtain ⟨first, below, hlines⟩ := List.exists_cons_of_ne_nil (Java.linesOf_ne_nil text)
  refine ⟨config.opensWith ++ first, below, ?_, ?_⟩
  · rw [htext, linesOf_preamble hc, Java.linesOf_append_left hopens, hlines, List.modifyHead_cons]
  · rw [Text.beginsWith, String.toList_append]
    simp

/-- Only the lines of the comment behind its first one can declare anything. -/
theorem mayStandAbove_codeAbove_iff (config : Config) (c : ClassDecl) :
    (∀ l ∈ config.codeAbove c, c.MayStandAbove l) ↔
      ∀ l ∈ (linesOf config.headerComment).tail, c.MayStandAbove l := by
  have hpackage : ∀ l ∈ (if c.packageName = "" then [] else
      ["package " ++ c.packageName ++ ";", ""]), c.MayStandAbove l := by
    intro l hl
    split at hl
    · exact absurd hl List.not_mem_nil
    · next hp =>
      simp only [List.mem_cons, List.not_mem_nil, or_false] at hl
      rcases hl with rfl | rfl
      · exact Or.inr (Or.inl ⟨hp, rfl⟩)
      · exact Or.inl rfl
  have hmark : ∀ l ∈ (if config.markGenerated then [generatedMark] else []), c.MayStandAbove l := by
    intro l hl
    split at hl
    · exact Or.inr (Or.inr (Or.inl (List.mem_singleton.mp hl)))
    · exact absurd hl List.not_mem_nil
  have hcomment : (∀ l ∈ config.commentLines, c.MayStandAbove l) ↔
      ∀ l ∈ (linesOf config.headerComment).tail, c.MayStandAbove l := by
    rw [commentLines]
    split
    · next he =>
      rw [he, Java.linesOf_of_unbroken (by decide)]
      simp
    · obtain ⟨first, rest, hs⟩ := List.exists_cons_of_ne_nil (Java.linesOf_ne_nil config.headerComment)
      have hfirst : c.MayStandAbove ("// " ++ first) :=
        Or.inr (Or.inr (Or.inr (by simp [Text.beginsWith])))
      rw [hs, List.modifyHead_cons, List.forall_mem_cons, List.tail_cons]
      exact and_iff_right hfirst
  rw [codeAbove, List.forall_mem_append, List.forall_mem_append, ← hcomment]
  exact ⟨fun h => h.1.2, fun h => ⟨⟨hpackage, h⟩, hmark⟩⟩

/-- **When the header comment is all comment.** The lines above a type are the package, the comment and the
annotation, and the type is opened behind them; nothing else is declared there exactly if the comment has no
line but its first that declares anything. That is so of every comment without a line feed and a carriage
return. -/
theorem header_comment_iff {schemas : List Schema} {classes : List ClassDecl}
    (hd : describeAll schemas = .ok classes) (hc : c ∈ classes) {u : SourceUnit}
    (h : config.classUnit c = .ok (some u)) :
    (∃ opening below, linesOf u.source = config.codeAbove c ++ opening :: below ∧
      Text.beginsWith config.opensWith opening = true) ∧
    ((∀ l ∈ config.codeAbove c, c.MayStandAbove l) ↔
      ∀ l ∈ (linesOf config.headerComment).tail, c.MayStandAbove l) ∧
    (Unbroken config.headerComment → ∀ l ∈ config.codeAbove c, c.MayStandAbove l) := by
  have hsound := (sound_of_describeAll hd).1 c hc
  refine ⟨exists_linesOf_source hsound h, mayStandAbove_codeAbove_iff config c, fun hline => ?_⟩
  rw [mayStandAbove_codeAbove_iff, Java.linesOf_of_unbroken hline]
  simp

/-- One class that asks for its string form. -/
def porchSchemas : List Schema := [{ classes := [{ name := "home.Porch", markers := ["ToString"] }] }]

def porch : ClassDecl := { ClassDecl.ofName "home.Porch" with markers := .ofList [.stringForm] }

theorem describeAll_porchSchemas : describeAll porchSchemas = .ok [porch] := by
  unfold describeAll
  exact if_pos (by decide +kernel)

def commented (text : String) : Config := { headerComment := text }

theorem header_comment_porch :
    (∃ u, (commented "Generated.").classUnit porch = .ok (some u)) ∧
      ∀ l ∈ (commented "Generated.").codeAbove porch, porch.MayStandAbove l := by
  have h : (commented "Generated.").classUnit porch =
      .ok (some ((commented "Generated.").unitOf porch)) := by decide +kernel
  exact ⟨⟨_, h⟩, (header_comment_iff describeAll_porchSchemas List.mem_cons_self h).2.2 (by decide)⟩

/-- The second line of a comment is code, here an import. -/
theorem comment_imports_porch :
    describeAll porchSchemas = .ok [porch] ∧
      (∃ u, (commented "Generated.\nimport java.util.List;").classUnit porch = .ok (some u) ∧
        ∃ opening below,
          linesOf u.source = "package home;" :: "" :: "// Generated." :: "import java.util.List;" ::
            opening :: below ∧
          Text.beginsWith "public class " opening = true) ∧
      ¬porch.MayStandAbove "import java.util.List;" := by
  have hunit : (commented "Generated.\nimport java.util.List;").classUnit porch =
      .ok (some ((commented "Generated.\nimport java.util.List;").unitOf porch)) := by decide +kernel
  have habove : (commented "Generated.\nimport java.util.List;").codeAbove porch =
      ["package home;", "", "// Generated.", "import java.util.List;"] := by decide +kernel
  have hsound : porch.Sound := (sound_of_describeAll describeAll_porchSchemas).1 _ List.mem_cons_self
  obtain ⟨opening, below, hlines, hopening⟩ := exists_linesOf_source hsound hunit
  rw [habove] at hlines
  exact ⟨describeAll_porchSchemas, ⟨_, hunit, opening, below, hlines, hopening⟩, by decide +kernel⟩

end Config

end AccessorGen
