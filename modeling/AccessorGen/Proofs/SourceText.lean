import AccessorGen.Proofs.Member.OneLine

/-!
# The text of a unit

What a unit looks like from outside: its lines, read without knowing the class they were made from. The
first line with something public on it opens the type, the last one closes it, and empty lines part what
stands between (`SourceOutline.ofSource?`). Where no string of the configuration and the class has a line
feed in it, the reading gives back what was put together: every member is a block of lines of which none
is empty, and nothing above the type is public.
-/

set_option autoImplicit false

namespace AccessorGen

open Text (OneLine)

namespace SourceOutline

end SourceOutline

namespace Config

variable {config : Config} {c : ClassDecl}

/-- The line that opens a type of that name. -/
def openingLine (config : Config) (c : ClassDecl) (name : String) : String :=
  match config.strategy with
  | .augment =>
    "public class " ++ name ++
      (c.superclass.elim "" fun type => " extends " ++ type) ++
      (if c.interfaces = [] then "" else " implements " ++ String.intercalate ", " c.interfaces) ++
      " \x7b"
  | .companion _ => "public final class " ++ name ++ " \x7b"

/-- What stands in a type of that name before its members: the declared fields, one on each line, or the
private constructor. -/
def blocksBefore (config : Config) (c : ClassDecl) (name : String) : List (List String) :=
  match config.strategy with
  | .augment => if c.fields = [] then [] else [c.fields.map fun f => config.indent ++ f.text]
  | .companion _ =>
    [[config.indent ++ "private " ++ name ++ "() \x7b", config.indent ++ "\x7d"]]

/-- What stands above a type is whole lines, also where the comment is more than one. -/
theorem wholeLines_preamble_of_oneLine (config : Config) (hp : OneLine c.packageName) :
    Text.WholeLines (config.preamble c)
      ((if c.packageName = "" then [] else ["package " ++ c.packageName ++ ";", ""]) ++
        (if config.headerComment = "" then [] else Text.lines ("// " ++ config.headerComment)) ++
          if config.markGenerated then [generatedMark] else []) := by
  have hpackage : Text.WholeLines ("package " ++ c.packageName ++ ";\n\n")
      ["package " ++ c.packageName ++ ";", ""] := by
    have hbreak : "package " ++ c.packageName ++ ";\n\n" =
        "package " ++ c.packageName ++ ";" ++ "\n" ++ ("" ++ "\n") := by
      simp only [String.append_assoc]
      rfl
    have hline : OneLine ("package " ++ c.packageName ++ ";") := by simp +decide [hp]
    rw [hbreak]
    exact (Text.wholeLines_of_oneLine hline).append (Text.wholeLines_of_oneLine (by decide))
  have hmark : OneLine generatedMark := by decide
  exact ((Text.wholeLines_empty.ite hpackage _).append
    (Text.wholeLines_empty.ite (Text.wholeLines_lines _) _)).append
      ((Text.wholeLines_of_oneLine hmark).ite Text.wholeLines_empty _)

theorem typeHeader_eq (config : Config) (c : ClassDecl) :
    config.typeHeader c = config.openingLine c (config.strategy.unitSimpleName c) := by
  rw [typeHeader, openingLine]
  cases hs : config.strategy with
  | augment =>
    cases c.superclass <;> cases hi : c.interfaces <;> rfl
  | companion suffix => rfl

theorem source_of_classUnit {u : SourceUnit} (h : config.classUnit c = .ok (some u)) :
    u.source = config.render c u.members := by
  rw [(eq_of_composeUnit (composeUnit_of_classUnit h)).1]

/-- What stands above the sections ends the line, and the closing brace has a line of its own. -/
theorem lines_render (config : Config) (c : ClassDecl) (ms : List Member) :
    Text.lines (config.render c ms) =
      Text.lines (config.preamble c ++ config.typeHeader c) ++
        (Text.lines (String.intercalate "\n\n" (config.leadingSections c ++ ms.map (·.text))) ++
          ["\x7d", ""]) := by
  have hclose : ∀ body : String, body ++ "\n\x7d\n" = body ++ "\n" ++ ("\x7d" ++ "\n" ++ "") := by
    intro body
    rw [String.append_assoc]
    rfl
  rw [render, hclose, Text.lines_append, Text.lines_append, Text.lines_append, List.append_assoc]
  rfl

/-- What the text of a unit is to be cut into: what stands before its members, and the lines of each. -/
def blocks (config : Config) (c : ClassDecl) (u : SourceUnit) : List (List String) :=
  config.blocksBefore c u.name.simpleName ++ u.members.map fun m => Text.lines m.text

end Config

/-- A nested class, for which a companion is written. -/
def depotGate : ClassDecl :=
  { qualifiedName := "demo.Depot.Gate"
    simpleName := "Gate"
    package := some "demo"
    fields := [{ name := "width", type := "int", modifiers := [] }]
    markers := .ofList [.getter] }

theorem noLineFeed_depotGate : depotGate.NoLineFeed := by
  have hfields : ∀ f ∈ depotGate.fields, f.NoLineFeed := by
    intro f hf
    rw [List.mem_singleton.mp hf]
    exact ⟨by decide, by decide, by simp, by simp⟩
  exact ⟨by decide, by decide, fun package hp => by cases hp; decide, by simp [depotGate],
    by simp [depotGate], hfields⟩

end AccessorGen
