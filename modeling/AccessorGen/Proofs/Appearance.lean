import AccessorGen.Proofs.Member.Listed
import AccessorGen.Proofs.Member.Strategies
import AccessorGen.Proofs.RoundOutcome
import AccessorGen.Proofs.SourceText

/-!
# Settings of appearance

Indentation, documentation, annotation and comment are for the eye. Two configurations that agree on the
strategy and on the name of the factory make the same of every round: the same error, or units of the same
names with the same members, member by member the same but for the text (`endAlike_classUnit`,
`endAlike_roundUnits`).

What two of these settings do to the text can be said by itself. Without documentation each member lacks
the three lines in front of it, and without the annotation its line is missing; all other lines are the
same and stand in the same order.
-/

set_option autoImplicit false

namespace AccessorGen

open Text (OneLine)

namespace SourceUnit

/-- The units have one name and the same members, if what these look like is left aside. -/
structure LikeBut (u v : SourceUnit) : Prop where
  name : u.name = v.name
  members : u.members.map (·.entry) = v.members.map (·.entry)

/-- The three lines of a documentation block in a unit. -/
def javadocLines (indent summary : String) : List String :=
  [indent ++ "/**", indent ++ " * " ++ summary, indent ++ " */"]

/-- The first unit is the second with a documentation block in front of each member, and has the same lines
everywhere else. -/
structure Documents (indent : String) (u v : SourceUnit) : Prop where
  name : u.name = v.name
  members : List.Forall₂ (fun m n => m.entry = n.entry ∧
    ∃ summary, Text.lines m.text = javadocLines indent summary ++ Text.lines n.text) u.members v.members
  source : ∃ (above : List String) (blocks : List (List String)),
    Text.lines u.source = above ++ List.intercalate [""]
      (blocks ++ u.members.map fun m => Text.lines m.text) ++ ["\x7d", ""] ∧
    Text.lines v.source = above ++ List.intercalate [""]
      (blocks ++ v.members.map fun m => Text.lines m.text) ++ ["\x7d", ""]

/-- The first unit is the second with the line of the annotation put in. -/
structure Annotates (u v : SourceUnit) : Prop where
  name : u.name = v.name
  members : u.members = v.members
  source : ∃ above below : List String,
    Text.lines u.source = above ++ generatedMark :: below ∧ Text.lines v.source = above ++ below

end SourceUnit

namespace Config

variable {config other : Config} {c : ClassDecl} {R : SourceUnit → SourceUnit → Prop}

/-! ## The same outcome -/

/-- The factory has its name from the configuration, and no other member has. -/
theorem name_method (hfactory : other.factoryName = config.factoryName) (c : ClassDecl) (r : Request) :
    (other.method c r).name = (config.method c r).name := by
  cases r with
  | constructor fields => exact hfactory
  | read f | write f | stringify fields => rfl

/-- **A class fails alike under two configurations, or its units compare as the two composed ones do.** -/
theorem endAlike_classUnit (hstrategy : other.strategy = config.strategy)
    (hfactory : other.factoryName = config.factoryName) (c : ClassDecl)
    (h : c.requests ≠ [] → R (config.unitOf c) (other.unitOf c)) :
    EndAlike (Option.Rel R) (config.classUnit c) (other.classUnit c) := by
  have hhides : other.hides = config.hides := by
    funext f
    rw [hides, hides, hstrategy]
  -- every error is found before the text is looked at
  rw [classUnit_eq, classUnit_eq, hhides]
  cases c.touchedFields.find? config.hides with
  | some f => exact .failed _
  | none =>
    rw [Option.elim_none, Option.elim_none]
    by_cases hne : c.requests = []
    · rw [hne]
      exact .gave .none
    · rw [composeUnit_members hne, composeUnit_members hne, hstrategy]
      split
      · exact .failed _
      · cases repeatedRequest? c with
        | some r =>
          dsimp only
          rw [name_method hfactory]
          exact .failed _
        | none => exact .gave (.some (h hne))

theorem endAlike_generateNext (hname : ∀ u v, R u v → u.name = v.name)
    (h : EndAlike (Option.Rel R) (config.classUnit c) (other.classUnit c)) (taken : List UnitName) :
    EndAlike (Option.Rel R) (config.generateNext taken c) (other.generateNext taken c) := by
  refine h.bind fun unit unit' hunit => ?_
  cases hunit with
  | none => exact .gave .none
  | @some u v huv =>
    have hsame := hname u v huv
    dsimp only
    rw [SourceUnit.qualifiedName, SourceUnit.qualifiedName, hsame]
    split
    · exact .failed _
    · exact .gave (.some huv)

/-- What holds of the units of each class holds of the units of a round, since a round looks at nothing
but their names. -/
theorem endAlike_generateFrom (hname : ∀ u v, R u v → u.name = v.name) {classes : List ClassDecl}
    (h : ∀ c ∈ classes, EndAlike (Option.Rel R) (config.classUnit c) (other.classUnit c))
    (taken : List UnitName) :
    EndAlike (List.Forall₂ R) (config.generateFrom taken classes) (other.generateFrom taken classes) := by
  induction classes generalizing taken with
  | nil => exact .gave .nil
  | cons c rest ih =>
    have hrest := ih fun d hd => h d (List.mem_cons_of_mem c hd)
    have hnext := endAlike_generateNext hname (h c List.mem_cons_self) taken
    refine hnext.bind fun unit unit' hunit => ?_
    cases hunit with
    | none => exact (hrest taken).bind fun us vs hunits => .gave hunits
    | @some u v huv =>
      rw [takenAfter, takenAfter, hname u v huv]
      exact (hrest _).bind fun us vs hunits => .gave (.cons huv hunits)

theorem endAlike_roundUnits (hname : ∀ u v, R u v → u.name = v.name) {classes : List ClassDecl}
    (h : ∀ c ∈ classes, EndAlike (Option.Rel R) (config.classUnit c) (other.classUnit c)) :
    EndAlike (List.Forall₂ R) (config.roundUnits classes) (other.roundUnits classes) :=
  endAlike_generateFrom hname h []

/-! ## The same members -/

/-- The members of both units come from the requests in one order. -/
theorem forall₂_members_unitOf (config other : Config) (c : ClassDecl) {S : Member → Member → Prop}
    (h : ∀ r ∈ c.requests, S (config.member c r) (other.member c r)) :
    List.Forall₂ S (config.unitOf c).members (other.unitOf c).members := by
  show List.Forall₂ S (Member.arrange _) (Member.arrange _)
  rw [arrange_members config config, arrange_members other config, List.forall₂_map_left_iff,
    List.forall₂_map_right_iff, List.forall₂_same]
  exact fun r hr => h r (List.mem_mergeSort.mp hr)

theorem entry_member_eq (hfactory : other.factoryName = config.factoryName) (c : ClassDecl)
    (r : Request) : (config.member c r).entry = (other.member c r).entry := by
  rw [entry_member, entry_member, name_method hfactory]

theorem likeBut_unitOf (hstrategy : other.strategy = config.strategy)
    (hfactory : other.factoryName = config.factoryName) (c : ClassDecl) :
    (config.unitOf c).LikeBut (other.unitOf c) := by
  constructor
  · show c.unitName config.strategy = c.unitName other.strategy
    rw [hstrategy]
  · exact map_eq_map_of_forall₂
      (forall₂_members_unitOf config other c fun r _ => entry_member_eq hfactory c r) fun _ _ h => h

/-! ## The text -/

theorem members_unitOf_ne_nil (config : Config) (hne : c.requests ≠ []) :
    (config.unitOf c).members ≠ [] := by
  simp [unitOf, Member.arrange, ← List.length_pos_iff, List.length_pos_iff.mpr hne]

/-- The lines of a unit, with an empty line between each two of its sections. -/
theorem lines_source_unitOf (config : Config) (hne : c.requests ≠ []) :
    Text.lines (config.unitOf c).source =
      Text.lines (config.preamble c ++ config.typeHeader c) ++ List.intercalate [""]
        ((config.leadingSections c).map Text.lines ++
          (config.unitOf c).members.map fun m => Text.lines m.text) ++ ["\x7d", ""] := by
  have hsections : config.leadingSections c ++ (config.unitOf c).members.map (·.text) ≠ [] := by
    simp [members_unitOf_ne_nil config hne]
  show Text.lines (config.render c (config.unitOf c).members) = _
  rw [lines_render, Text.lines_intercalate_paragraphs hsections, List.map_append, List.map_map,
    List.append_assoc]
  rfl

/-- A member of one-line strings is the undocumented one behind a block of three lines. -/
theorem lines_member_documented (hconfig : config.NoLineFeed) (hc : c.NoLineFeed) {r : Request}
    (hr : r ∈ c.requests) :
    Text.lines (({ config with emitJavadoc := true } : Config).member c r).text =
      SourceUnit.javadocLines config.indent (config.method c r).summary ++
        Text.lines (({ config with emitJavadoc := false } : Config).member c r).text := by
  have htext : ∀ documented, (({ config with emitJavadoc := documented } : Config).member c r).text =
      (config.method c r).render config.indent documented := by
    intro documented
    cases r <;> rfl
  have hmethod := noLineFeed_method hconfig hc hr
  rw [htext, htext, hmethod.lines_render hconfig.indent, hmethod.lines_render hconfig.indent]
  simp [Java.Method.lines, Java.Method.javadoc, Java.Line.render, SourceUnit.javadocLines,
    String.append_assoc]

theorem documents_unitOf (hconfig : config.NoLineFeed) (hc : c.NoLineFeed) (hne : c.requests ≠ []) :
    (({ config with emitJavadoc := true } : Config).unitOf c).Documents config.indent
      (({ config with emitJavadoc := false } : Config).unitOf c) where
  name := rfl
  members := by
    apply forall₂_members_unitOf
    intro r hr
    exact ⟨entry_member_eq rfl c r, _, lines_member_documented hconfig hc hr⟩
  source := ⟨_, _, lines_source_unitOf _ hne, lines_source_unitOf _ hne⟩

/-- The package and the comment end their lines, whatever they hold; the annotation is the line behind
them. -/
theorem exists_lines_preamble (config : Config) (c : ClassDecl) :
    ∃ above : List String, ∀ marked rest,
      Text.lines (({ config with markGenerated := marked } : Config).preamble c ++ rest) =
        above ++ (if marked then [generatedMark] else []) ++ Text.lines rest := by
  have hbreak : "package " ++ c.packageName ++ ";\n\n" =
      "package " ++ c.packageName ++ ";\n" ++ "\n" := by
    simp only [String.append_assoc]
    rfl
  have hpackage := Text.wholeLines_lines ("package " ++ c.packageName ++ ";\n")
  have hcomment := Text.wholeLines_lines ("// " ++ config.headerComment)
  have hmark : Text.WholeLines (generatedMark ++ "\n") [generatedMark] :=
    Text.wholeLines_of_oneLine (by decide)
  rw [← hbreak] at hpackage
  exact ⟨_, fun marked => ((Text.wholeLines_empty.ite hpackage (c.packageName = "")).append
    (Text.wholeLines_empty.ite hcomment (config.headerComment = ""))).append
      (hmark.ite Text.wholeLines_empty (marked = true))⟩

theorem annotates_unitOf (config : Config) (hne : c.requests ≠ []) :
    (({ config with markGenerated := true } : Config).unitOf c).Annotates
      (({ config with markGenerated := false } : Config).unitOf c) := by
  have hmember : ({ config with markGenerated := true } : Config).member c =
      ({ config with markGenerated := false } : Config).member c := by
    funext r
    cases r <;> rfl
  have hmembers : (({ config with markGenerated := true } : Config).unitOf c).members =
      (({ config with markGenerated := false } : Config).unitOf c).members := by
    rw [unitOf, unitOf, hmember]
  refine ⟨rfl, hmembers, ?_⟩
  obtain ⟨above, habove⟩ := exists_lines_preamble config c
  refine ⟨above, Text.lines (config.typeHeader c) ++ List.intercalate [""]
    ((config.leadingSections c).map Text.lines ++
      (({ config with markGenerated := false } : Config).unitOf c).members.map
        fun m => Text.lines m.text) ++ ["\x7d", ""], ?_, ?_⟩
  · rw [lines_source_unitOf _ hne, habove, hmembers]
    simp only [if_true, List.append_assoc, List.singleton_append]
    rfl
  · rw [lines_source_unitOf _ hne, habove]
    simp only [Bool.false_eq_true, if_false, List.append_nil, List.append_assoc]
    rfl

/-- **Settings of appearance change nothing but the appearance.** Under any two configurations of one
strategy and one name for the factory a round fails with the same error or gives units of the same names
with the same members. Without documentation each member lacks its three lines and nothing else, and
without the annotation the sources lack its line and nothing else. -/
theorem roundUnits_appearance (config : Config) (classes : List ClassDecl) :
    (∀ other : Config, other.strategy = config.strategy → other.factoryName = config.factoryName →
      EndAlike (List.Forall₂ SourceUnit.LikeBut) (config.roundUnits classes)
        (other.roundUnits classes)) ∧
    (config.NoLineFeed → (∀ c ∈ classes, c.NoLineFeed) →
      EndAlike (List.Forall₂ (SourceUnit.Documents config.indent))
        (({ config with emitJavadoc := true } : Config).roundUnits classes)
        (({ config with emitJavadoc := false } : Config).roundUnits classes)) ∧
    EndAlike (List.Forall₂ SourceUnit.Annotates)
      (({ config with markGenerated := true } : Config).roundUnits classes)
      (({ config with markGenerated := false } : Config).roundUnits classes) := by
  refine ⟨?_, ?_, ?_⟩
  · intro other hstrategy hfactory
    apply endAlike_roundUnits fun _ _ h => h.name
    intro c _
    exact endAlike_classUnit hstrategy hfactory c fun _ => likeBut_unitOf hstrategy hfactory c
  · intro hconfig hclasses
    apply endAlike_roundUnits fun _ _ h => h.name
    intro c hc
    apply endAlike_classUnit
    · rfl
    · rfl
    · exact documents_unitOf hconfig (hclasses c hc)
  · apply endAlike_roundUnits fun _ _ h => h.name
    intro c _
    apply endAlike_classUnit
    · rfl
    · rfl
    · exact annotates_unitOf config

/-- Where a round of one unit ends like another one, that gives one unit as well. -/
theorem exists_units_of_endAlike {x y : Except Error (List SourceUnit)} {u : SourceUnit}
    (h : EndAlike (List.Forall₂ R) x y) (hx : x = .ok [u]) :
    ∃ u v, x = .ok [u] ∧ y = .ok [v] ∧ R u v := by
  obtain ⟨vs, hy, hunits⟩ := h.exists_of_ok hx
  obtain ⟨v, rest, huv, hrest, rfl⟩ := List.forall₂_cons_left_iff.mp hunits
  rw [List.forall₂_nil_left_iff.mp hrest] at hy
  exact ⟨u, v, hx, hy, huv⟩

theorem roundUnits_appearance_depotGate :
    (∃ u v, Config.roundUnits { strategy := .companion "Kit" } [depotGate] = .ok [u] ∧
      Config.roundUnits { strategy := .companion "Kit", indent := "\t", headerComment := "" }
        [depotGate] = .ok [v] ∧ u.LikeBut v) ∧
    (∃ u v, Config.roundUnits { strategy := .companion "Kit", emitJavadoc := true } [depotGate] =
        .ok [u] ∧
      Config.roundUnits { strategy := .companion "Kit", emitJavadoc := false } [depotGate] = .ok [v] ∧
      u.Documents "    " v) ∧
    ∃ u v, Config.roundUnits { strategy := .companion "Kit", markGenerated := true } [depotGate] =
        .ok [u] ∧
      Config.roundUnits { strategy := .companion "Kit", markGenerated := false } [depotGate] =
        .ok [v] ∧ u.Annotates v := by
  obtain ⟨hlike, hdocuments, hannotates⟩ :=
    roundUnits_appearance { strategy := .companion "Kit" } [depotGate]
  have hunit : Config.roundUnits { strategy := .companion "Kit" } [depotGate] =
      .ok [Config.unitOf { strategy := .companion "Kit" } depotGate] := by decide +kernel
  have hmarked : Config.roundUnits { strategy := .companion "Kit", markGenerated := true }
      [depotGate] =
        .ok [Config.unitOf { strategy := .companion "Kit", markGenerated := true } depotGate] := by
    decide +kernel
  refine ⟨exists_units_of_endAlike (hlike _ rfl rfl) hunit,
    exists_units_of_endAlike (hdocuments ⟨by decide, by decide, by decide, by decide⟩ ?_) hunit,
    exists_units_of_endAlike hannotates hmarked⟩
  intro c hc
  rw [List.mem_singleton.mp hc]
  exact noLineFeed_depotGate

end Config

end AccessorGen
