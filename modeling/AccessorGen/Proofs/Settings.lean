import AccessorGen.Command.Settings
import Mathlib.Data.List.Basic

/-!
# The settings of a run

Of the schema files only the settings count, and of these only which there are: `commonConfig` fails
when there are two (`Disagree`) and otherwise gives the one there is (`IsCommon`). Both are said of the
files as a set, so neither their order nor files without settings matter.

The command line comes on top. `Options.setOn` is what it makes of given settings, once it does not
contradict itself, and `Options.Overrides` says the same setting by setting. What it overrides it
overrides with constants, so a second time changes nothing.
-/

set_option autoImplicit false

namespace AccessorGen

/-- The ending of a companion's name. -/
def Strategy.suffix? : Strategy → Option String
  | .companion suffix => some suffix
  | .augment => none

namespace Command

/-- Two of the files have settings, and not the same. -/
def Disagree (schemas : List Schema) : Prop :=
  ∃ s ∈ schemas, ∃ t ∈ schemas, ∃ a b, s.config = some a ∧ t.config = some b ∧ a ≠ b

/-- The settings are those of a file, or the defaults where no file has any. -/
def IsCommon (schemas : List Schema) (base : Config) : Prop :=
  (∃ s ∈ schemas, s.config = some base) ∨ (∀ s ∈ schemas, s.config = none) ∧ base = {}

/-- The command line gives a suffix for a strategy that has none. -/
def Options.Contradicts (o : Options) : Prop := o.strategy = some .augment ∧ o.suffix ≠ none

/-- Settings with those of the command line on top of them, setting by setting. -/
structure Options.Overrides (o : Options) (base config : Config) : Prop where
  factoryName : config.factoryName = base.factoryName
  indent : config.indent = base.indent
  headerComment : config.headerComment = base.headerComment
  emitJavadoc : config.emitJavadoc = true ↔ base.emitJavadoc = true ∧ o.noJavadoc = false
  markGenerated : config.markGenerated = true ↔ base.markGenerated = true ∨ o.generatedMark = true
  isCompanion : config.strategy.isCompanion = true ↔
    o.suffix ≠ none ∨ o.strategy = some .companion ∨
      o.strategy = none ∧ base.strategy.isCompanion = true
  /-- The suffix is that of the command line, else that of the files, else the default one. -/
  suffix : ∀ suffix, config.strategy = .companion suffix →
    suffix = o.suffix.getD (base.strategy.suffix?.getD "Lombok")

/-! ## The files -/

variable {schemas other : List Schema} {base config : Config}

theorem mem_tables_iff :
    config ∈ schemas.filterMap (·.config) ↔ ∃ s ∈ schemas, s.config = some config :=
  List.mem_filterMap

theorem not_disagree_iff :
    ¬Disagree schemas ↔
      ∀ a ∈ schemas.filterMap (·.config), ∀ b ∈ schemas.filterMap (·.config), a = b := by
  simp only [mem_tables_iff]
  constructor
  · intro h a ha b hb
    obtain ⟨s, hs, ha⟩ := ha
    obtain ⟨t, ht, hb⟩ := hb
    by_contra hne
    exact h ⟨s, hs, t, ht, a, b, ha, hb, hne⟩
  · intro h hdisagree
    obtain ⟨s, hs, t, ht, a, b, ha, hb, hne⟩ := hdisagree
    exact hne (h a ⟨s, hs, ha⟩ b ⟨t, ht, hb⟩)

theorem isCommon_iff :
    IsCommon schemas base ↔
      base ∈ schemas.filterMap (·.config) ∨ schemas.filterMap (·.config) = [] ∧ base = {} := by
  rw [IsCommon, mem_tables_iff, List.filterMap_eq_nil_iff]

theorem exists_isCommon (schemas : List Schema) : ∃ base, IsCommon schemas base := by
  simp only [isCommon_iff]
  cases schemas.filterMap (·.config) with
  | nil => exact ⟨{}, Or.inr ⟨rfl, rfl⟩⟩
  | cons config rest => exact ⟨config, Or.inl List.mem_cons_self⟩

/-- **Files that agree give the settings they have in common.** -/
theorem commonConfig_of_agree (h : ¬Disagree schemas) (hbase : IsCommon schemas base) :
    commonConfig schemas = .ok base := by
  rw [not_disagree_iff] at h
  rw [isCommon_iff] at hbase
  rw [commonConfig]
  cases htables : schemas.filterMap (·.config) with
  | nil =>
    rcases hbase with hmem | ⟨-, rfl⟩
    · rw [htables] at hmem
      exact absurd hmem List.not_mem_nil
    · rfl
  | cons first rest =>
    rw [htables] at h hbase
    rcases hbase with hmem | ⟨hnil, -⟩
    · have hfirst : first = base := h first List.mem_cons_self base hmem
      have hrest : rest.all (· == first) = true := by
        rw [List.all_eq_true]
        intro config hconfig
        rw [beq_iff_eq]
        exact h config (List.mem_cons_of_mem _ hconfig) first List.mem_cons_self
      exact (if_pos hrest).trans (congrArg Except.ok hfirst)
    · cases hnil

theorem commonConfig_of_disagree (h : Disagree schemas) :
    commonConfig schemas = .error .conflictingTables := by
  rw [commonConfig]
  cases htables : schemas.filterMap (·.config) with
  | nil =>
    refine absurd h (not_disagree_iff.mpr ?_)
    simp [htables]
  | cons first rest =>
    refine if_neg fun hrest => ?_
    rw [List.all_eq_true] at hrest
    have hsame : ∀ config ∈ first :: rest, config = first := by
      intro config hconfig
      rcases List.mem_cons.mp hconfig with rfl | hconfig
      · rfl
      · exact beq_iff_eq.mp (hrest config hconfig)
    refine absurd h (not_disagree_iff.mpr ?_)
    rw [htables]
    intro a ha b hb
    rw [hsame a ha, hsame b hb]

/-- **Only which settings there are matters,** not which files have them, in what order and how often. -/
theorem commonConfig_congr (h : ∀ config, config ∈ other.filterMap (·.config) ↔
    config ∈ schemas.filterMap (·.config)) : commonConfig other = commonConfig schemas := by
  have hnil : other.filterMap (·.config) = [] ↔ schemas.filterMap (·.config) = [] := by
    simp only [List.eq_nil_iff_forall_not_mem, h]
  have hdisagree : ¬Disagree other ↔ ¬Disagree schemas := by
    simp only [not_disagree_iff, h]
  obtain ⟨base, hbase⟩ := exists_isCommon schemas
  have hbase' : IsCommon other base := by
    rw [isCommon_iff] at hbase ⊢
    rwa [h, hnil]
  by_cases hd : Disagree schemas
  · rw [commonConfig_of_disagree hd, commonConfig_of_disagree (not_iff_not.mp hdisagree |>.mpr hd)]
  · rw [commonConfig_of_agree hd hbase, commonConfig_of_agree (hdisagree.mpr hd) hbase']

/-! ## The command line -/

variable {o : Options}

/-- The strategy that the command line makes of another one. -/
def Options.strategyOver (o : Options) (base : Strategy) : Strategy :=
  if o.suffix ≠ none ∨ o.strategy = some .companion ∨ o.strategy = none ∧ base.isCompanion = true then
    .companion (o.suffix.getD (base.suffix?.getD Strategy.defaultSuffix))
  else .augment

/-- The settings that the command line makes of other ones. -/
def Options.setOn (o : Options) (base : Config) : Config :=
  { base with
    strategy := o.strategyOver base.strategy
    emitJavadoc := base.emitJavadoc && !o.noJavadoc
    markGenerated := base.markGenerated || o.generatedMark }

theorem chooseStrategy_of_contradicts (h : o.Contradicts) (base : Strategy) :
    chooseStrategy o.strategy o.suffix base = .error .suffixWithoutCompanion := by
  obtain ⟨hstrategy, hsuffix⟩ := h
  obtain ⟨suffix, hsuffix⟩ := Option.ne_none_iff_exists'.mp hsuffix
  rw [hstrategy, hsuffix]
  rfl

theorem chooseStrategy_eq (h : ¬o.Contradicts) (base : Strategy) :
    chooseStrategy o.strategy o.suffix base = .ok (o.strategyOver base) := by
  rw [Options.Contradicts, not_and_not_right] at h
  rw [Options.strategyOver]
  cases hsuffix : o.suffix with
  | some suffix =>
    cases hstrategy : o.strategy with
    | none => cases base <;> rfl
    | some choice =>
      cases choice with
      | augment =>
        rw [h hstrategy] at hsuffix
        cases hsuffix
      | companion => cases base <;> rfl
  | none =>
    cases o.strategy with
    | none => cases base <;> rfl
    | some choice => cases choice <;> cases base <;> rfl

theorem Options.Overrides.strategy_eq (h : o.Overrides base config) :
    config.strategy = o.strategyOver base.strategy := by
  have hcompanion := h.isCompanion
  rw [strategyOver]
  cases hstrategy : config.strategy with
  | augment =>
    rw [hstrategy] at hcompanion
    rw [if_neg fun hwanted => absurd (hcompanion.mpr hwanted) (by simp [Strategy.isCompanion])]
  | companion suffix =>
    rw [hstrategy] at hcompanion
    rw [if_pos (hcompanion.mp rfl), h.suffix suffix hstrategy]
    rfl

/-- What the command line makes of settings is what it overrides in them. -/
theorem Options.overrides_iff : o.Overrides base config ↔ config = o.setOn base := by
  constructor
  · intro h
    have hjavadoc : config.emitJavadoc = (base.emitJavadoc && !o.noJavadoc) := by
      rw [Bool.eq_iff_iff, h.emitJavadoc]
      simp
    have hmark : config.markGenerated = (base.markGenerated || o.generatedMark) := by
      rw [Bool.eq_iff_iff, h.markGenerated]
      simp
    obtain ⟨_, _, _, _, _, _⟩ := config
    rw [setOn, Config.mk.injEq]
    exact ⟨h.strategy_eq, h.factoryName, h.indent, hjavadoc, hmark, h.headerComment⟩
  · intro h
    subst h
    refine ⟨rfl, rfl, rfl, by simp [setOn], by simp [setOn], ?_, ?_⟩
    · rw [setOn, strategyOver]
      split
      · next hcompanion => exact iff_of_true rfl hcompanion
      · next hcompanion => exact iff_of_false Bool.false_ne_true hcompanion
    · intro suffix hsuffix
      rw [setOn, strategyOver] at hsuffix
      split at hsuffix
      · cases hsuffix
        rfl
      · cases hsuffix

theorem Options.strategyOver_strategyOver (o : Options) (base : Strategy) :
    o.strategyOver (o.strategyOver base) = o.strategyOver base := by
  obtain ⟨_, _, choice, suffix, _, _, _, _⟩ := o
  cases suffix with
  | some suffix => rfl
  | none =>
    cases choice with
    | none => cases base <;> rfl
    | some choice => cases choice <;> cases base <;> rfl

/-- Overriding a second time changes nothing. -/
theorem Options.setOn_setOn (o : Options) (base : Config) : o.setOn (o.setOn base) = o.setOn base := by
  simp only [setOn, strategyOver_strategyOver, Bool.and_assoc, Bool.and_self, Bool.or_assoc,
    Bool.or_self]

/-! ## Both together -/

theorem settle_of_disagree (h : Disagree schemas) :
    o.settle schemas = .error .conflictingTables := by
  rw [Options.settle, commonConfig_of_disagree h]
  rfl

theorem settle_of_contradicts (h : ¬Disagree schemas) (ho : o.Contradicts) :
    o.settle schemas = .error .suffixWithoutCompanion := by
  obtain ⟨base, hbase⟩ := exists_isCommon schemas
  rw [Options.settle, commonConfig_of_agree h hbase]
  show (chooseStrategy o.strategy o.suffix base.strategy >>= _) = _
  rw [chooseStrategy_of_contradicts ho]
  rfl

theorem settle_eq (h : ¬Disagree schemas) (hbase : IsCommon schemas base) (ho : ¬o.Contradicts) :
    o.settle schemas = .ok (o.setOn base) := by
  rw [Options.settle, commonConfig_of_agree h hbase]
  show (chooseStrategy o.strategy o.suffix base.strategy >>= _) = _
  rw [chooseStrategy_eq ho]
  rfl

theorem settle_eq_ok_iff :
    o.settle schemas = .ok config ↔
      ¬Disagree schemas ∧ ¬o.Contradicts ∧ ∃ base, IsCommon schemas base ∧ o.Overrides base config := by
  simp only [Options.overrides_iff]
  constructor
  · intro h
    by_cases hd : Disagree schemas
    · rw [settle_of_disagree hd] at h
      cases h
    by_cases ho : o.Contradicts
    · rw [settle_of_contradicts hd ho] at h
      cases h
    obtain ⟨base, hbase⟩ := exists_isCommon schemas
    rw [settle_eq hd hbase ho] at h
    exact ⟨hd, ho, base, hbase, (Except.ok.inj h).symm⟩
  · intro h
    obtain ⟨hd, ho, base, hbase, rfl⟩ := h
    exact settle_eq hd hbase ho

theorem settle_eq_error_iff {e : SettingsFault} :
    o.settle schemas = .error e ↔
      Disagree schemas ∧ e = .conflictingTables ∨
        ¬Disagree schemas ∧ o.Contradicts ∧ e = .suffixWithoutCompanion := by
  by_cases hd : Disagree schemas
  · rw [settle_of_disagree hd]
    simp [hd, eq_comm]
  by_cases ho : o.Contradicts
  · rw [settle_of_contradicts hd ho]
    simp [hd, ho, eq_comm]
  · obtain ⟨base, hbase⟩ := exists_isCommon schemas
    rw [settle_eq hd hbase ho]
    simp [hd, ho]

theorem settle_congr (h : ∀ config, config ∈ other.filterMap (·.config) ↔
    config ∈ schemas.filterMap (·.config)) (o : Options) : o.settle other = o.settle schemas := by
  rw [Options.settle, Options.settle, commonConfig_congr h]

/-- Files without settings do not count. -/
theorem filterMap_eq_of_filter_eq
    (h : other.filter (·.config.isSome) = schemas.filter (·.config.isSome)) :
    other.filterMap (·.config) = schemas.filterMap (·.config) := by
  have hskip : ∀ files : List Schema,
      files.filterMap (·.config) = (files.filter (·.config.isSome)).filterMap (·.config) := by
    intro files
    rw [List.filterMap_filter]
    apply List.filterMap_congr
    intro s _
    cases s.config <;> rfl
  rw [hskip other, h, ← hskip schemas]

/-- **The settings of a run are those of the files under those of the command line.** There are none exactly
when two files disagree, which is what is told, or else when the command line contradicts itself. Neither
the order of the files nor files without settings change anything. Settings that come out go in again, and
come out the same. -/
theorem settle_outcome (o : Options) (schemas : List Schema) :
    ((∃ e, o.settle schemas = .error e) ↔ Disagree schemas ∨ o.Contradicts) ∧
    (o.settle schemas = .error .conflictingTables ↔ Disagree schemas) ∧
    (o.settle schemas = .error .suffixWithoutCompanion ↔ ¬Disagree schemas ∧ o.Contradicts) ∧
    (∀ other, other.Perm schemas → o.settle other = o.settle schemas) ∧
    (∀ other, other.filter (·.config.isSome) = schemas.filter (·.config.isSome) →
      o.settle other = o.settle schemas) ∧
    (∀ config, o.settle schemas = .ok config ↔
      ¬Disagree schemas ∧ ¬o.Contradicts ∧
        ∃ base, IsCommon schemas base ∧ o.Overrides base config) ∧
    ∀ config, o.settle schemas = .ok config →
      ∀ again, again.filterMap (·.config) = [config] → o.settle again = .ok config := by
  refine ⟨?_, ?_, ?_, fun other h => ?_, fun other h => ?_, fun config => settle_eq_ok_iff, ?_⟩
  · simp only [settle_eq_error_iff]
    constructor
    · intro h
      obtain ⟨e, ⟨hd, -⟩ | ⟨-, ho, -⟩⟩ := h
      · exact Or.inl hd
      · exact Or.inr ho
    · intro h
      by_cases hd : Disagree schemas
      · exact ⟨_, Or.inl ⟨hd, rfl⟩⟩
      · exact ⟨_, Or.inr ⟨hd, h.resolve_left hd, rfl⟩⟩
  · simp [settle_eq_error_iff]
  · simp [settle_eq_error_iff]
  · exact settle_congr (fun config => (h.filterMap _).mem_iff) o
  · exact settle_congr (fun config => by rw [filterMap_eq_of_filter_eq h]) o
  · intro config hconfig again hagain
    obtain ⟨hd, ho, base, hbase, hover⟩ := settle_eq_ok_iff.mp hconfig
    have hagree : ¬Disagree again := by
      rw [not_disagree_iff, hagain]
      simp
    have hcommon : IsCommon again config := by
      rw [isCommon_iff, hagain]
      exact Or.inl List.mem_cons_self
    rw [settle_eq hagree hcommon ho, Options.overrides_iff.mp hover, Options.setOn_setOn]

end Command

end AccessorGen
