import AccessorGen.Command.Options
import AccessorGen.Schema.Basic

/-!
# Settings of a run

The settings of a run are those of the schema files, as far as the command line does not override
them. Schema files may leave the settings to each other, but may not disagree.
-/

set_option autoImplicit false

namespace AccessorGen.Command

/-- Why there are no settings for a run. -/
inductive SettingsFault
  /-- Two schema files disagree. -/
  | conflictingTables
  /-- A suffix is given for a strategy that has none. -/
  | suffixWithoutCompanion
  deriving DecidableEq, Repr

def SettingsFault.message : SettingsFault → String
  | .conflictingTables => "schema files carry conflicting [generator] tables"
  | .suffixWithoutCompanion => "--suffix only applies to the companion strategy"

/-- The settings that the schema files agree on; the defaults if none of them has any. -/
def commonConfig (schemas : List Schema) : Except SettingsFault Config :=
  match schemas.filterMap (·.config) with
  | [] => .ok {}
  | config :: rest => if rest.all (· == config) then .ok config else .error .conflictingTables

/-- The strategy: the companion if the command line names it or gives a suffix. Its suffix is that
of the command line, else that of the schema files, else the default. -/
def chooseStrategy (choice : Option StrategyChoice) (suffix : Option String)
    (base : Strategy) : Except SettingsFault Strategy :=
  match choice, suffix, base with
  | some .augment, some _, _ => .error .suffixWithoutCompanion
  | some .augment, none, _ => .ok .augment
  | _, some suffix, _ => .ok (.companion suffix)
  | some .companion, none, .companion suffix => .ok (.companion suffix)
  | some .companion, none, .augment => .ok (.companion Strategy.defaultSuffix)
  | none, none, base => .ok base

def Options.settle (o : Options) (schemas : List Schema) :
    Except SettingsFault Config := do
  let config ← commonConfig schemas
  let strategy ← chooseStrategy o.strategy o.suffix config.strategy
  return { config with
    strategy
    emitJavadoc := config.emitJavadoc && !o.noJavadoc
    markGenerated := config.markGenerated || o.generatedMark }

end AccessorGen.Command
