import AccessorGen.Command.Settings
import AccessorGen.Schema.Describe
import AccessorGen.Schema.Load
import AccessorGen.Destination

/-!
# Runs of the command line

A run loads the schemas, settles the settings, describes the classes and generates a round. With
`--check` it stops there and names the units, otherwise it writes them. Everything up to writing
is the same in both, and none of it touches a file. An inquiry is answered without a run.
-/

set_option autoImplicit false

namespace AccessorGen.Command

/-- Why a run failed before its first write. -/
inductive RunFault
  | settings (fault : SettingsFault)
  | error (e : Error)
  deriving DecidableEq, Repr

def RunFault.message : RunFault → String
  | .settings fault => fault.message
  | .error e => e.message

/-- What a run is going to generate. -/
structure Plan where
  config : Config
  classes : List ClassDecl

/-- The plan of a run: the schemas, their settings and their classes, in this order of faults. -/
def Options.plan (o : Options) (read : Reader) : Except RunFault Plan := do
  let schemas ← (Schema.loadAll read o.schemas).mapError .error
  let config ← (o.settle schemas).mapError .settings
  let classes ← (describeAll schemas).mapError .error
  return { config, classes }

/-- What a run leaves behind. -/
structure Outcome where
  exitCode : Nat
  stdout : String
  stderr : String
  tree : FileTree

/-- The lines, each with its line feed. -/
def unlines (ls : List String) : String := String.join (ls.map (· ++ "\n"))

def indentFurtherLines (s : String) : String :=
  String.intercalate "\n    " ((s.toList.splitOn '\n').map String.ofList)

def failureText (message : String) : String := "Error: " ++ message ++ "\n"

def generationFailureText (out : String) (e : Error) : String :=
  failureText
    ("generation into " ++ out ++ " failed\n\nCaused by:\n    " ++ indentFurtherLines e.message)

def check (tree : FileTree) (p : Plan) : Outcome :=
  match p.config.roundUnits p.classes with
  | .error e => ⟨1, "", failureText e.message, tree⟩
  | .ok units => ⟨0, unlines (units.map (·.qualifiedName)), "", tree⟩

def emit (tree : FileTree) (out : String) (p : Plan) : Outcome :=
  let target : SourceDirectory := { root := out, tree }
  let action := p.config.deliverRound p.classes target
  match action.result with
  | .error e => ⟨1, "", generationFailureText out e, action.target.tree⟩
  | .ok _ => ⟨0, unlines action.target.written, "", action.target.tree⟩

def Options.run (o : Options) (tree : FileTree) : Outcome :=
  match o.plan tree.readText with
  | .error fault => ⟨1, "", failureText fault.message, tree⟩
  | .ok p => if o.check then Command.check tree p else emit tree o.outPath p

/-! ## What the program says about itself -/

def versionText : String := "minilombok 0.1.0\n"

def usageLine : String := "Usage: minilombok [OPTIONS] <SCHEMAS>..."

/-- What is printed when a command line asks for nothing that can be done. -/
def usageText : String := unlines [usageLine, "", "For more information, try '--help'."]

/-- A line for each spelling with its meaning. The meanings stand in one column. -/
def inColumns (entries : List (String × String)) : List String :=
  let width := (entries.map (·.1.length)).foldl max 0
  entries.map fun (spelling, meaning) =>
    "  " ++ spelling.pushn ' ' (width - spelling.length) ++ "  " ++ meaning

def argumentMeanings : List (String × String) :=
  [("<SCHEMAS>...", "Schema files describing the classes of one round")]

/-- Options without a short name leave its place free. -/
def optionMeanings : List (String × String) := [
  ("-o, --out <OUT>",
    "Root directory for generated sources [default: " ++ Options.defaultOut ++ "]"),
  ("    --strategy <STRATEGY>",
    "Output convention, overriding the schema's `[generator]` table " ++
      "[possible values: augment, companion]"),
  ("    --suffix <SUFFIX>", "Companion unit suffix (implies `--strategy companion`)"),
  ("    --no-javadoc", "Omit javadoc blocks"),
  ("    --generated-annotation", "Annotate generated types with `@Generated`"),
  ("    --check", "Validate and generate without writing anything"),
  ("-v, --verbose", "Log at debug level unless RUST_LOG says otherwise"),
  ("-h, --help", "Print help"),
  ("-V, --version", "Print version")]

def helpText : String :=
  unlines
    (["A compile-time accessor, factory and toString generator driven by class descriptors.", "",
        usageLine, "", "Arguments:"] ++
      inColumns argumentMeanings ++ ["", "Options:"] ++ inColumns optionMeanings)

def Inquiry.answer : Inquiry → String
  | .help => helpText
  | .version => versionText

def run (tree : FileTree) (words : List String) : Outcome :=
  match Invocation.ofWords words with
  | .inquiry q => ⟨0, q.answer, "", tree⟩
  | .misuse => ⟨2, "", usageText, tree⟩
  | .run options => options.run tree

end AccessorGen.Command
