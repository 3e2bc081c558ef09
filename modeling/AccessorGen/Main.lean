import AccessorGen.Command.Run

/-!
# The command line program

Reads the named schema files, runs the command on what they hold and writes the units. All
decisions are made elsewhere; this module only touches the files.
-/

set_option autoImplicit false

namespace AccessorGen.Command

/-- The fault behind an error of the operating system, if it is one that a run reports. -/
def faultOf? : IO.Error → Option FileFault
  | .noFileOrDirectory .. | .noSuchThing .. => some .notFound
  | .alreadyExists .. => some .fileExists
  | .inappropriateType _ code _ =>
    some (if code == 21 then .isADirectory else .notADirectory)
  | .invalidArgument _ code _ => some (if code == 22 then .endsEarly else .nameTooLong)
  | _ => none

/-- Runs the action; a fault that a run reports becomes a value. -/
def guarded {α : Type} (action : IO α) : IO (Except FileFault α) := do
  try
    return .ok (← action)
  catch e =>
    match faultOf? e with
    | some fault => return .error fault
    | none => throw e

def readFile (path : String) : IO (Except FileFault String) := do
  match ← guarded (IO.FS.readBinFile path) with
  | .error fault => return .error fault
  | .ok bytes =>
    match Content.ofBytes bytes with
    | .text s => return .ok s
    | .bytes _ => return .error .notText

def readFiles (paths : List String) : IO Reader := do
  let texts ← paths.mapM fun path => do return (path, ← readFile path)
  return fun path => (texts.lookup path).getD (.error .notFound)

/-- Makes the missing directories on a way that goes on from the path, in order; `made` says whether
one was made already. -/
def makeDirectories (path : String) (made : Bool) : List String → IO (Except FileFault Unit)
  | [] => return .ok ()
  | name :: rest => do
    let path := path ++ name
    match ← guarded (IO.FS.createDir path) with
    | .ok () => makeDirectories (path ++ "/") true rest
    | .error .fileExists =>
      -- only a directory passes for one that is there already
      match ← guarded (IO.FS.createDirAll path) with
      | .ok () => makeDirectories (path ++ "/") made rest
      | .error _ => return .error (FileTree.faultInTheWay made rest)
    | .error fault => return .error fault

def writeUnit (target : SourceDirectory) (u : SourceUnit) : IO (Except FileFault Unit) := do
  let path := target.pathOf u.name
  match target.tree.checkPath (Place.parent path) with
  | .error fault => return .error fault
  | .ok () =>
    match ← makeDirectories "" false (Place.names path).dropLast with
    | .error fault => return .error fault
    | .ok () => guarded (IO.FS.writeFile path u.source)

/-- Writes the units one after the other, up to the first that cannot be written. -/
def writeUnits (target : SourceDirectory) : List SourceUnit → IO (Except FileFault Unit)
  | [] => return .ok ()
  | u :: rest => do
    match ← writeUnit target u with
    | .error fault => return .error fault
    | .ok () => writeUnits target rest

/-- Prints what a run without files leaves behind, and gives its exit code. -/
def report (o : Outcome) : IO UInt32 := do
  IO.print o.stdout
  IO.eprint o.stderr
  return UInt32.ofNat o.exitCode

def perform (out : String) (p : Plan) : IO UInt32 := do
  let target : SourceDirectory := { root := out, tree := { limits := some .usual } }
  match p.config.roundUnits p.classes with
  | .error e => report ⟨1, "", generationFailureText out e, {}⟩
  | .ok units =>
    match ← writeUnits target units with
    | .error fault => report ⟨1, "", generationFailureText out (.file fault), {}⟩
    | .ok () => report ⟨0, unlines (units.map fun u => target.pathOf u.name), "", {}⟩

end AccessorGen.Command

open AccessorGen.Command in
def main (words : List String) : IO UInt32 := do
  match Invocation.ofWords words with
  | .inquiry _ | .misuse => report (run {} words)
  | .run options =>
    match options.plan (← readFiles options.schemas) with
    | .error fault => report ⟨1, "", failureText fault.message, {}⟩
    | .ok p => if options.check then report (check {} p) else perform options.outPath p
