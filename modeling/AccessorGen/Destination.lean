import AccessorGen.FileTree
import AccessorGen.Round

/-!
# Destinations

Where finished units go: into memory, or into files below a directory. A destination takes one unit
at a time. A unit that cannot be written leaves it as it was and stops the delivery; those before it
stay written.
-/

set_option autoImplicit false

namespace AccessorGen

/-- Something that takes units. -/
class Destination (σ : Type) where
  /-- The destination once it has taken the unit. -/
  write : σ → SourceUnit → Except FileFault σ
  /-- What taking the unit leaves in the log. -/
  trace : σ → SourceUnit → List LogEntry

/-- Units in memory: qualified names and sources in the order of delivery. -/
structure CollectedUnits where
  units : List (String × String) := []

instance : Destination CollectedUnits where
  write s u := .ok { units := s.units ++ [(u.qualifiedName, u.source)] }
  trace _ _ := []

/-- Units as files below a directory. -/
structure SourceDirectory where
  /-- The path of the directory, as it was given. -/
  root : String
  /-- The file system. -/
  tree : FileTree
  /-- The paths written so far, in the order of delivery. -/
  written : List String := []

namespace SourceDirectory

/-- The path of the unit's file. Nothing stands between the two paths where the first is empty or
ends in a slash already. -/
def pathOf (s : SourceDirectory) (n : UnitName) : String :=
  (if s.root = "" || s.root.toList.getLast? == some '/' then s.root else s.root ++ "/") ++ n.filePath

instance : Destination SourceDirectory where
  write s u := do
    let tree ← s.tree.write (s.pathOf u.name) (.text u.source)
    return { s with tree, written := s.written ++ [s.pathOf u.name] }
  trace s u := [.wrote (s.pathOf u.name)]

end SourceDirectory

/-- What an action on a destination leaves behind. -/
structure Action (σ α : Type) where
  target : σ
  log : List LogEntry
  result : Except Error α

variable {σ : Type} [Destination σ]

/-- Delivers the units one after the other, up to the first that cannot be written. -/
def deliver (target : σ) : List SourceUnit → Action σ Unit
  | [] => ⟨target, [], .ok ()⟩
  | u :: rest =>
    match Destination.write target u with
    | .error fault => ⟨target, [.writing u.qualifiedName], .error (.file fault)⟩
    | .ok next =>
      let after := deliver next rest
      { after with log := .writing u.qualifiedName :: Destination.trace target u ++ after.log }

namespace Config

/-- Generates a round and delivers its units. Nothing is delivered unless the whole round is
generated. -/
def deliverRound (config : Config) (classes : List ClassDecl) (target : σ) :
    Action σ (List SourceUnit) :=
  let log := config.roundLog classes
  match config.roundUnits classes with
  | .error e => ⟨target, log, .error e⟩
  | .ok units =>
    let delivery := deliver target units
    ⟨delivery.target, log ++ delivery.log, delivery.result.map fun _ => units⟩

/-- Generates one class and writes its unit, if it has one. -/
def deliverClass (config : Config) (c : ClassDecl) (target : σ) : Action σ (Option SourceUnit) :=
  let log := config.classLog c
  match config.classUnit c with
  | .error e => ⟨target, log, .error e⟩
  | .ok none => ⟨target, log, .ok none⟩
  | .ok (some u) =>
    match Destination.write target u with
    | .error fault => ⟨target, log, .error (.file fault)⟩
    | .ok next => ⟨next, log ++ Destination.trace target u, .ok (some u)⟩

end Config

end AccessorGen
