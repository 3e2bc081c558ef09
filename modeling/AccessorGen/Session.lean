import AccessorGen.Destination

/-!
# Sessions

A session is a run of steps on one destination. The settings can change between steps, and rounds know
nothing of the rounds before them.
-/

set_option autoImplicit false

namespace AccessorGen

/-- A step of a session. -/
inductive Step
  /-- The settings from now on. -/
  | configure (config : Config)
  /-- A round. -/
  | emit (classes : List ClassDecl)
  /-- A single class, written by itself. -/
  | write (c : ClassDecl)

/-- What a step that succeeds answers. -/
inductive Answer
  | configured (config : Config)
  | emitted (units : List SourceUnit)
  | written (unit : Option SourceUnit)

/-- The state between two steps. -/
structure Session (σ : Type) where
  config : Config
  target : σ

namespace Session

variable {σ : Type} [Destination σ]

/-- The step's effect on the destination, and its answer. -/
def act (s : Session σ) : Step → Action σ Answer
  | .configure config => ⟨s.target, [], .ok (.configured config)⟩
  | .emit classes =>
    let a := s.config.deliverRound classes s.target
    ⟨a.target, a.log, a.result.map .emitted⟩
  | .write c =>
    let a := s.config.deliverClass c s.target
    ⟨a.target, a.log, a.result.map .written⟩

def configAfter (s : Session σ) : Step → Config
  | .configure config => config
  | .emit _ | .write _ => s.config

def after (s : Session σ) (step : Step) : Session σ := ⟨s.configAfter step, (s.act step).target⟩

def run (s : Session σ) : List Step → List (Action σ Answer)
  | [] => []
  | step :: rest => s.act step :: (s.after step).run rest

end Session

end AccessorGen
