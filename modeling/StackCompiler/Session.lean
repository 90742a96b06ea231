import StackCompiler.Log

/-!
# Sessions

A session is a computation that may fail, that changes a state, and that leaves a log. The log and
the changes made before a failure stay.
-/

namespace StackCompiler

structure Trail (σ : Type) where
  state : σ
  log : List Log.Record := []

abbrev Session (σ : Type) := ExceptT Failure (StateM (Trail σ))

namespace Session

def note (r : Log.Record) : Session σ Unit :=
  modify fun t => { t with log := t.log ++ [r] }

def ofExcept (x : Except Failure α) : Session σ α :=
  match x with
  | .ok a => pure a
  | .error f => throw f

def state : Session σ σ := return (← get).state

def setState (s : σ) : Session σ Unit := modify fun t => { t with state := s }

/-- The result of a session, and the trail that it leaves. -/
def runFrom (s : σ) (x : Session σ α) : Except Failure α × Trail σ :=
  (ExceptT.run x).run { state := s }

end Session
end StackCompiler
