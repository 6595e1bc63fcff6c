import DataQuality.Error
import DataQuality.Log

/-!
Tasks that log events. The events that a task has logged are kept if it fails.
-/

namespace DataQuality

structure Logged (α : Type) where
  outcome : Except Error α
  events : List Log.Event

namespace Logged

def ofOutcome {α : Type} (outcome : Except Error α) : Logged α := ⟨outcome, []⟩

def log (level : Log.Level) (message : String) (fields : List (String × String)) : Logged Unit :=
  ⟨.ok (), [⟨level, message, fields⟩]⟩

def andThen {α β : Type} (task : Logged α) (next : α → Logged β) : Logged β :=
  match task.outcome with
  | .ok a => ⟨(next a).outcome, task.events ++ (next a).events⟩
  | .error e => ⟨.error e, task.events⟩

instance : Monad Logged where
  pure a := ⟨.ok a, []⟩
  bind := andThen

instance : MonadLift (Except Error) Logged := ⟨ofOutcome⟩

instance : MonadExceptOf Error Logged where
  throw e := ⟨.error e, []⟩
  tryCatch task handle :=
    match task.outcome with
    | .ok _ => task
    | .error e => ⟨(handle e).outcome, task.events ++ (handle e).events⟩

end Logged

end DataQuality
