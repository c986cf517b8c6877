import ExtendedPattern.Event
import ExtendedPattern.Pattern
import ExtendedPattern.RegistryEdit

/-! What outlives a single call: whether token rules are running, which forbids compiling,
the cache of compiled patterns, the events so far, and the changes of registries, the last one first. -/
namespace ExtendedPattern

structure Session where
  inRules : Bool := false
  cache : List ((Text × Text) × Pattern) := []
  events : List Event := []
  edits : List (RegistryName × RegistryEdit) := []

def Action (α : Type) : Type := Session → Except Failure α × Session

namespace Action

def ok {α : Type} (a : α) : Action α := fun s => (.ok a, s)

def fail {α : Type} (e : Failure) : Action α := fun s => (.error e, s)

def andThen {α β : Type} (first : Action α) (next : α → Action β) : Action β := fun s =>
  match first s with
  | (.ok a, s) => next a s
  | (.error e, s) => (.error e, s)

instance : Monad Action where
  pure := ok
  bind := andThen

def ofExcept {α : Type} (e : Except Failure α) : Action α := fun s => (e, s)

instance : MonadLift (Except Failure) Action where
  monadLift := ofExcept

def emit (e : Event) : Action Unit := fun s => (.ok (), { s with events := e :: s.events })

def reporting {α : Type} (result : Except Failure α) (events : List Event) : Action α := fun s =>
  (result, { s with events := events.reverse ++ s.events })

theorem andThenOk {α β : Type} {first : Action α} {next : α → Action β} {b : β} {s u : Session}
    (done : first.andThen next s = (.ok b, u)) : ∃ a t, first s = (.ok a, t) ∧ next a t = (.ok b, u) := by
  unfold andThen at done
  split at done
  · rename_i answered
    exact ⟨_, _, answered, done⟩
  · cases done

end Action

namespace Session

/-- Runs token rules; when they end, in whatever way, compiling is allowed again. -/
def whileInRules {α : Type} (run : Session → α × Session) : Session → α × Session := fun s =>
  let (a, s) := run { s with inRules := true }
  (a, { s with inRules := false })

def cached? (s : Session) (source letters : Text) : Option Pattern := s.cache.lookup (source, letters)

end Session
end ExtendedPattern
