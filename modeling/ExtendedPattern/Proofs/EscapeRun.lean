import ExtendedPattern.Proofs.Delimiters
import ExtendedPattern.Proofs.RunPattern

/-! Trying the plan for a run without delimiters. Within its budget it takes the whole stretch that
it starts at, so the search for escapes ends at the next delimiter that counts. -/
namespace ExtendedPattern
open Text (size)
namespace Engine

namespace Cursor

def pass (c : Cursor) (front rest : Text) : Cursor :=
  ⟨front.reverse ++ c.before, rest, c.offset + size front⟩

theorem passNothing {c : Cursor} {rest : Text} (follows : c.after = rest) : c.pass [] rest = c := by
  subst follows
  rfl

theorem passPass (c : Cursor) (front middle more rest : Text) :
    (c.pass front middle).pass more rest = c.pass (front ++ more) rest := by
  simp [pass, Text.sizeAppend, Nat.add_assoc]

end Cursor

namespace Backtrack

def State.pass (s : State) (front rest : Text) : State := { s with here := s.here.pass front rest }

def Goal.Firm (goal : Goal) : Prop := ∀ s budget left, goal s budget ≠ .failed left

def Outcome.Leads (o : Outcome) (goal : Goal) (s : State) : Prop := o = .exhausted ∨ ∃ budget, o = goal s budget

def Outcome.Stuck (o : Outcome) : Prop := o = .exhausted ∨ ∃ budget, o = .failed budget

theorem Outcome.Leads.stays {o : Outcome} {goal : Goal} {s : State} (leads : o.Leads goal s) (firm : goal.Firm)
    (other : Nat → Outcome) : o.orElse other = o := by
  rcases leads with rfl | ⟨budget, rfl⟩
  · rfl
  · cases reached : goal s budget with
    | failed left => exact absurd reached (firm s budget left)
    | _ => rfl

theorem Outcome.Leads.trans {o : Outcome} {first second : Goal} {s t : State} (leads : o.Leads first s)
    (more : ∀ budget, (first s budget).Leads second t) : o.Leads second t := by
  rcases leads with rfl | ⟨budget, rfl⟩
  · exact .inl rfl
  · exact more budget

theorem Outcome.Stuck.orElse {o : Outcome} (stuck : o.Stuck) {other : Goal} {s : State} :
    (o.orElse (other s)).Leads other s := by
  rcases stuck with rfl | ⟨_ | budget, rfl⟩
  · exact .inl rfl
  · exact .inl rfl
  · exact .inr ⟨budget, rfl⟩

variable {f : Frame} {l r e : Char} {goal : Goal} {s u : State} {budget : Nat}

variable {body : Move} {fuel : Nat} {last : Goal}

abbrev piece (f : Frame) (l r e : Char) : Move :=
  run f (.alt [.escapedPlan e, .loop true true (.plainPlan l r e)])

def blank (c : Cursor) : State := ⟨c, Slots.blank 1, []⟩

def attempt (f : Frame) (l r e : Char) (c : Cursor) (budget : Nat) : Outcome :=
  run f (.capture 0 (.runPlan l r e)) (blank c) budget .found

def Outcome.Spans (o : Outcome) (start stop : Nat) : Prop :=
  ∃ s budget, o = .found s budget ∧ s.slots = [some start, some stop]

theorem Outcome.Spans.stays {o : Outcome} {start stop : Nat} (spans : o.Spans start stop)
    (other : Nat → Outcome) : o.orElse other = o := by
  obtain ⟨s, left, rfl, _⟩ := spans
  rfl

variable {m : Balanced.Signs} (escape : m.escape = some e)

include escape

end Backtrack

end Engine

def Pattern.ofRun (l r e : Char) : Pattern :=
  { source := Balanced.escapeText (escapeChar e) (escapeChar l) (escapeChar r),
    native := Balanced.escapeText (escapeChar e) (escapeChar l) (escapeChar r), flags := .empty,
    program := .ofRun l r e, names := none, limits := {}, cursor := 0 }

namespace Balanced

variable {p : Pattern} {l r e : Char}

end Balanced
end ExtendedPattern
