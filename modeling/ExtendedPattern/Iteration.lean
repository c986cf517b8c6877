import ExtendedPattern.Search

/-! Going through all matches of a subject. -/
namespace ExtendedPattern

def Match.resume (m : Match) : Nat :=
  if m.isEmpty then m.input.stepFrom m.stop else m.stop

namespace Iteration

abbrev Searcher := Nat → Except Failure (Option Match)

def rounds (subject : Text) : Nat := subject.length + 2

def matchesFrom (search : Searcher) : Nat → Nat → Except Failure (List Match)
  | 0, _ => .error .endless
  | fuel + 1, start => do
    match ← search start with
    | none => .ok []
    | some found =>
      let more ← matchesFrom search fuel found.resume
      .ok (found :: more)

end Iteration

namespace Pattern

def searcher (p : Pattern) (subject : Text) : Iteration.Searcher :=
  fun start => p.execAt subject start false

def findAll (p : Pattern) (subject : Text) : Except Failure (List Match) :=
  Iteration.matchesFrom (p.searcher subject) (Iteration.rounds subject) 0

def forEachMatch {α : Type} (p : Pattern) (subject : Text) (start : α)
    (step : α → Match → Nat → Text → α) : Except Failure α :=
  (p.findAll subject).map fun found =>
    found.zipIdx.foldl (fun a (m, ordinal) => step a m ordinal subject) start

end Pattern
end ExtendedPattern
