import ExtendedPattern.Iteration

/-! Splitting a subject around matches, with the groups of each separator between the
pieces. A match that ends where the piece before began separates nothing. -/
namespace ExtendedPattern.Split

structure Progress where
  pieces : List (Option Text) := []
  lastEnd : Nat := 0
  lastSeparator : Option Nat := none

def Progress.cut (s : Progress) (m : Match) : Except Failure Progress :=
  (m.input.between ⟨s.lastEnd, m.start⟩).map fun piece =>
    let groups := if m.start < m.input.size then m.texts.drop 1 else []
    ⟨s.pieces ++ some piece :: groups, m.stop, some m.text.size⟩

def isReached (limit : Option Nat) (pieces : List (Option Text)) : Bool :=
  limit.any (· ≤ pieces.length)

def capped (limit : Option Nat) (pieces : List (Option Text)) : List (Option Text) :=
  match limit with
  | some n => pieces.take n
  | none => pieces

def separate (search : Iteration.Searcher) (size : Nat) (limit : Option Nat) :
    Nat → Nat → Progress → Except Failure Progress
  | 0, _, _ => .error .endless
  | fuel + 1, start, s =>
    if size < start then .ok s
    else do
      match ← search start with
      | none => .ok s
      | some m =>
        if s.lastEnd < m.stop then
          let s ← s.cut m
          if isReached limit s.pieces then .ok s
          else separate search size limit fuel m.resume s
        else separate search size limit fuel m.resume s

end ExtendedPattern.Split

namespace ExtendedPattern.Pattern

def split (p : Pattern) (subject : Text) (limit : Option Nat) :
    Except Failure (List (Option Text)) := do
  if limit = some 0 then .ok []
  else
    let s ← Split.separate (p.searcher subject) subject.size limit (Iteration.rounds subject) 0 {}
    let last ←
      if s.lastEnd = subject.size then do
        let matchesNothing ← p.isMatch []
        .ok (if !matchesNothing || (s.lastSeparator.any (0 < ·)) then [some []] else [])
      else .ok [some (subject.dropBytes s.lastEnd)]
    .ok (Split.capped limit (s.pieces ++ last))

end ExtendedPattern.Pattern
