import ExtendedPattern.Pattern

/-! Searches: from any offset, pinned to it, or going on from the pattern's cursor. -/
namespace ExtendedPattern.Pattern

def nativeSearch (p : Pattern) (subject : Text) (start : Nat) :
    Except Failure (Option Engine.Program.Groups) :=
  (p.program.search subject start).mapError fun _ => .backtrackLimit

def execAt (p : Pattern) (subject : Text) (start : Nat) (sticky : Bool) :
    Except Failure (Option Match) :=
  if subject.size < start then .ok none
  else do
    let start := subject.boundary start
    match ← p.nativeSearch subject start with
    | none => .ok none
    | some groups =>
      let found : Match := ⟨subject, groups, p.names⟩
      .ok (if sticky && found.start != start then none else some found)

def find (p : Pattern) (subject : Text) : Except Failure (Option Match) := p.execAt subject 0 false

def isMatch (p : Pattern) (subject : Text) : Except Failure Bool :=
  (p.nativeSearch subject 0).map Option.isSome

def isStateful (p : Pattern) : Bool := p.isGlobal || p.isSticky

def exec (p : Pattern) (subject : Text) : Except Failure (Option Match × Pattern) := do
  let found ← p.execAt subject (if p.isStateful then p.cursor else 0) p.isSticky
  .ok (found, if p.isStateful then p.moveTo ((found.map Match.stop).getD 0) else p)

def test (p : Pattern) (subject : Text) : Except Failure (Bool × Pattern) :=
  (p.exec subject).map fun (found, p) => (found.isSome, p)

end ExtendedPattern.Pattern
