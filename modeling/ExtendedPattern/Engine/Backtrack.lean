import ExtendedPattern.Engine.Lockstep

/-! Matching by trial. A plan tries its ways in order of preference; coming back to a way
that was left aside takes one step from the budget. Parts that need no backtracking are
delegated to code, which commits to its one preferred match. -/
namespace ExtendedPattern.Engine

inductive Plan where
  | char (s : CharSet)
  | assertion (a : Assertion)
  | seq (items : List Plan)
  | alt (branches : List Plan)
  | capture (index : Nat) (body : Plan)
  | optional (greedy : Bool) (body : Plan)
  | loop (atLeastOnce greedy : Bool) (body : Plan)
  | counted (low : Nat) (high : Option Nat) (greedy : Bool) (body : Plan)
  /-- Rounds may be empty; beyond the least number, one that is empty ends in failure. The
  place where a round started is kept under `id`. -/
  | guarded (id low : Nat) (greedy : Bool) (body : Plan)
  | look (back : Nat) (negative : Bool) (body : Plan)
  | atomic (body : Plan)
  | backref (group : Nat)
  | keepOut
  | searchStart
  | delegate (code : Array Step) (groups : List Nat)

namespace Backtrack

structure State where
  here : Cursor
  slots : Slots
  roundStarts : List (Option Nat)

inductive Outcome where
  | found (s : State) (budget : Nat)
  | failed (budget : Nat)
  | exhausted

@[inline] def Outcome.orElse (o : Outcome) (other : Nat → Outcome) : Outcome :=
  match o with
  | failed 0 => exhausted
  | failed (budget + 1) => other budget
  | o => o

abbrev Goal := State → Nat → Outcome

abbrev Move := State → Nat → Goal → Outcome

def either (greedy : Bool) (stay leave : Nat → Outcome) (budget : Nat) : Outcome :=
  if greedy then (stay budget).orElse leave else (leave budget).orElse stay

def State.mark (s : State) (slot : Nat) : State :=
  { s with slots := s.slots.set slot (some s.here.offset) }

def rounds (body : Move) (greedy : Bool) : Nat → Move
  | 0, s, budget, goal => goal s budget
  | fuel + 1, s, budget, goal =>
    either greedy (fun budget => body s budget fun s budget => rounds body greedy fuel s budget goal)
      (goal s) budget

def countedRounds (body : Move) (low : Nat) (high : Option Nat) (greedy : Bool) : Nat → Nat → Move
  | 0, _, s, budget, goal => goal s budget
  | fuel + 1, round, s, budget, goal =>
    if high == some round then goal s budget
    else
      let stay budget := body s budget fun s budget =>
        countedRounds body low high greedy fuel (round + 1) s budget goal
      if round < low then stay budget else either greedy stay (goal s) budget

def guardedRounds (body : Move) (id low : Nat) (greedy : Bool) : Nat → Nat → Move
  | 0, _, _, budget, _ => .failed budget
  | fuel + 1, round, s, budget, goal =>
    if 0 < round && s.roundStarts[id]? == some (some s.here.offset) then .failed budget
    else if round < low then
      body s budget fun s budget => guardedRounds body id low greedy fuel (round + 1) s budget goal
    else
      let s := { s with roundStarts := s.roundStarts.set id (some s.here.offset) }
      either greedy (fun budget => body s budget fun s budget =>
        guardedRounds body id low greedy fuel (round + 1) s budget goal) (goal s) budget

def skipText : Text → Cursor → Option Cursor
  | [], c => some c
  | d :: rest, c =>
    match c.next? with
    | some (e, c) => if d = e then skipText rest c else none
    | none => none

def adopt (groups : List Nat) (inner : Slots) (outer : Slots) : Slots :=
  groups.foldl (fun s g => (s.set (2 * g) (inner.get (2 * g))).set (2 * g + 1)
    (inner.get (2 * g + 1))) outer

structure Frame where
  subject : Text
  start : Nat

mutual

def run (f : Frame) : Plan → Move
  | .char set, s, budget, goal =>
    match s.here.next? with
    | some (c, next) => if set.has c then goal { s with here := next } budget else .failed budget
    | none => .failed budget
  | .assertion a, s, budget, goal => if s.here.satisfies a then goal s budget else .failed budget
  | .seq items, s, budget, goal => runSeq f items s budget goal
  | .alt branches, s, budget, goal => runAlt f branches s budget goal
  | .capture index body, s, budget, goal =>
    run f body (s.mark (2 * index)) budget fun s budget => goal (s.mark (2 * index + 1)) budget
  | .optional greedy body, s, budget, goal =>
    either greedy (fun budget => run f body s budget goal) (goal s) budget
  | .loop atLeastOnce greedy body, s, budget, goal =>
    -- Every round takes a character, so the fuel outlasts the text.
    let fuel := s.here.after.length + 1
    if atLeastOnce then
      run f body s budget fun s budget => rounds (run f body) greedy fuel s budget goal
    else rounds (run f body) greedy fuel s budget goal
  | .counted low high greedy body, s, budget, goal =>
    let fuel := high.getD (low + s.here.after.length) + 1
    countedRounds (run f body) low high greedy fuel 0 s budget goal
  | .guarded id low greedy body, s, budget, goal =>
    let fuel := low + s.here.after.length + 2
    guardedRounds (run f body) id low greedy fuel 0 s budget goal
  | .look back false body, s, budget, goal =>
    match s.here.back? back with
    | none => .failed budget
    | some origin =>
      run f body { s with here := origin } budget fun t budget =>
        goal { t with here := s.here } budget
  | .look back true body, s, budget, goal =>
    let trial : Outcome := match s.here.back? back with
      | none => .failed budget
      | some origin => run f body { s with here := origin } budget .found
    match trial with
    | .found _ budget => .failed budget
    | other => other.orElse (goal s)
  | .atomic body, s, budget, goal =>
    match run f body s budget .found with
    | .found s budget => goal s budget
    | other => other
  | .backref group, s, budget, goal =>
    match s.slots.span? group with
    | none => .failed budget
    | some span =>
      match skipText (f.subject.slice span) s.here with
      | some next => goal { s with here := next } budget
      | none => .failed budget
  | .keepOut, s, budget, goal => goal (s.mark 0) budget
  | .searchStart, s, budget, goal =>
    if s.here.offset = f.start then goal s budget else .failed budget
  | .delegate code groups, s, budget, goal =>
    match Lockstep.run code (s.slots.length / 2) s.here with
    | none => .failed budget
    | some arrival =>
      goal { s with here := arrival.stop, slots := adopt groups arrival.slots s.slots } budget

def runSeq (f : Frame) : List Plan → Move
  | [], s, budget, goal => goal s budget
  | p :: rest, s, budget, goal => run f p s budget fun s budget => runSeq f rest s budget goal

def runAlt (f : Frame) : List Plan → Move
  | [], _, budget, _ => .failed budget
  | [p], s, budget, goal => run f p s budget goal
  | p :: rest, s, budget, goal =>
    (run f p s budget goal).orElse fun budget => runAlt f rest s budget goal

end

section
variable {f : Frame} {p q : Plan} {s : State} {budget : Nat} {goal : Goal}

theorem runCapture {index : Nat} : run f (.capture index p) s budget goal =
    run f p (s.mark (2 * index)) budget fun s budget => goal (s.mark (2 * index + 1)) budget := by
  rw [run]

theorem runPair : run f (.seq [p, q]) s budget goal =
    run f p s budget fun s budget => run f q s budget goal := by
  simp only [run, runSeq]

end

def search (f : Frame) (plan : Plan) (blank : Cursor → State) :
    Text → Text → Nat → Nat → Outcome
  | after, before, offset, budget =>
    let attempt := run f (.capture 0 plan) (blank ⟨before, after, offset⟩) budget .found
    match after with
    | [] => attempt.orElse .failed
    | c :: rest =>
      attempt.orElse fun budget =>
        search f plan blank rest (c :: before) (offset + c.utf8Size) budget

end Backtrack
end ExtendedPattern.Engine
