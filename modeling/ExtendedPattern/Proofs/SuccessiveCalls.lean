import ExtendedPattern.Proofs.AllMatches

/-! Searches that go on from the cursor. One call after the other gives the matches one by one, as going through all of
them does, since where no match is empty both go on where the last one ended. A pinned search finds the same match as
another and drops it where it starts too late. -/
namespace ExtendedPattern

namespace Iteration

variable {p : Pattern} {subject : Text} {start : Nat} {m : Match}

theorem resumesSolid (found : p.searcher subject start = .ok (some m)) (solid : m.isEmpty = false) :
    m.resume = m.stop ∧ subject.IsPlace m.stop := by
  obtain ⟨_, cuts, _⟩ := Pattern.execAtCuts found
  exact ⟨by rw [Match.resume, solid]; rfl, cuts.stop⟩

end Iteration

def Contiguous : Nat → List Match → Prop
  | _, [] => True
  | n, m :: more => m.start = n ∧ Contiguous m.stop more

structure ContiguousFront (n : Nat) (ms row : List Match) : Prop where
  starts : row <+: ms
  contiguous : Contiguous n row
  longest : ∀ other, other <+: ms → Contiguous n other → other <+: row

namespace ContiguousFront
variable {n : Nat} {m : Match} {more row : List Match}

theorem nothing (n : Nat) : ContiguousFront n [] [] := ⟨List.nil_prefix, trivial, fun _ starts _ => starts⟩

theorem gap (apart : m.start ≠ n) : ContiguousFront n (m :: more) [] := by
  refine ⟨List.nil_prefix, trivial, fun other starts contiguous => ?_⟩
  cases other with
  | nil => exact List.nil_prefix
  | cons first others =>
    obtain ⟨rfl, _⟩ := List.cons_prefix_cons.mp starts
    exact absurd contiguous.1 apart

theorem next (touches : m.start = n) (front : ContiguousFront m.stop more row) : ContiguousFront n (m :: more) (m :: row) := by
  refine ⟨List.cons_prefix_cons.mpr ⟨rfl, front.starts⟩, ⟨touches, front.contiguous⟩, fun other starts contiguous => ?_⟩
  cases other with
  | nil => exact List.nil_prefix
  | cons first others =>
    obtain ⟨rfl, later⟩ := List.cons_prefix_cons.mp starts
    exact List.cons_prefix_cons.mpr ⟨rfl, front.longest others later contiguous.2⟩

end ContiguousFront

namespace Pattern
variable {α : Type} {p q : Pattern} {subject : Text} {start n : Nat} {m : Match} {e : Failure}

def handBack (p : Pattern) : Except Failure (α × Pattern) → Except Failure α × Pattern
  | .ok (a, q) => (.ok a, q)
  | .error e => (.error e, p)

def inARow (call : Pattern → Except Failure (α × Pattern)) : Nat → Pattern → List (Except Failure α × Nat) × Pattern
  | 0, p => ([], p)
  | n + 1, p =>
    let one := p.handBack (call p)
    let more := inARow call n one.2
    ((one.1, one.2.cursor) :: more.1, more.2)

variable {call : Pattern → Except Failure (α × Pattern)}

theorem inARowOk {a : α} (given : call p = .ok (a, q)) (n : Nat) :
    inARow call (n + 1) p = ((.ok a, q.cursor) :: (inARow call n q).1, (inARow call n q).2) := by
  rw [inARow, given]
  rfl

theorem inARowSame {given : Except Failure α} (same : p.handBack (call p) = (given, p)) (n : Nat) :
    inARow call n p = (List.replicate n (given, p.cursor), p) := by
  induction n with
  | zero => rfl
  | succ n ih =>
    rw [inARow, same]
    simp only [ih, List.replicate_succ]

theorem testsInARow (subject : Text) (n : Nat) (p : Pattern) : inARow (·.test subject) n p =
    ((inARow (·.exec subject) n p).1.map fun given => (given.1.map Option.isSome, given.2),
      (inARow (·.exec subject) n p).2) := by
  induction n generalizing p with
  | zero => rfl
  | succ n ih =>
    have one : p.handBack (p.test subject) =
        ((p.handBack (p.exec subject)).1.map Option.isSome, (p.handBack (p.exec subject)).2) := by
      rw [test]
      cases p.exec subject <;> rfl
    simp only [inARow, one, ih, List.map_cons]

theorem searchesSame {found : Except Failure (Option Match)} (same : p.handBack (p.exec subject) = (found, p)) (n : Nat) :
    inARow (·.exec subject) n p = (List.replicate n (found, p.cursor), p) ∧
      inARow (·.test subject) n p = (List.replicate n (found.map Option.isSome, p.cursor), p) := by
  have calls : inARow (·.exec subject) n p = _ := inARowSame same n
  refine ⟨calls, ?_⟩
  rw [testsInARow, calls, List.map_replicate]

theorem execSearches (p : Pattern) (subject : Text) : p.exec subject =
    (p.execAt subject (if p.isStateful then p.cursor else 0) p.isSticky).map fun found =>
      (found, if p.isStateful then p.moveTo ((found.map Match.stop).getD 0) else p) := by
  rw [exec]
  cases p.execAt subject (if p.isStateful then p.cursor else 0) p.isSticky <;> rfl

theorem execAtPinned (p : Pattern) (subject : Text) (start : Nat) : p.execAt subject start true =
    (p.execAt subject start false).map (Option.filter fun m => m.start == subject.boundary start) := by
  by_cases beyond : subject.size < start
  · rw [execAtBeyond beyond, execAtBeyond beyond]
    rfl
  · have inside := Nat.le_of_not_lt beyond
    rw [execAtInside inside, execAtInside inside]
    cases p.nativeSearch subject (subject.boundary start) with
    | error e => rfl
    | ok result =>
      cases result with
      | none => rfl
      | some groups =>
        by_cases here : (Match.mk subject groups p.names).start = subject.boundary start <;>
          simp [Except.map, Option.filter, here]

theorem execFrom (stateful : p.isStateful) {found : Option Match} (searched : p.execAt subject start p.isSticky = .ok found) :
    (p.moveTo start).exec subject = .ok (found, p.moveTo ((found.map Match.stop).getD 0)) := by
  have onward : (p.moveTo start).isStateful := stateful
  have searched : (p.moveTo start).execAt subject (p.moveTo start).cursor (p.moveTo start).isSticky = .ok found := searched
  rw [execSearches, if_pos onward, searched]
  simp only [Except.map, if_pos onward]
  rfl

theorem callsTrace (stateful : p.isStateful) {result : Except Failure (List Match)}
    (trace : Iteration.Trace (p.searcher subject) start result) {ms : List Match} (done : result = .ok ms)
    (solid : ∀ m ∈ ms, m.isEmpty = false) (place : subject.IsPlace start) :
    ∃ row, (p.isSticky = false → row = ms) ∧ (p.isSticky → ContiguousFront start ms row) ∧
      inARow (·.exec subject) (row.length + 1) (p.moveTo start) =
        (row.map (fun m => (.ok (some m), m.stop)) ++ [(.ok none, 0)], p.moveTo 0) := by
  have misses {start : Nat} (missed : p.execAt subject start p.isSticky = .ok none) :
      inARow (·.exec subject) 1 (p.moveTo start) = ([(.ok none, 0)], p.moveTo 0) := by
    rw [inARowOk (execFrom stateful missed)]
    rfl
  induction trace generalizing ms with
  | @stops start none =>
    cases done
    refine ⟨[], fun _ => rfl, fun _ => .nothing start, misses ?_⟩
    cases sticky : p.isSticky with
    | false => exact none
    | true =>
      have none : p.execAt subject start false = .ok .none := none
      rw [execAtPinned, none]
      rfl
  | fails => cases done
  | @goesOn start m rest found _ ih =>
    cases rest with
    | error => cases done
    | ok more =>
      cases done
      obtain ⟨full, solid⟩ := List.forall_mem_cons.mp solid
      obtain ⟨resume, next⟩ := Iteration.resumesSolid found full
      have found : p.execAt subject start false = .ok (some m) := found
      by_cases late : p.isSticky ∧ m.start ≠ start
      · obtain ⟨sticky, apart⟩ := late
        refine ⟨[], fun off => ?_, fun _ => .gap apart, misses ?_⟩
        · rw [off] at sticky
          cases sticky
        · rw [sticky, execAtPinned, found, Text.boundaryOfPlace place]
          simp [Except.map, Option.filter, apart]
      · have touches : p.isSticky → m.start = start := fun on => by
          by_contra apart
          exact late ⟨on, apart⟩
        have searched : p.execAt subject start p.isSticky = .ok (some m) := by
          cases sticky : p.isSticky with
          | false => exact found
          | true =>
            rw [execAtPinned, found, Text.boundaryOfPlace place]
            simp [Except.map, Option.filter, touches sticky]
        rw [resume] at ih
        obtain ⟨row, all, front, others⟩ := ih rfl solid next
        refine ⟨m :: row, fun off => by rw [all off], fun on => .next (touches on) (front on), ?_⟩
        rw [List.length_cons, inARowOk (execFrom stateful searched)]
        simp only [Option.map_some, Option.getD_some, others]
        rfl

end Pattern

/-- Where going through all matches ends, a global or sticky pattern gives them one by one from the start, all of them or those up to the first gap,
with the cursor at the end of each, and then none with the cursor at the start. Any other pattern gives the first match
again and again, and no search that fails moves the cursor. -/
theorem callsGoThroughMatches (p : Pattern) (subject : Text) :
    (∀ ms, p.findAll subject = .ok ms → (∀ m ∈ ms, m.isEmpty = false) → p.isStateful → p.cursor = 0 →
      ∃ row, (p.isSticky = false → row = ms) ∧ (p.isSticky → ContiguousFront 0 ms row) ∧
        Pattern.inARow (·.exec subject) (row.length + 1) p =
          (row.map (fun m => (.ok (some m), m.stop)) ++ [(.ok none, 0)], p) ∧
        Pattern.inARow (·.test subject) (row.length + 1) p =
          (row.map (fun m => (.ok true, m.stop)) ++ [(.ok false, 0)], p)) ∧
      (p.isStateful = false →
        (∀ n, Pattern.inARow (·.exec subject) n p = (List.replicate n (p.find subject, p.cursor), p) ∧
          Pattern.inARow (·.test subject) n p =
            (List.replicate n ((p.find subject).map Option.isSome, p.cursor), p)) ∧
        ∀ ms, p.findAll subject = .ok ms → p.find subject = .ok ms.head?) ∧
      ∀ e, p.execAt subject (if p.isStateful then p.cursor else 0) p.isSticky = .error e → ∀ n,
        Pattern.inARow (·.exec subject) n p = (List.replicate n (.error e, p.cursor), p) ∧
          Pattern.inARow (·.test subject) n p = (List.replicate n (.error e, p.cursor), p) := by
  refine ⟨fun ms found solid stateful front => ?_, fun still => ?_, fun e failed n => ?_⟩
  · have back : p.moveTo 0 = p := by rw [← front]; rfl
    have start := Text.placeAtStart subject
    obtain ⟨row, all, contiguous, calls⟩ := Pattern.callsTrace stateful (Iteration.traceOk found) rfl solid start
    rw [back] at calls
    refine ⟨row, all, contiguous, calls, ?_⟩
    rw [Pattern.testsInARow, calls]
    simp [Except.map]
  · have given : p.handBack (p.exec subject) = (p.find subject, p) := by
      have unpinned : p.isSticky = false := (Bool.or_eq_false_iff.mp still).2
      rw [Pattern.execSearches, still, unpinned]
      change p.handBack ((p.find subject).map _) = _
      cases p.find subject <;> rfl
    exact ⟨Pattern.searchesSame given, fun ms => Pattern.findIsFirst⟩
  · have given : p.handBack (p.exec subject) = (.error e, p) := by
      rw [Pattern.execSearches, failed]
      rfl
    exact Pattern.searchesSame given n

theorem gapEndsCalls :
    ∃ p ms, Pattern.ofNative "[a-z]".toList ((FlagSet.single .global).union (.single .sticky)) = .ok p ∧
      p.findAll "ab,c".toList = .ok ms ∧ ms.map Match.range = [⟨0, 1⟩, ⟨1, 2⟩, ⟨3, 4⟩] ∧
      (∀ m ∈ ms, m.isEmpty = false) ∧ p.isStateful ∧ p.cursor = 0 ∧
      Pattern.inARow (·.test "ab,c".toList) 3 p = ([(.ok true, 1), (.ok true, 2), (.ok false, 0)], p) := by
  let found (start stop : Nat) : Match := ⟨"ab,c".toList, [some ⟨start, stop⟩], none⟩
  have facts : (Pattern.ofNative "[a-z]".toList ((FlagSet.single .global).union (.single .sticky))).toOption.map (fun p =>
      (p.isSticky, p.cursor, (p.findAll "ab,c".toList).toOption)) =
      some (true, 0, some [found 0 1, found 1 2, found 3 4]) := by
    decide +kernel
  obtain ⟨p, built, facts⟩ := okOfMap facts
  obtain ⟨sticky, rest⟩ := Prod.mk.inj facts
  obtain ⟨front, all⟩ := Prod.mk.inj rest
  have stateful : p.isStateful := by rw [Pattern.isStateful, sticky, Bool.or_true]
  have all : p.findAll "ab,c".toList = .ok [found 0 1, found 1 2, found 3 4] := okOfToOption all
  have solid : ∀ m ∈ [found 0 1, found 1 2, found 3 4], m.isEmpty = false := by decide
  obtain ⟨row, _, contiguous, _, calls⟩ := (callsGoThroughMatches p _).1 _ all solid stateful front
  obtain ⟨starts, touching, longest⟩ := contiguous sticky
  have two : row = [found 0 1, found 1 2] := by
    obtain ⟨rest, rfl⟩ := longest [found 0 1, found 1 2] ⟨[found 3 4], rfl⟩ ⟨rfl, rfl, trivial⟩
    cases rest with
    | nil => rfl
    | cons m rest =>
      obtain ⟨_, whole⟩ := starts
      obtain rfl : m = found 3 4 := Option.some.inj (congrArg (·[2]?) whole)
      have gap : (found 3 4).start = 2 := touching.2.2.1
      cases gap
  subst two
  exact ⟨p, _, built, all, rfl, solid, stateful, front, calls⟩

end ExtendedPattern
