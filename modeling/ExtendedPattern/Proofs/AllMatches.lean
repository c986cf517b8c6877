import ExtendedPattern.Proofs.Leftmost
import Mathlib.Data.List.Chain
import Mathlib.Data.List.Infix
import Mathlib.Data.List.Perm.Subperm

/-! Going through all matches. Each round goes on behind the place where the round before started, so
the rounds end by themselves; what they find is in order, apart, and leaves no match out. -/
namespace ExtendedPattern
open Text (size)

namespace Iteration

inductive Trace (search : Searcher) : Nat → Except Failure (List Match) → Prop where
  | stops {start} (none : search start = .ok none) : Trace search start (.ok [])
  | fails {start e} (failed : search start = .error e) : Trace search start (.error e)
  | goesOn {start m rest} (found : search start = .ok (some m)) (more : Trace search m.resume rest) :
      Trace search start (rest.map (m :: ·))

variable {p : Pattern} {subject : Text} {start : Nat} {m : Match}

theorem matchesFromRound (search : Searcher) (fuel start : Nat) : matchesFrom search (fuel + 1) start =
    match search start with
    | .error e => .error e
    | .ok none => .ok []
    | .ok (some m) => (matchesFrom search fuel m.resume).map (m :: ·) := by
  rw [matchesFrom]
  cases search start with
  | error e => rfl
  | ok found =>
    cases found with
    | none => rfl
    | some m => cases more : matchesFrom search fuel m.resume <;> simp [bind, Except.bind, Except.map, more]

theorem matchesFromFound {search : Searcher} {fuel : Nat} {ms : List Match}
    (found : matchesFrom search (fuel + 1) start = .ok ms) : (search start = .ok none ∧ ms = []) ∨
      ∃ m more, search start = .ok (some m) ∧ matchesFrom search fuel m.resume = .ok more ∧ ms = m :: more := by
  obtain ⟨result, searched, found⟩ := bindOk found
  cases result with
  | none => cases found; exact .inl ⟨searched, rfl⟩
  | some m =>
    obtain ⟨more, rest, same⟩ := bindOk found
    cases same
    exact .inr ⟨m, more, searched, rest, rfl⟩

theorem foundAll {search : Searcher} {P : Match → Prop} (each : ∀ {start m}, search start = .ok (some m) → P m)
    {fuel start : Nat} {ms : List Match} (found : matchesFrom search fuel start = .ok ms) : ∀ m ∈ ms, P m := by
  induction fuel generalizing start ms with
  | zero => cases found
  | succ fuel ih =>
    obtain ⟨_, rfl⟩ | ⟨m, more, searched, rest, rfl⟩ := matchesFromFound found
    · exact nofun
    · exact List.forall_mem_cons.mpr ⟨each searched, ih rest⟩

theorem matchesFromTrace (search : Searcher) (fuel start : Nat) :
    matchesFrom search fuel start = .error .endless ∨ Trace search start (matchesFrom search fuel start) := by
  induction fuel generalizing start with
  | zero => exact .inl rfl
  | succ fuel ih =>
    rw [matchesFromRound]
    cases searched : search start with
    | error e => exact .inr (.fails searched)
    | ok found =>
      cases found with
      | none => exact .inr (.stops searched)
      | some m =>
        rcases ih m.resume with endless | trace
        · dsimp only
          rw [endless]
          exact .inl rfl
        · exact .inr (.goesOn searched trace)

theorem traceOk {search : Searcher} {fuel : Nat} {ms : List Match} (found : matchesFrom search fuel start = .ok ms) :
    Trace search start (.ok ms) := by
  have trace := matchesFromTrace search fuel start
  rw [found] at trace
  exact trace.resolve_left nofun

theorem traceSame {search : Searcher} {first second : Except Failure (List Match)}
    (one : Trace search start first) (other : Trace search start second) : first = second := by
  induction one generalizing second with
  | stops none =>
    cases other with
    | stops => rfl
    | fails failed => cases none.symm.trans failed
    | goesOn found => cases none.symm.trans found
  | fails failed =>
    cases other with
    | stops none => cases none.symm.trans failed
    | fails again => cases failed.symm.trans again; rfl
    | goesOn found => cases found.symm.trans failed
  | goesOn found _ ih =>
    cases other with
    | stops none => cases none.symm.trans found
    | fails failed => cases found.symm.trans failed
    | goesOn again more =>
      cases found.symm.trans again
      rw [ih more]

theorem traceFails {search : Searcher} {result : Except Failure (List Match)} {e : Failure}
    (trace : Trace search start result) (failed : result = .error e) : ∃ place, search place = .error e := by
  induction trace with
  | stops => cases failed
  | fails again =>
    cases failed
    exact ⟨_, again⟩
  | @goesOn _ _ rest _ _ ih =>
    cases rest with
    | ok => cases failed
    | error => exact ih failed

theorem searchBeyond (beyond : subject.size < start) : p.searcher subject start = .ok none :=
  Pattern.execAtBeyond beyond

theorem foundAtPlace (at_ : subject.IsPlace start ∨ subject.size < start)
    (found : p.searcher subject start = .ok (some m)) : subject.IsPlace start :=
  at_.resolve_right (Nat.not_lt.mpr (Pattern.execAtFound found).1)

theorem resumesSomewhere (found : p.searcher subject start = .ok (some m)) :
    subject.IsPlace m.resume ∨ subject.size < m.resume := by
  obtain ⟨rfl, cuts, _⟩ := Pattern.execAtCuts found
  exact (Text.cutsResume cuts rfl).2.2

inductive Course (search : Searcher) : Nat → List Nat → Prop where
  | last {place} (ends : ∀ m, search place ≠ .ok (some m)) : Course search place []
  | next {place m rest} (found : search place = .ok (some m)) (more : Course search m.resume rest) :
      Course search place (place :: rest)

section
variable {search : Searcher} {first second starts : List Nat}

theorem courseSame (one : Course search start first) (other : Course search start second) : first = second := by
  induction one generalizing second with
  | last ends =>
    cases other with
    | last => rfl
    | next found => exact absurd found (ends _)
  | next found _ ih =>
    cases other with
    | last ends => exact absurd found (ends _)
    | next again more =>
      cases found.symm.trans again
      rw [ih more]

theorem courseFrom (course : Course search start starts) {place : Nat} (met : place ∈ starts) :
    ∃ rest, rest <:+ starts ∧ Course search place rest := by
  induction course with
  | last => contradiction
  | @next start m rest found more ih =>
    rcases List.mem_cons.mp met with rfl | later
    · exact ⟨_, List.suffix_refl _, .next found more⟩
    · obtain ⟨others, ends, course⟩ := ih later
      exact ⟨others, ends.trans (List.suffix_cons start rest), course⟩

theorem courseNodup (course : Course search start starts) : starts.Nodup := by
  induction course with
  | last => exact .nil
  | @next start m rest found more ih =>
    refine List.nodup_cons.mpr ⟨fun again => ?_, ih⟩
    obtain ⟨others, ends, course⟩ := courseFrom more again
    obtain rfl := courseSame course (.next found more)
    have shorter := ends.length_le
    rw [List.length_cons] at shorter
    omega

theorem courseOfTrace {result : Except Failure (List Match)} (trace : Trace search start result) :
    ∃ starts, Course search start starts ∧ ∀ fuel, starts.length < fuel → matchesFrom search fuel start = result := by
  induction trace with
  | stops none =>
    refine ⟨[], .last fun m found => (nomatch none.symm.trans found), fun fuel enough => ?_⟩
    obtain ⟨fuel, rfl⟩ := Nat.exists_eq_add_one_of_ne_zero (Nat.ne_zero_of_lt enough)
    rw [matchesFromRound, none]
  | fails failed =>
    refine ⟨[], .last fun m found => (nomatch failed.symm.trans found), fun fuel enough => ?_⟩
    obtain ⟨fuel, rfl⟩ := Nat.exists_eq_add_one_of_ne_zero (Nat.ne_zero_of_lt enough)
    rw [matchesFromRound, failed]
  | goesOn found _ ih =>
    obtain ⟨starts, course, rounds⟩ := ih
    refine ⟨_, .next found course, fun fuel enough => ?_⟩
    obtain ⟨fuel, rfl⟩ := Nat.exists_eq_add_one_of_ne_zero (Nat.ne_zero_of_lt enough)
    rw [matchesFromRound, found]
    dsimp only
    rw [rounds fuel (Nat.lt_of_succ_lt_succ enough)]

end

theorem courseAtPlaces {starts : List Nat} (course : Course (p.searcher subject) start starts)
    (at_ : subject.IsPlace start ∨ subject.size < start) : ∀ n ∈ starts, n ∈ subject.inits.map Text.size := by
  induction course with
  | last => exact nofun
  | @next start m rest found _ ih =>
    obtain ⟨before, after, same, size⟩ := foundAtPlace at_ found
    refine List.forall_mem_cons.mpr ⟨?_, ih (resumesSomewhere found)⟩
    exact List.mem_map.mpr ⟨before, (List.mem_inits before subject).mpr ⟨after, same.symm⟩, size⟩

theorem courseShort {starts : List Nat} (course : Course (p.searcher subject) 0 starts) :
    starts.length ≤ subject.length + 1 := by
  have among : starts ⊆ subject.inits.map Text.size := courseAtPlaces course (.inl (Text.placeAtStart subject))
  have fewer := (List.subperm_of_subset (courseNodup course) among).length_le
  rwa [List.length_map, List.length_inits] at fewer

theorem traceRounds {result : Except Failure (List Match)} (trace : Trace (p.searcher subject) 0 result) :
    p.findAll subject = result := by
  obtain ⟨starts, course, rounds⟩ := courseOfTrace trace
  exact rounds _ (Nat.lt_succ_of_le (courseShort course))

theorem traceNotEndless {result : Except Failure (List Match)} (trace : Trace (p.searcher subject) start result) :
    result ≠ .error .endless := by
  intro endless
  obtain ⟨place, failed⟩ := traceFails trace endless
  cases Pattern.execAtFails failed

theorem traceIff {result : Except Failure (List Match)} :
    Trace (p.searcher subject) 0 result ↔ p.findAll subject = result ∧ result ≠ .error .endless := by
  constructor
  · exact fun trace => ⟨traceRounds trace, traceNotEndless trace⟩
  · rintro ⟨rfl, ends⟩
    exact (matchesFromTrace _ _ _).resolve_left ends

theorem resumesBehind (orderly : p.Orderly subject) (found : p.searcher subject start = .ok (some m)) :
    m.start < m.resume ∧ m.stop ≤ m.resume ∧ (subject.IsPlace m.resume ∨ subject.size < m.resume) := by
  obtain ⟨rfl, _, cuts⟩ := orderly.execAt found
  exact Text.cutsResume cuts rfl

theorem fewerPlaces (orderly : p.Orderly subject) (here : subject.IsPlace start)
    (found : p.searcher subject start = .ok (some m)) : subject.placesFrom m.resume < subject.placesFrom start := by
  have behind := (orderly.execAt found).2.1
  obtain ⟨ahead, _, next⟩ := resumesBehind orderly found
  exact Text.placesShrink here (Nat.lt_of_le_of_lt behind ahead) next

theorem traceOfRounds (orderly : p.Orderly subject) {fuel : Nat} (at_ : subject.IsPlace start ∨ subject.size < start)
    (enough : subject.placesFrom start < fuel) :
    Trace (p.searcher subject) start (matchesFrom (p.searcher subject) fuel start) := by
  induction fuel generalizing start with
  | zero => contradiction
  | succ fuel ih =>
    rw [matchesFromRound]
    cases searched : p.searcher subject start with
    | error e => exact .fails searched
    | ok found =>
      cases found with
      | none => exact .stops searched
      | some m =>
        have fewer := fewerPlaces orderly (foundAtPlace at_ searched) searched
        exact .goesOn searched (ih (resumesBehind orderly searched).2.2 (by omega))

theorem traceAll (orderly : p.Orderly subject) : Trace (p.searcher subject) 0 (p.findAll subject) := by
  have enough : subject.placesFrom 0 < rounds subject := by
    rw [Text.placesFromStart, rounds]
    omega
  exact traceOfRounds orderly (.inl (Text.placeAtStart subject)) enough

inductive InOrder (subject : Text) : Nat → List Match → Prop where
  | none (lastEnd : Nat) : InOrder subject lastEnd []
  | next {lastEnd : Nat} {m : Match} {more : List Match} (input : m.input = subject) (behind : lastEnd ≤ m.start)
      (cuts : subject.Cuts m.range) (others : InOrder subject m.stop more) : InOrder subject lastEnd (m :: more)

theorem traceInOrder (orderly : p.Orderly subject) {result : Except Failure (List Match)}
    (trace : Trace (p.searcher subject) start result) {lastEnd : Nat} (order : lastEnd ≤ start) {ms : List Match}
    (done : result = .ok ms) : InOrder subject lastEnd ms := by
  induction trace generalizing lastEnd ms with
  | stops =>
    cases done
    exact .none lastEnd
  | fails => cases done
  | @goesOn start m rest found _ ih =>
    cases rest with
    | error => cases done
    | ok more =>
      cases done
      obtain ⟨input, behind, cuts⟩ := orderly.execAt found
      obtain ⟨_, past, _⟩ := resumesBehind orderly found
      exact .next input (Nat.le_trans order behind) cuts (ih past rfl)

def lastStop (lastEnd : Nat) (ms : List Match) : Nat := (ms.getLast?.map Match.stop).getD lastEnd

def Apart : Nat → List Match → Prop
  | _, [] => True
  | lastEnd, m :: more => lastEnd ≤ m.start ∧ Apart m.stop more

structure Overlap (lastEnd : Nat) (front : List Match) (m : Match) : Prop where
  apart : Apart lastEnd front
  early : m.start < lastStop lastEnd front

theorem lastStopNext (lastEnd : Nat) (m : Match) (more : List Match) : lastStop lastEnd (m :: more) = lastStop m.stop more := by
  rw [lastStop, lastStop, List.getLast?_cons]
  cases more.getLast? <;> rfl

theorem Overlap.nil {lastEnd : Nat} (early : m.start < lastEnd) : Overlap lastEnd [] m := ⟨trivial, early⟩

theorem Overlap.cons {lastEnd : Nat} {n : Match} {front : List Match} (behind : lastEnd ≤ n.start)
    (overlap : Overlap n.stop front m) : Overlap lastEnd (n :: front) m :=
  ⟨⟨behind, overlap.apart⟩, by rw [lastStopNext]; exact overlap.early⟩

theorem apartOrNot (lastEnd : Nat) (ms : List Match) :
    Apart lastEnd ms ∨ ∃ front m more, ms = front ++ m :: more ∧ Overlap lastEnd front m := by
  induction ms generalizing lastEnd with
  | nil => exact .inl trivial
  | cons m more ih =>
    by_cases behind : lastEnd ≤ m.start
    · obtain apart | ⟨front, n, others, rfl, overlap⟩ := ih m.stop
      · exact .inl ⟨behind, apart⟩
      · exact .inr ⟨m :: front, n, others, rfl, overlap.cons behind⟩
    · exact .inr ⟨[], m, more, rfl, .nil (Nat.lt_of_not_le behind)⟩

theorem inOrderApart {lastEnd : Nat} {ms : List Match} (each : ∀ m ∈ ms, m.input = subject ∧ subject.Cuts m.range)
    (apart : Apart lastEnd ms) : InOrder subject lastEnd ms := by
  induction ms generalizing lastEnd with
  | nil => exact .none lastEnd
  | cons m more ih =>
    obtain ⟨⟨input, cuts⟩, others⟩ := List.forall_mem_cons.mp each
    exact .next input apart.1 cuts (ih others apart.2)

theorem InOrder.apart {lastEnd : Nat} {ms : List Match} (inOrder : InOrder subject lastEnd ms) : Apart lastEnd ms := by
  induction inOrder with
  | none => trivial
  | next _ behind _ _ ih => exact ⟨behind, ih⟩

theorem foundCuts {ms : List Match} (found : p.findAll subject = .ok ms) :
    ∀ m ∈ ms, m.input = subject ∧ subject.Cuts m.range :=
  foundAll (fun searched => by
    obtain ⟨input, cuts, _⟩ := Pattern.execAtCuts searched
    exact ⟨input, cuts⟩) found

theorem foundInOrder (orderly : p.Orderly subject) {ms : List Match} (found : p.findAll subject = .ok ms) :
    InOrder subject 0 ms :=
  traceInOrder orderly (traceAll orderly) (Nat.le_refl 0) found

def Silent (p : Pattern) (subject : Text) (first last : Nat) : Prop :=
  ∀ place, first ≤ place → place < last → ¬ p.MatchesAt subject place

structure Complete (p : Pattern) (subject : Text) (start : Nat) (ms : List Match) : Prop where
  count : ms.length ≤ subject.placesFrom start
  inside : ∀ m ∈ ms, m.input = subject ∧ subject.Cuts m.range
  behind : ∀ m ∈ ms, start ≤ m.start
  ascending : (ms.map Match.start).Pairwise (· < ·)
  apart : ms.IsChain fun a b => a.stop ≤ b.start
  silentBefore : ∀ m ∈ ms.head?, Silent p subject start m.start
  silentBetween : ms.IsChain fun a b => Silent p subject a.resume b.start
  silentBehind : ∀ place, (ms.getLast?.map Match.resume).getD start ≤ place → ¬ p.MatchesAt subject place

theorem silentToFound (leftmost : p.Leftmost subject) (here : subject.IsPlace start)
    (found : p.searcher subject start = .ok (some m)) : Silent p subject start m.start := by
  obtain ⟨_, groups, rfl, searched, _⟩ := Pattern.execAtFound found
  rw [Text.boundaryOfPlace here] at searched
  exact fun place => leftmost.nearest here searched

theorem silentWithout (leftmost : p.Leftmost subject) (at_ : subject.IsPlace start ∨ subject.size < start)
    (none : p.searcher subject start = .ok none) {place : Nat} (behind : start ≤ place) :
    ¬ p.MatchesAt subject place := by
  rcases at_ with here | beyond
  · rw [Pattern.searcher, Pattern.execAtInside (Text.placeInside here), Text.boundaryOfPlace here] at none
    split at none <;> try contradiction
    · rename_i searched
      exact leftmost.absent here searched behind
    · cases none
  · rintro ⟨at_, _⟩
    have inside := Text.placeInside at_
    omega

theorem traceComplete (leftmost : p.Leftmost subject) {result : Except Failure (List Match)}
    (trace : Trace (p.searcher subject) start result) (at_ : subject.IsPlace start ∨ subject.size < start)
    {ms : List Match} (done : result = .ok ms) : Complete p subject start ms := by
  induction trace generalizing ms with
  | stops none =>
    cases done
    exact ⟨Nat.zero_le _, by simp, by simp, .nil, .nil, by simp, .nil, fun place => silentWithout leftmost at_ none⟩
  | fails => cases done
  | @goesOn start m rest found _ ih =>
    cases rest with
    | error => cases done
    | ok more =>
      cases done
      have here := foundAtPlace at_ found
      have fewer := fewerPlaces leftmost.toOrderly here found
      obtain ⟨input, behind, cuts⟩ := leftmost.toOrderly.execAt found
      obtain ⟨ahead, past, next⟩ := resumesBehind leftmost.toOrderly found
      have tail := ih next rfl
      have later : ∀ n ∈ more, m.resume ≤ n.start := tail.behind
      have head : ∀ n ∈ more.head?, m.resume ≤ n.start := fun n mem => later n (List.mem_of_mem_head? mem)
      constructor
      · have count := tail.count
        simp only [List.length_cons]
        omega
      · exact List.forall_mem_cons.mpr ⟨⟨input, cuts⟩, tail.inside⟩
      · refine List.forall_mem_cons.mpr ⟨behind, fun n mem => ?_⟩
        exact Nat.le_trans behind (Nat.le_of_lt (Nat.lt_of_lt_of_le ahead (later n mem)))
      · rw [List.map_cons, List.pairwise_cons]
        refine ⟨fun place mem => ?_, tail.ascending⟩
        obtain ⟨n, listed, rfl⟩ := List.mem_map.mp mem
        exact Nat.lt_of_lt_of_le ahead (later n listed)
      · exact List.isChain_cons.mpr ⟨fun n mem => Nat.le_trans past (head n mem), tail.apart⟩
      · rintro n ⟨⟩
        exact silentToFound leftmost here found
      · exact List.isChain_cons.mpr ⟨tail.silentBefore, tail.silentBetween⟩
      · have silent := tail.silentBehind
        rw [List.getLast?_cons]
        cases last : more.getLast? with
        | none => simpa [last] using silent
        | some n => simpa [last] using silent

end Iteration

theorem Pattern.findIsFirst {p : Pattern} {subject : Text} {ms : List Match} (found : p.findAll subject = .ok ms) :
    p.find subject = .ok ms.head? := by
  obtain ⟨searched, rfl⟩ | ⟨m, rest, searched, _, rfl⟩ := Iteration.matchesFromFound found
  · exact searched
  · exact searched

/-- Going through all matches ends by itself, unless a search fails: with at most one match more than
characters, in order and apart, each called on with its ordinal, and with no match left out. -/
theorem allMatchesInOrder {p : Pattern} {subject : Text} (leftmost : p.Leftmost subject) :
    (∀ result, Iteration.Trace (p.searcher subject) 0 result ↔ result = p.findAll subject) ∧
      ((∃ place e, p.execAt subject place false = .error e ∧ p.findAll subject = .error e) ∨
        ∃ ms, p.findAll subject = .ok ms ∧ ms.length ≤ subject.length + 1 ∧
          Iteration.Complete p subject 0 ms ∧
          ∀ {α : Type} (a : α) (step : α → Match → Nat → Text → α), p.forEachMatch subject a step =
            .ok ((ms.mapIdx fun ordinal m => (ordinal, m)).foldl (fun a (ordinal, m) => step a m ordinal subject) a)) := by
  have start : subject.IsPlace 0 ∨ subject.size < 0 := .inl (Text.placeAtStart subject)
  have trace := Iteration.traceAll leftmost.toOrderly
  refine ⟨fun result => ⟨fun other => Iteration.traceSame other trace, fun same => same ▸ trace⟩, ?_⟩
  cases result : p.findAll subject with
  | error e =>
    obtain ⟨place, failed⟩ := Iteration.traceFails trace result
    exact .inl ⟨place, e, failed, rfl⟩
  | ok ms =>
    have complete := Iteration.traceComplete leftmost trace start result
    refine .inr ⟨ms, rfl, ?_, complete, fun a step => ?_⟩
    · have count := complete.count
      rwa [Text.placesFromStart] at count
    · rw [Pattern.forEachMatch, result, List.mapIdx_eq_zipIdx_map, List.foldl_map]
      rfl

theorem emptyMatchBehindAnother :
    ∃ p, Pattern.ofNative ['x', '*'] .empty = .ok p ∧ p.Leftmost ['a', 'x', 'é'] ∧
      ∃ ms, p.findAll ['a', 'x', 'é'] = .ok ms ∧ ms.map Match.range = [⟨0, 0⟩, ⟨1, 2⟩, ⟨2, 2⟩, ⟨4, 4⟩] ∧
        Iteration.Complete p ['a', 'x', 'é'] 0 ms := by
  have facts : (Pattern.ofNative ['x', '*'] .empty).toOption.map (fun p =>
      (p.program.isSteady, (p.findAll ['a', 'x', 'é']).toOption.map fun ms => ms.map Match.range)) =
        some (true, some [⟨0, 0⟩, ⟨1, 2⟩, ⟨2, 2⟩, ⟨4, 4⟩]) := by
    decide +kernel
  cases built : Pattern.ofNative ['x', '*'] .empty with
  | error e =>
    rw [built] at facts
    cases facts
  | ok p =>
    rw [built] at facts
    obtain ⟨steady, found⟩ := Prod.mk.inj (Option.some.inj facts)
    have leftmost := p.leftmost steady ['a', 'x', 'é']
    obtain ⟨_, ⟨_, e, _, failed⟩ | ⟨ms, all, _, complete, _⟩⟩ := allMatchesInOrder leftmost
    · rw [failed] at found
      cases found
    · rw [all] at found
      exact ⟨p, rfl, leftmost, ms, all, Option.some.inj found, complete⟩

end ExtendedPattern
