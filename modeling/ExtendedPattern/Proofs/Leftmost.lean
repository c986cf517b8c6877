import ExtendedPattern.Proofs.SearchSpans

/-! The engine finds the leftmost match, wherever its search starts. An attempt that ends within its
budget ends in the same way with a greater one, and no attempt knows where the search began unless
its plan asks; so two searches agree from the later start on. -/
namespace ExtendedPattern
open Text (size)
namespace Engine

mutual

def Plan.floats : Plan → Bool
  | .seq items => allFloat items
  | .alt branches => allFloat branches
  | .capture _ body => body.floats
  | .optional _ body => body.floats
  | .loop _ _ body => body.floats
  | .counted _ _ _ body => body.floats
  | .guarded _ _ _ body => body.floats
  | .look _ _ body => body.floats
  | .atomic body => body.floats
  | .searchStart => false
  | _ => true

def Plan.allFloat : List Plan → Bool
  | [] => true
  | p :: rest => p.floats && allFloat rest

end

namespace Backtrack

def Outcome.Lifts (n k : Nat) : Outcome → Outcome → Prop
  | .found s budget, other => budget ≤ n ∧ other = .found s (budget + k)
  | .failed budget, other => budget ≤ n ∧ other = .failed (budget + k)
  | .exhausted, _ => True

def Goal.Lifts (n k : Nat) (goal other : Goal) : Prop :=
  ∀ s budget, budget ≤ n → (goal s budget).Lifts n k (other s (budget + k))

def Move.Lifts (move other : Move) : Prop :=
  ∀ ⦃n k s budget goal last⦄, budget ≤ n → Goal.Lifts n k goal last →
    (move s budget goal).Lifts n k (other s (budget + k) last)

variable {n k budget : Nat} {s : State}

theorem foundLifts : Goal.Lifts n k .found .found := fun _ _ within => ⟨within, rfl⟩

theorem failedLifts (within : budget ≤ n) : (Outcome.failed budget).Lifts n k (.failed (budget + k)) :=
  ⟨within, rfl⟩

theorem orElseLifts {o other : Outcome} {next last : Nat → Outcome} (first : o.Lifts n k other)
    (second : ∀ budget, budget ≤ n → (next budget).Lifts n k (last (budget + k))) :
    (o.orElse next).Lifts n k (other.orElse last) := by
  cases o with
  | found => obtain ⟨within, rfl⟩ := first; exact ⟨within, rfl⟩
  | exhausted => trivial
  | failed budget =>
    obtain ⟨within, rfl⟩ := first
    cases budget with
    | zero => trivial
    | succ budget =>
      rw [Nat.add_right_comm]
      exact second budget (by omega)

theorem eitherLifts {greedy : Bool} {stay leave stay' leave' : Nat → Outcome} (within : budget ≤ n)
    (first : ∀ budget, budget ≤ n → (stay budget).Lifts n k (stay' (budget + k)))
    (second : ∀ budget, budget ≤ n → (leave budget).Lifts n k (leave' (budget + k))) :
    (either greedy stay leave budget).Lifts n k (either greedy stay' leave' (budget + k)) := by
  cases greedy with
  | true => exact orElseLifts (first budget within) second
  | false => exact orElseLifts (second budget within) first

def Outcome.refuse (o : Outcome) (next : Nat → Outcome) : Outcome :=
  match o with
  | .found _ budget => .failed budget
  | o => o.orElse next

theorem runRejects (f : Frame) (back : Nat) (body : Plan) (s : State) (budget : Nat) (goal : Goal) :
    run f (.look back true body) s budget goal =
      match s.here.back? back with
      | none => (Outcome.failed budget).refuse (goal s)
      | some origin => (run f body { s with here := origin } budget .found).refuse (goal s) := by
  rw [run]
  cases s.here.back? back <;> rfl

theorem refuseLifts {o other : Outcome} {next last : Nat → Outcome} (first : o.Lifts n k other)
    (second : ∀ budget, budget ≤ n → (next budget).Lifts n k (last (budget + k))) :
    (o.refuse next).Lifts n k (other.refuse last) := by
  cases o with
  | found u left => obtain ⟨within, rfl⟩ := first; exact failedLifts within
  | failed left => obtain ⟨within, rfl⟩ := first; exact orElseLifts (failedLifts within) second
  | exhausted => trivial

variable {body other : Move}

theorem Move.Lifts.goesOn (lifts : body.Lifts other) {again last : Move} (both : again.Lifts last) {goal goal' : Goal}
    (asked : Goal.Lifts n k goal goal') (s : State) (budget : Nat) (within : budget ≤ n) :
    (body s budget fun s budget => again s budget goal).Lifts n k
      (other s (budget + k) fun s budget => last s budget goal') :=
  lifts within fun _ _ within => both within asked

theorem roundsLift (lifts : body.Lifts other) (greedy : Bool) (fuel : Nat) :
    Move.Lifts (rounds body greedy fuel) (rounds other greedy fuel) := by
  induction fuel with
  | zero => exact fun n k s budget goal last within both => both s budget within
  | succ fuel ih =>
    intro n k s budget goal last within both
    exact eitherLifts within (lifts.goesOn ih both s) (both s)

theorem countedRoundsLift (lifts : body.Lifts other) (low : Nat) (high : Option Nat) (greedy : Bool)
    (fuel round : Nat) :
    Move.Lifts (countedRounds body low high greedy fuel round) (countedRounds other low high greedy fuel round) := by
  induction fuel generalizing round with
  | zero => exact fun n k s budget goal last within both => both s budget within
  | succ fuel ih =>
    intro n k s budget goal last within both
    have stay := lifts.goesOn (ih (round + 1)) both s
    simp only [countedRounds]
    split
    · exact both s budget within
    split
    · exact stay budget within
    · exact eitherLifts within stay (both s)

theorem guardedRoundsLift (lifts : body.Lifts other) (id low : Nat) (greedy : Bool) (fuel round : Nat) :
    Move.Lifts (guardedRounds body id low greedy fuel round) (guardedRounds other id low greedy fuel round) := by
  induction fuel generalizing round with
  | zero => exact fun n k s budget goal last within both => failedLifts within
  | succ fuel ih =>
    intro n k s budget goal last within both
    have stay := lifts.goesOn (ih (round + 1)) both
    simp only [guardedRounds]
    split
    · exact failedLifts within
    split
    · exact stay s budget within
    · exact eitherLifts within (stay _) (both _)

mutual

theorem runLifts {f g : Frame} (same : f.subject = g.subject) :
    ∀ plan : Plan, plan.floats → Move.Lifts (run f plan) (run g plan)
  | .char set, _ => by
    intro n k s budget goal last within both
    simp only [run]
    split
    · split
      · exact both _ budget within
      · exact failedLifts within
    · exact failedLifts within
  | .assertion a, _ => by
    intro n k s budget goal last within both
    simp only [run]
    split
    · exact both s budget within
    · exact failedLifts within
  | .seq items, floats => by
    intro n k s budget goal last within both
    exact runSeqLifts same items floats within both
  | .alt branches, floats => by
    intro n k s budget goal last within both
    exact runAltLifts same branches floats within both
  | .capture index body, floats => by
    intro n k s budget goal last within both
    exact runLifts same body floats within fun u budget within => both _ budget within
  | .optional greedy body, floats => by
    intro n k s budget goal last within both
    simp only [run]
    exact eitherLifts within (fun budget within => runLifts same body floats within both) (both s)
  | .loop atLeastOnce greedy body, floats => by
    intro n k s budget goal last within both
    have lifts := runLifts same body floats
    simp only [run]
    split
    · exact lifts within fun u budget within => roundsLift lifts greedy _ within both
    · exact roundsLift lifts greedy _ within both
  | .counted low high greedy body, floats => by
    intro n k s budget goal last within both
    exact countedRoundsLift (runLifts same body floats) low high greedy _ 0 within both
  | .guarded id low greedy body, floats => by
    intro n k s budget goal last within both
    exact guardedRoundsLift (runLifts same body floats) id low greedy _ 0 within both
  | .look back false body, floats => by
    intro n k s budget goal last within both
    simp only [run]
    split
    · exact failedLifts within
    · exact runLifts same body floats within fun u budget within => both _ budget within
  | .look back true body, floats => by
    intro n k s budget goal last within both
    rw [runRejects, runRejects]
    cases s.here.back? back with
    | none => exact refuseLifts (failedLifts within) (both s)
    | some origin => exact refuseLifts (runLifts same body floats within foundLifts) (both s)
  | .atomic body, floats => by
    intro n k s budget goal last within both
    have tried := runLifts same body floats within (foundLifts (n := n) (k := k)) (s := s)
    simp only [run]
    generalize run f body s budget .found = trial at tried ⊢
    cases trial with
    | found u left =>
      obtain ⟨within, again⟩ := tried
      rw [again]
      exact both u left within
    | failed left =>
      obtain ⟨within, again⟩ := tried
      rw [again]
      exact failedLifts within
    | exhausted => trivial
  | .backref group, _ => by
    intro n k s budget goal last within both
    simp only [run, same]
    split
    · exact failedLifts within
    · split
      · exact both _ budget within
      · exact failedLifts within
  | .keepOut, _ => by
    intro n k s budget goal last within both
    exact both _ budget within
  | .delegate code groups, _ => by
    intro n k s budget goal last within both
    simp only [run]
    split
    · exact failedLifts within
    · exact both _ budget within

theorem runSeqLifts {f g : Frame} (same : f.subject = g.subject) :
    ∀ items : List Plan, Plan.allFloat items → Move.Lifts (runSeq f items) (runSeq g items)
  | [], _ => fun n k s budget goal last within both => both s budget within
  | p :: rest, float => by
    intro n k s budget goal last within both
    simp only [Plan.allFloat, Bool.and_eq_true] at float
    exact runLifts same p float.1 within fun u budget within => runSeqLifts same rest float.2 within both

theorem runAltLifts {f g : Frame} (same : f.subject = g.subject) :
    ∀ branches : List Plan, Plan.allFloat branches → Move.Lifts (runAlt f branches) (runAlt g branches)
  | [], _ => fun n k s budget goal last within both => failedLifts within
  | [p], float => by
    intro n k s budget goal last within both
    simp only [Plan.allFloat, Bool.and_eq_true] at float
    exact runLifts same p float.1 within both
  | p :: q :: rest, float => by
    intro n k s budget goal last within both
    rw [Plan.allFloat, Bool.and_eq_true] at float
    exact orElseLifts (runLifts same p float.1 within both)
      fun budget within => runAltLifts same (q :: rest) float.2 within both

end

variable {f g : Frame} {plan : Plan} {blank : Cursor → State}

theorem attemptLifts (same : f.subject = g.subject) (floats : plan.floats) (c : Cursor) (within : budget ≤ n) :
    (run f (.capture 0 plan) (blank c) budget .found).Lifts n k
      (run g (.capture 0 plan) (blank c) (budget + k) .found) :=
  runLifts same (.capture 0 plan) floats within foundLifts

theorem searchLifts (same : f.subject = g.subject) (floats : plan.floats) (after before : Text) (offset : Nat)
    (within : budget ≤ n) :
    (search f plan blank after before offset budget).Lifts n k
      (search g plan blank after before offset (budget + k)) := by
  induction after generalizing before offset budget with
  | nil => exact orElseLifts (attemptLifts same floats _ within) fun budget within => failedLifts within
  | cons c rest ih =>
    exact orElseLifts (attemptLifts same floats _ within) fun budget within => ih _ _ within

theorem searchComes (floats : plan.floats) (middle rest before : Text) (offset budget : Nat) :
    search f plan blank (middle ++ rest) before offset budget = .exhausted ∨
      (∃ c steps s left, search f plan blank (middle ++ rest) before offset budget = .found s left ∧
        c.offset < offset + size middle ∧ run f (.capture 0 plan) (blank c) steps .found = .found s left) ∨
      ∃ less, less ≤ budget ∧ search f plan blank (middle ++ rest) before offset budget =
        search f plan blank rest (middle.reverse ++ before) (offset + size middle) less := by
  induction middle generalizing before offset budget with
  | nil => exact .inr (.inr ⟨budget, Nat.le_refl _, rfl⟩)
  | cons c middle ih =>
    -- With the same budget on both sides this says that an attempt that fails leaves no more than it got.
    have spends := @attemptLifts _ 0 _ f f plan blank rfl floats ⟨before, c :: (middle ++ rest), offset⟩
      (Nat.le_refl budget)
    have positive := c.utf8Size_pos
    rw [List.cons_append, search]
    cases tried : run f (.capture 0 plan) (blank ⟨before, c :: (middle ++ rest), offset⟩) budget .found with
    | exhausted => exact .inl rfl
    | found s left =>
      refine .inr (.inl ⟨_, budget, s, left, rfl, ?_, tried⟩)
      simp only [size]
      omega
    | failed left =>
      rw [tried] at spends
      have less : left ≤ budget := spends.1
      cases left with
      | zero => exact .inl rfl
      | succ left =>
        rcases ih (c :: before) (offset + c.utf8Size) left with exhausted | ⟨d, more, s, left, found, early, again⟩ |
          ⟨fewer, within, comes⟩
        · exact .inl exhausted
        · refine .inr (.inl ⟨d, more, s, left, found, ?_, again⟩)
          simp only [size]
          omega
        · refine .inr (.inr ⟨fewer, by omega, comes.trans ?_⟩)
          simp [size, Nat.add_assoc]

end Backtrack

namespace Program

def floats (p : Program) : Bool :=
  match p.body with
  | .lockstep _ => true
  | .trial plan _ => plan.floats

def isSteady (p : Program) : Bool := p.keepsStart && p.floats

theorem scanComes (code : Array Step) (groups : Nat) (middle rest before : Text) (offset : Nat) :
    (∃ start arrival, scan code groups (middle ++ rest) before offset = some (start, arrival) ∧
        start < offset + size middle) ∨
      scan code groups (middle ++ rest) before offset =
        scan code groups rest (middle.reverse ++ before) (offset + size middle) := by
  induction middle generalizing before offset with
  | nil => exact .inr rfl
  | cons c middle ih =>
    have positive := c.utf8Size_pos
    rw [List.cons_append, scan]
    cases Lockstep.run code groups ⟨before, c :: (middle ++ rest), offset⟩ with
    | some arrival =>
      refine .inl ⟨offset, arrival, rfl, ?_⟩
      simp only [size]
      omega
    | none =>
      rcases ih (c :: before) (offset + c.utf8Size) with ⟨start, arrival, found, early⟩ | comes
      · refine .inl ⟨start, arrival, found, ?_⟩
        simp only [size]
        omega
      · refine .inr (comes.trans ?_)
        simp [size, Nat.add_assoc]

def startOf (groups : Groups) : Nat := ((groups[0]?).join.getD (Span.mk 0 0)).start

theorem searchAgain {p : Program} (steady : p.isSteady) {before middle after : Text} {result : Option Groups}
    (found : p.search (before ++ (middle ++ after)) (size before) = .ok result)
    (later : ∀ groups ∈ result, size before + size middle ≤ startOf groups) :
    p.search (before ++ (middle ++ after)) (size (before ++ middle)) = .ok result := by
  simp only [isSteady, keepsStart, floats, Bool.and_eq_true, decide_eq_true_eq] at steady
  obtain ⟨⟨present, keeps⟩, floats⟩ := steady
  rw [search, Cursor.ofOffsetSize] at found
  have there := Cursor.ofOffsetSize (before ++ middle) after
  rw [List.append_assoc, List.reverse_append, Text.sizeAppend] at there
  rw [search, Text.sizeAppend, there]
  cases body : p.body with
  | lockstep code =>
    simp only [body] at found ⊢
    rcases scanComes code p.groups middle after before.reverse (size before) with
      ⟨start, arrival, scanned, early⟩ | comes
    · rw [scanned] at found
      have ahead := later _ (Except.ok.inj found).symm
      simp only [startOf, List.getElem?_cons_zero, Option.join_some, Option.getD_some] at ahead
      omega
    · rw [← comes]
      exact found
  | trial plan guards =>
    simp only [body] at keeps floats found ⊢
    rcases @Backtrack.searchComes ⟨before ++ (middle ++ after), size before⟩ plan
        (fun c => ⟨c, Slots.blank p.groups, List.replicate guards none⟩) floats middle after
        before.reverse (size before) p.backtrackLimit with
      exhausted | ⟨c, steps, s, left, scanned, early, attempt⟩ | ⟨less, within, comes⟩
    · rw [exhausted] at found
      cases found
    · rw [scanned] at found
      obtain ⟨_, _, more, _, _, same⟩ := attemptSpan present (Backtrack.runGrows _ plan fun _ => keeps) id attempt
      have ahead := later _ (Except.ok.inj found).symm
      rw [same] at ahead
      simp only [startCapped, startOf, List.getElem?_cons_zero, Option.join_some, Option.getD_some] at ahead
      omega
    · obtain ⟨more, same⟩ := Nat.exists_eq_add_of_le within
      have lifts := @Backtrack.searchLifts less more less ⟨before ++ (middle ++ after), size before⟩
        ⟨before ++ (middle ++ after), size before + size middle⟩ plan
        (fun c => ⟨c, Slots.blank p.groups, List.replicate guards none⟩) rfl floats after
        (middle.reverse ++ before.reverse) (size before + size middle) (Nat.le_refl less)
      rw [comes] at found
      rw [same]
      generalize Backtrack.search ⟨before ++ (middle ++ after), size before⟩ plan _ after _ _ less = first
        at found lifts
      cases first with
      | found s left => rw [lifts.2]; exact found
      | failed left => rw [lifts.2]; exact found
      | exhausted => cases found

end Program
end Engine

namespace Pattern

/-- Searches that start farther on, but not behind the match, find the same. -/
structure Steady (p : Pattern) (subject : Text) : Prop extends p.Orderly subject where
  again : ∀ {start place result}, subject.IsPlace start → subject.IsPlace place → start ≤ place →
    p.nativeSearch subject start = .ok result →
    (∀ groups ∈ result, place ≤ (Match.mk subject groups p.names).start) →
    p.nativeSearch subject place = .ok result

theorem steady {p : Pattern} (steady : p.program.isSteady) (subject : Text) : p.Steady subject where
  toOrderly := by
    simp only [Engine.Program.isSteady, Bool.and_eq_true] at steady
    exact orderly steady.1 subject
  again := by
    intro start place result fromPlace toPlace order found later
    obtain ⟨before, middle, after, rfl, rfl, rfl⟩ := Text.placesOrdered fromPlace toPlace order
    have ahead : ∀ groups ∈ result, size before + size middle ≤ Engine.Program.startOf groups := by
      rw [← Text.sizeAppend]
      exact later
    rw [nativeSearch, Engine.Program.searchAgain steady (searchedBy found) ahead]
    rfl

def MatchesAt (p : Pattern) (subject : Text) (place : Nat) : Prop :=
  subject.IsPlace place ∧ ∃ m, p.execAt subject place true = .ok (some m)

structure Leftmost (p : Pattern) (subject : Text) : Prop extends p.Orderly subject where
  nearest : ∀ {start groups place}, subject.IsPlace start → p.nativeSearch subject start = .ok (some groups) →
    start ≤ place → place < (Match.mk subject groups p.names).start → ¬ p.MatchesAt subject place
  absent : ∀ {start place}, subject.IsPlace start → p.nativeSearch subject start = .ok none →
    start ≤ place → ¬ p.MatchesAt subject place

theorem Steady.leftmost {p : Pattern} {subject : Text} (steady : p.Steady subject) : p.Leftmost subject where
  toOrderly := steady.toOrderly
  nearest := by
    rintro start groups place fromPlace found behind before ⟨at_, m, pinned⟩
    obtain ⟨_, others, rfl, searched, start⟩ := execAtFound pinned
    rw [Text.boundaryOfPlace at_] at searched start
    have later : ∀ g ∈ some groups, place ≤ (Match.mk subject g p.names).start := by
      rintro g ⟨⟩
      exact Nat.le_of_lt before
    have same := Except.ok.inj ((steady.again fromPlace at_ behind found later).symm.trans searched)
    cases same
    exact absurd (start rfl) (Nat.ne_of_gt before)
  absent := by
    rintro start place fromPlace found behind ⟨at_, m, pinned⟩
    obtain ⟨_, others, rfl, searched, _⟩ := execAtFound pinned
    rw [Text.boundaryOfPlace at_] at searched
    have same := (steady.again fromPlace at_ behind found (by simp)).symm.trans searched
    cases same

namespace Steady
variable {p : Pattern} {subject : Text} {start stop : Nat}

theorem matchesThere (steady : p.Steady subject) (place : subject.IsPlace start) {groups : Engine.Program.Groups}
    (found : p.nativeSearch subject start = .ok (some groups)) :
    start ≤ (Match.mk subject groups p.names).start ∧ p.MatchesAt subject (Match.mk subject groups p.names).start := by
  obtain ⟨span, more, rfl, behind, cuts⟩ := steady.spans place found
  have again := steady.again place cuts.start behind found (by rintro _ ⟨⟩; exact Nat.le_refl span.start)
  refine ⟨behind, cuts.start, ⟨subject, some span :: more, p.names⟩, ?_⟩
  change p.execAt subject span.start true = _
  rw [execAtInside (Text.placeInside cuts.start), Text.boundaryOfPlace cuts.start, again]
  simp [Match.start, Match.range, Match.groupSpan?]

theorem skips (steady : p.Steady subject) (answers : ∃ result, p.nativeSearch subject start = .ok result)
    (place : subject.IsPlace start) (next : subject.IsPlace stop) (ordered : start ≤ stop)
    (free : ∀ {q}, start ≤ q → q < stop → ¬ p.MatchesAt subject q) :
    p.execAt subject stop false = p.execAt subject start false := by
  obtain ⟨result, found⟩ := answers
  have later : ∀ groups ∈ result, stop ≤ (Match.mk subject groups p.names).start := by
    rintro groups ⟨⟩
    obtain ⟨behind, stands⟩ := steady.matchesThere place found
    exact Nat.le_of_not_lt fun before => free behind before stands
  rw [execAtInside (Text.placeInside place), execAtInside (Text.placeInside next), Text.boundaryOfPlace place,
    Text.boundaryOfPlace next, found, steady.again place next ordered found later]
  cases result <;> rfl

end Steady

theorem leftmost {p : Pattern} (steady : p.program.isSteady) (subject : Text) : p.Leftmost subject :=
  (p.steady steady subject).leftmost

end Pattern
end ExtendedPattern
