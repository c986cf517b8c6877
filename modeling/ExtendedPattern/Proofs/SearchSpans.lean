import ExtendedPattern.Proofs.MarkedPlaces
import ExtendedPattern.Proofs.CharacterSearch

/-! Where the engine finds matches. A match lies at or behind the place where its search started,
and it ends at or behind its start: an attempt takes characters only forwards, and what looks
back returns. The one exception is a plan that marks the start anew. -/
namespace ExtendedPattern
open Text (size)
namespace Engine

structure Cursor.Ahead (c d : Cursor) : Prop where
  takes : ∃ taken, c.after = taken ++ d.after ∧ d.before = taken.reverse ++ c.before ∧
    d.offset = c.offset + size taken

namespace Cursor.Ahead
variable {c d e : Cursor}

theorem refl (c : Cursor) : c.Ahead c := ⟨[], by simp [size]⟩

theorem trans (first : c.Ahead d) (second : d.Ahead e) : c.Ahead e := by
  obtain ⟨taken, after, before, offset⟩ := first
  obtain ⟨more, after', before', offset'⟩ := second
  refine ⟨taken ++ more, ?_, ?_, ?_⟩
  · rw [after, after', List.append_assoc]
  · rw [before', before, List.reverse_append, List.append_assoc]
  · rw [offset', offset, Text.sizeAppend, Nat.add_assoc]

theorem order (ahead : c.Ahead d) : c.offset ≤ d.offset := by
  obtain ⟨taken, _, _, offset⟩ := ahead
  omega

theorem step (before rest : Text) (d : Char) (offset : Nat) :
    Ahead ⟨before, d :: rest, offset⟩ ⟨d :: before, rest, offset + d.utf8Size⟩ :=
  ⟨[d], by simp [size]⟩

theorem next {a : Char} (taken : c.next? = some (a, d)) : c.Ahead d := by
  obtain ⟨before, after, offset⟩ := c
  cases after with
  | nil => contradiction
  | cons b rest =>
    cases Option.some.inj taken
    exact step before rest _ offset

theorem skip {t : Text} (skipped : Backtrack.skipText t c = some d) : c.Ahead d := by
  induction t generalizing c with
  | nil =>
    cases Option.some.inj skipped
    exact refl _
  | cons a t ih =>
    simp only [Backtrack.skipText] at skipped
    split at skipped <;> try contradiction
    rename_i taken
    split at skipped <;> try contradiction
    exact (next taken).trans (ih skipped)

theorem on {text : Text} (ahead : c.Ahead d) (on : c.On text) : d.On text := by
  obtain ⟨taken, follows, behind, offset⟩ := ahead
  refine ⟨?_, ?_⟩
  · rw [behind, List.reverse_append, List.reverse_reverse, List.append_assoc, ← follows]
    exact on.whole
  · rw [behind, List.reverse_append, List.reverse_reverse, Text.sizeAppend, offset, on.offset]

theorem place {before after : Text} (ahead : Ahead ⟨before.reverse, after, size before⟩ d) :
    size before ≤ d.offset ∧ Text.IsPlace (before ++ after) d.offset := by
  obtain ⟨taken, follows, _, offset⟩ := ahead
  dsimp only at follows offset
  refine ⟨by omega, before ++ taken, d.after, ?_, ?_⟩
  · rw [follows, List.append_assoc]
  · rw [offset, Text.sizeAppend]

end Cursor.Ahead

namespace Lockstep

theorem bestAhead {stopped : Option Thread} {best : Option Arrival} {here : Cursor} {arrival : Arrival}
    (found : (match stopped with
      | some t => some ⟨t.slots, here⟩
      | none => best) = some arrival) : best = some arrival ∨ here.Ahead arrival.stop := by
  cases stopped with
  | none => exact .inl found
  | some t =>
    cases Option.some.inj found
    exact .inr (.refl here)

theorem raceAhead {code : Array Step} {after before : Text} {offset : Nat} {threads : List Thread}
    {best : Option Arrival} {arrival : Arrival} (arrives : race code after before offset threads best = some arrival) :
    best = some arrival ∨ Cursor.Ahead ⟨before, after, offset⟩ arrival.stop := by
  induction after generalizing before offset threads best with
  | nil =>
    simp only [race] at arrives
    split at arrives
    · cases Option.some.inj arrives
      exact .inr (.refl _)
    · exact .inl arrives
  | cons c rest ih =>
    simp only [race] at arrives
    split at arrives
    · exact bestAhead arrives
    · rcases ih arrives with same | ahead
      · exact bestAhead same
      · exact .inr ((Cursor.Ahead.step before rest c offset).trans ahead)

theorem runAhead {code : Array Step} {groups : Nat} {here : Cursor} {arrival : Arrival}
    (arrives : run code groups here = some arrival) : here.Ahead arrival.stop := by
  rcases raceAhead arrives with none | ahead
  · contradiction
  · exact ahead

end Lockstep

mutual

def Plan.keepsStart : Plan → Bool
  | .seq items => keepStart items
  | .alt branches => keepStart branches
  | .capture index body => index != 0 && body.keepsStart
  | .optional _ body => body.keepsStart
  | .loop _ _ body => body.keepsStart
  | .counted _ _ _ body => body.keepsStart
  | .guarded _ _ _ body => body.keepsStart
  | .look _ _ body => body.keepsStart
  | .atomic body => body.keepsStart
  | .keepOut => false
  | .delegate _ groups => groups.all (· != 0)
  | _ => true

def Plan.keepStart : List Plan → Bool
  | [] => true
  | p :: rest => p.keepsStart && keepStart rest

end

namespace Backtrack

structure State.Grows (pinned : Bool) (s u : State) : Prop where
  ahead : s.here.Ahead u.here
  length : u.slots.length = s.slots.length
  on : ∀ {text}, s.On text → u.On text
  start : pinned → u.slots[0]? = s.slots[0]?

namespace State.Grows
variable {pinned : Bool} {s u v : State}

theorem refl (s : State) : s.Grows pinned s := ⟨.refl _, rfl, id, fun _ => rfl⟩

theorem trans (first : s.Grows pinned u) (second : u.Grows pinned v) : s.Grows pinned v :=
  ⟨first.ahead.trans second.ahead, second.length.trans first.length, fun on => second.on (first.on on),
    fun on => (second.start on).trans (first.start on)⟩

theorem move {c : Cursor} (ahead : s.here.Ahead c) : s.Grows pinned { s with here := c } :=
  ⟨ahead, rfl, fun on => ⟨ahead.on on.here, on.marks⟩, fun _ => rfl⟩

theorem mark (s : State) {slot : Nat} (other : pinned → slot ≠ 0) : s.Grows pinned (s.mark slot) := by
  refine ⟨.refl _, by simp [State.mark], fun on => on.mark slot, fun on => ?_⟩
  simp [State.mark, other on]

end State.Grows

theorem adoptLength (groups : List Nat) (inner outer : Slots) : (adopt groups inner outer).length = outer.length := by
  induction groups generalizing outer with
  | nil => rfl
  | cons g groups ih => exact (ih _).trans (by simp)

theorem adoptKeeps {groups : List Nat} (others : groups.all (· != 0)) (inner outer : Slots) :
    (adopt groups inner outer)[0]? = outer[0]? := by
  induction groups generalizing outer with
  | nil => rfl
  | cons g groups ih =>
    simp only [List.all_cons, Bool.and_eq_true, bne_iff_ne] at others
    have start := ih others.2 ((outer.set (2 * g) (inner.get (2 * g))).set (2 * g + 1) (inner.get (2 * g + 1)))
    have apart : 2 * g ≠ 0 := by omega
    refine start.trans ?_
    simp [apart]

theorem foundByEither {o : Outcome} {other : Nat → Outcome} {t : State} {left : Nat}
    (found : o.orElse other = .found t left) : o = .found t left ∨ ∃ budget, other budget = .found t left := by
  cases o with
  | failed budget =>
    cases budget with
    | zero => contradiction
    | succ budget => exact .inr ⟨budget, found⟩
  | found => exact .inl found
  | exhausted => contradiction

theorem foundByChoice {greedy : Bool} {stay leave : Nat → Outcome} {budget : Nat} {t : State} {left : Nat}
    (found : either greedy stay leave budget = .found t left) :
    (∃ budget, stay budget = .found t left) ∨ ∃ budget, leave budget = .found t left := by
  cases greedy with
  | true => exact (foundByEither found).imp (fun here => ⟨_, here⟩) id
  | false => exact (foundByEither found).symm.imp id fun here => ⟨_, here⟩

def Move.Obeys (R : State → State → Prop) (move : Move) : Prop :=
  ∀ ⦃s budget goal t left⦄, move s budget goal = .found t left →
    ∃ u budget, R s u ∧ goal u budget = .found t left

section
variable {R : State → State → Prop} {body : Move}

theorem Move.Obeys.goesOn (obeys : body.Obeys R) (trans : ∀ {s u v}, R s u → R u v → R s v) {goal : Goal} {again : Move}
    (same : again.Obeys R) {s t : State} {budget left : Nat}
    (found : body s budget (fun s budget => again s budget goal) = .found t left) :
    ∃ u budget, R s u ∧ goal u budget = .found t left := by
  obtain ⟨u, budget, first, found⟩ := obeys found
  obtain ⟨v, budget, second, found⟩ := same found
  exact ⟨v, budget, trans first second, found⟩

theorem roundsObey (obeys : body.Obeys R) (refl : ∀ s, R s s) (trans : ∀ {s u v}, R s u → R u v → R s v) (greedy : Bool)
    (fuel : Nat) : Move.Obeys R (rounds body greedy fuel) := by
  induction fuel with
  | zero => exact fun s budget goal t left found => ⟨s, budget, refl s, found⟩
  | succ fuel ih =>
    intro s budget goal t left found
    rcases foundByChoice found with ⟨budget, stay⟩ | ⟨budget, leave⟩
    · exact obeys.goesOn trans ih stay
    · exact ⟨s, budget, refl s, leave⟩

end

abbrev Move.Grows (pinned : Bool) (move : Move) : Prop := move.Obeys (State.Grows pinned)

variable {pinned : Bool} {body : Move}

theorem countedRoundsGrow (grows : body.Grows pinned) (low : Nat) (high : Option Nat) (greedy : Bool) (fuel round : Nat) :
    Move.Grows pinned (countedRounds body low high greedy fuel round) := by
  induction fuel generalizing round with
  | zero => exact fun s budget goal t left found => ⟨s, budget, .refl s, found⟩
  | succ fuel ih =>
    intro s budget goal t left found
    simp only [countedRounds] at found
    split at found
    · exact ⟨s, budget, .refl s, found⟩
    split at found
    · exact grows.goesOn .trans (ih (round + 1)) found
    · rcases foundByChoice found with ⟨budget, stay⟩ | ⟨budget, leave⟩
      · exact grows.goesOn .trans (ih (round + 1)) stay
      · exact ⟨s, budget, .refl s, leave⟩

theorem guardedRoundsGrow (grows : body.Grows pinned) (id low : Nat) (greedy : Bool) (fuel round : Nat) :
    Move.Grows pinned (guardedRounds body id low greedy fuel round) := by
  induction fuel generalizing round with
  | zero => intro s budget goal t left found; contradiction
  | succ fuel ih =>
    intro s budget goal t left found
    simp only [guardedRounds] at found
    split at found <;> try contradiction
    split at found
    · exact grows.goesOn .trans (ih (round + 1)) found
    · have marked : s.Grows pinned { s with roundStarts := s.roundStarts.set id (some s.here.offset) } :=
        ⟨.refl _, rfl, fun on => ⟨on.here, on.marks⟩, fun _ => rfl⟩
      rcases foundByChoice found with ⟨budget, stay⟩ | ⟨budget, leave⟩
      · obtain ⟨u, budget, more, found⟩ := grows.goesOn .trans (ih (round + 1)) stay
        exact ⟨u, budget, marked.trans more, found⟩
      · exact ⟨_, budget, marked, leave⟩

mutual

theorem runGrows (f : Frame) : ∀ plan : Plan, (pinned → plan.keepsStart) → Move.Grows pinned (run f plan)
  | .char set, _ => by
    intro s budget goal t left found
    simp only [run] at found
    split at found <;> try contradiction
    rename_i taken
    split at found <;> try contradiction
    exact ⟨_, budget, .move (.next taken), found⟩
  | .assertion a, _ => by
    intro s budget goal t left found
    simp only [run] at found
    split at found <;> try contradiction
    exact ⟨s, budget, .refl s, found⟩
  | .seq items, keeps => by
    intro s budget goal t left found
    exact runSeqGrows f items keeps found
  | .alt branches, keeps => by
    intro s budget goal t left found
    exact runAltGrows f branches keeps found
  | .capture index body, keeps => by
    intro s budget goal t left found
    simp only [Plan.keepsStart, Bool.and_eq_true, bne_iff_ne] at keeps
    simp only [run] at found
    obtain ⟨u, budget, grows, found⟩ := runGrows f body (fun on => (keeps on).2) found
    have opened : s.Grows pinned (s.mark (2 * index)) := .mark s fun on => by
      have other := (keeps on).1
      omega
    have closed : u.Grows pinned (u.mark (2 * index + 1)) := .mark u fun _ => Nat.succ_ne_zero _
    exact ⟨_, budget, (opened.trans grows).trans closed, found⟩
  | .optional greedy body, keeps => by
    intro s budget goal t left found
    simp only [run] at found
    rcases foundByChoice found with ⟨budget, stay⟩ | ⟨budget, leave⟩
    · exact runGrows f body keeps stay
    · exact ⟨s, budget, .refl s, leave⟩
  | .loop atLeastOnce greedy body, keeps => by
    intro s budget goal t left found
    have grows := runGrows f body keeps
    simp only [run] at found
    split at found
    · exact grows.goesOn .trans (roundsObey grows .refl .trans greedy _) found
    · exact roundsObey grows .refl .trans greedy _ found
  | .counted low high greedy body, keeps => by
    intro s budget goal t left found
    exact countedRoundsGrow (runGrows f body keeps) low high greedy _ 0 found
  | .guarded id low greedy body, keeps => by
    intro s budget goal t left found
    exact guardedRoundsGrow (runGrows f body keeps) id low greedy _ 0 found
  | .look back false body, keeps => by
    intro s budget goal t left found
    simp only [run] at found
    split at found <;> try contradiction
    rename_i walked
    obtain ⟨u, budget, grows, found⟩ := runGrows f body keeps found
    have marks {text : Text} (on : s.On text) : u.slots.Within text.IsPlace :=
      (grows.on ⟨on.here.back walked, on.marks⟩).marks
    exact ⟨{ u with here := s.here }, budget, ⟨.refl _, grows.length, fun on => ⟨on.here, marks on⟩, grows.start⟩, found⟩
  | .look back true body, _ => by
    intro s budget goal t left found
    simp only [run] at found
    split at found <;> try contradiction
    rename_i refused
    rcases foundByEither found with same | ⟨budget, found⟩
    · exact absurd same (refused t left)
    · exact ⟨s, budget, .refl s, found⟩
  | .atomic body, keeps => by
    intro s budget goal t left found
    simp only [run] at found
    split at found
    · rename_i u rest tried
      obtain ⟨v, _, grows, same⟩ := runGrows f body keeps tried
      cases same
      exact ⟨u, rest, grows, found⟩
    · rename_i refused
      exact absurd found (refused t left)
  | .backref group, _ => by
    intro s budget goal t left found
    simp only [run] at found
    split at found <;> try contradiction
    split at found <;> try contradiction
    rename_i skipped
    exact ⟨_, budget, .move (.skip skipped), found⟩
  | .keepOut, keeps => by
    intro s budget goal t left found
    simp only [run] at found
    exact ⟨s.mark 0, budget, .mark s fun on => absurd (keeps on) Bool.false_ne_true, found⟩
  | .searchStart, _ => by
    intro s budget goal t left found
    simp only [run] at found
    split at found <;> try contradiction
    exact ⟨s, budget, .refl s, found⟩
  | .delegate code groups, keeps => by
    intro s budget goal t left found
    simp only [run] at found
    split at found <;> try contradiction
    rename_i arrival arrives
    have start (on : pinned) := adoptKeeps (keeps on) arrival.slots s.slots
    have ahead := Lockstep.runAhead arrives
    refine ⟨_, budget, ⟨ahead, adoptLength groups arrival.slots s.slots, fun on => ⟨ahead.on on.here, ?_⟩, start⟩, found⟩
    exact on.marks.adopt (Lockstep.runWithin on.here arrives) groups

theorem runSeqGrows (f : Frame) : ∀ items : List Plan, (pinned → Plan.keepStart items) → Move.Grows pinned (runSeq f items)
  | [], _ => fun s budget goal t left found => ⟨s, budget, .refl s, found⟩
  | p :: rest, keeps => by
    intro s budget goal t left found
    simp only [Plan.keepStart, Bool.and_eq_true] at keeps
    exact (runGrows f p fun on => (keeps on).1).goesOn .trans (runSeqGrows f rest fun on => (keeps on).2) found

theorem runAltGrows (f : Frame) : ∀ branches : List Plan, (pinned → Plan.keepStart branches) →
    Move.Grows pinned (runAlt f branches)
  | [], _ => by
    intro s budget goal t left found
    contradiction
  | [p], keeps => by
    intro s budget goal t left found
    simp only [Plan.keepStart, Bool.and_eq_true] at keeps
    exact runGrows f p (fun on => (keeps on).1) found
  | p :: q :: rest, keeps => by
    intro s budget goal t left found
    rw [Plan.keepStart, Bool.and_eq_true] at keeps
    rcases foundByEither found with here | ⟨budget, later⟩
    · exact runGrows f p (fun on => (keeps on).1) here
    · exact runAltGrows f (q :: rest) (fun on => (keeps on).2) later

end

theorem searchFinds {f : Frame} {plan : Plan} {blank : Cursor → State} {after before : Text} {offset budget : Nat}
    {s : State} {left : Nat} (found : search f plan blank after before offset budget = .found s left) :
    ∃ c budget, Cursor.Ahead ⟨before, after, offset⟩ c ∧
      run f (.capture 0 plan) (blank c) budget .found = .found s left := by
  induction after generalizing before offset budget with
  | nil =>
    rcases foundByEither found with here | ⟨_, none⟩
    · exact ⟨_, budget, .refl _, here⟩
    · contradiction
  | cons d rest ih =>
    rcases foundByEither found with here | ⟨_, later⟩
    · exact ⟨_, budget, .refl _, here⟩
    · obtain ⟨c, budget, ahead, found⟩ := ih later
      exact ⟨c, budget, (Cursor.Ahead.step before rest d offset).trans ahead, found⟩

end Backtrack

namespace Program

def keepsStart (p : Program) : Bool :=
  0 < p.groups && match p.body with
    | .lockstep _ => true
    | .trial plan _ => plan.keepsStart

theorem scanRuns {code : Array Step} {groups : Nat} {after before : Text} {offset start : Nat}
    {arrival : Lockstep.Arrival} (found : scan code groups after before offset = some (start, arrival)) :
    ∃ c : Cursor, Cursor.Ahead ⟨before, after, offset⟩ c ∧ c.offset = start ∧
      Lockstep.run code groups c = some arrival := by
  induction after generalizing before offset with
  | nil =>
    unfold scan at found
    split at found <;> try contradiction
    rename_i arrives
    cases Option.some.inj found
    exact ⟨_, .refl _, rfl, arrives⟩
  | cons d rest ih =>
    unfold scan at found
    split at found
    · rename_i arrives
      cases Option.some.inj found
      exact ⟨_, .refl _, rfl, arrives⟩
    · obtain ⟨c, ahead, start, arrives⟩ := ih found
      exact ⟨c, (Cursor.Ahead.step before rest d offset).trans ahead, start, arrives⟩

theorem firstGroup (p : Program) (present : 0 < p.groups) (slots : Slots) :
    ∃ more, p.groupsOf slots = slots.span? 0 :: more := by
  obtain ⟨n, same⟩ := Nat.exists_eq_succ_of_ne_zero (Nat.pos_iff_ne_zero.mp present)
  refine ⟨((List.range n).map Nat.succ).map slots.span?, ?_⟩
  rw [groupsOf, same, List.range_succ_eq_map, List.map_cons]

theorem answerFound {p : Program} {outcome : Backtrack.Outcome} {groups : Groups}
    (answered : p.answer outcome = .ok (some groups)) :
    ∃ s left, outcome = .found s left ∧ groups = startCapped (p.groupsOf s.slots) := by
  cases outcome with
  | found s left => exact ⟨s, left, rfl, (Option.some.inj (Except.ok.inj answered)).symm⟩
  | failed | exhausted => cases answered

theorem startCappedLength (groups : Groups) : (startCapped groups).length = groups.length := by
  unfold startCapped
  split <;> rfl

theorem startCappedWhole {groups : Groups} {g : Span} (whole : (startCapped groups)[0]? = some (some g)) :
    ∃ h, groups[0]? = some (some h) ∧ g = ⟨min h.start h.stop, h.stop⟩ := by
  unfold startCapped at whole
  split at whole
  · rename_i h others
    exact ⟨h, rfl, (Option.some.inj (Option.some.inj whole)).symm⟩
  · rename_i blank
    cases groups with
    | nil => cases whole
    | cons first others => exact absurd (congrArg (· :: others) (Option.some.inj whole)) (blank g others)

theorem searchGroups {p : Program} {subject : Text} {start : Nat} {groups : Groups}
    (found : p.search subject start = .ok (some groups)) : (groups.drop 1).length ≤ p.groups - 1 := by
  simp only [search] at found
  split at found
  · obtain ⟨⟨place, arrival⟩, _, rfl⟩ := Option.map_eq_some_iff.mp (Except.ok.inj found)
    simp [groupsOf]
  · obtain ⟨s, _, _, rfl⟩ := answerFound found
    simp [groupsOf, startCappedLength]

theorem attemptSpan {p : Program} (present : 0 < p.groups) {plan : Plan} {f : Backtrack.Frame}
    {R : Backtrack.State → Backtrack.State → Prop} (obeys : Backtrack.Move.Obeys R (Backtrack.run f plan))
    (grows : ∀ {s u}, R s u → s.Grows true u) {c : Cursor} {guards : List (Option Nat)} {budget left : Nat}
    {s : Backtrack.State}
    (found : Backtrack.run f (.capture 0 plan) ⟨c, Slots.blank p.groups, guards⟩ budget .found = .found s left) :
    ∃ t u more, t.here = c ∧ R t u ∧ p.groupsOf s.slots = some ⟨c.offset, u.here.offset⟩ :: more := by
  rw [Backtrack.run] at found
  obtain ⟨u, budget, related, ended⟩ := obeys found
  obtain ⟨more, same⟩ := p.firstGroup present s.slots
  have blank : (Slots.blank p.groups).length = 2 * p.groups := List.length_replicate
  have room : 1 < u.slots.length := by
    rw [(grows related).length]
    simp only [Backtrack.State.mark, List.length_set, blank]
    omega
  have marked : u.slots[0]? = some (some c.offset) := by
    have room : 0 < (Slots.blank p.groups).length := by omega
    rw [(grows related).start rfl]
    simp [Backtrack.State.mark, room]
  have whole : s.slots.span? 0 = some ⟨c.offset, u.here.offset⟩ := by
    cases ended
    simp [Backtrack.State.mark, Slots.span?, Slots.get, marked, room]
  exact ⟨_, u, more, rfl, related, whole ▸ same⟩

inductive FoundAt (p : Program) (c : Cursor) (groups : Groups) : Prop where
  | raced {code : Array Step} {arrival : Lockstep.Arrival} (body : p.body = .lockstep code)
      (arrives : Lockstep.run code p.groups c = some arrival)
      (shown : groups = some ⟨c.offset, arrival.stop.offset⟩ :: (p.groupsOf arrival.slots).drop 1)
  | tried {plan : Plan} {guards : Nat} {f : Backtrack.Frame} {budget left : Nat} {s : Backtrack.State}
      (body : p.body = .trial plan guards)
      (attempt : Backtrack.run f (.capture 0 plan) ⟨c, Slots.blank p.groups, List.replicate guards none⟩ budget .found =
        .found s left) (shown : groups = startCapped (p.groupsOf s.slots))

theorem searchFound {p : Program} {before after : Text} {groups : Groups}
    (found : p.search (before ++ after) (size before) = .ok (some groups)) :
    ∃ c, Cursor.Ahead ⟨before.reverse, after, size before⟩ c ∧ p.FoundAt c groups := by
  simp only [search, Cursor.ofOffsetSize] at found
  split at found
  · rename_i code body
    obtain ⟨⟨start, arrival⟩, scanned, rfl⟩ := Option.map_eq_some_iff.mp (Except.ok.inj found)
    obtain ⟨c, ahead, rfl, arrives⟩ := scanRuns scanned
    exact ⟨c, ahead, .raced body arrives rfl⟩
  · rename_i plan guards body
    obtain ⟨s, left, tried, rfl⟩ := answerFound found
    obtain ⟨c, budget, ahead, attempt⟩ := Backtrack.searchFinds tried
    exact ⟨c, ahead, .tried body attempt rfl⟩

theorem FoundAt.span {p : Program} (keeps : p.keepsStart) {c : Cursor} {groups : Groups} (found : p.FoundAt c groups) :
    ∃ d more, c.Ahead d ∧ groups = some ⟨c.offset, d.offset⟩ :: more := by
  simp only [keepsStart, Bool.and_eq_true, decide_eq_true_eq] at keeps
  cases found with
  | raced _ arrives shown => exact ⟨_, _, Lockstep.runAhead arrives, shown⟩
  | @tried plan _ _ _ _ _ body attempt shown =>
    have keepsPlan : plan.keepsStart := by simpa [body] using keeps.2
    obtain ⟨t, u, more, rfl, grows, same⟩ := attemptSpan keeps.1 (Backtrack.runGrows _ plan fun _ => keepsPlan) id attempt
    refine ⟨u.here, more, grows.ahead, ?_⟩
    rw [shown, same, startCapped, Nat.min_eq_left grows.ahead.order]

theorem searchSpan {p : Program} (keeps : p.keepsStart) {before after : Text} {groups : Groups}
    (found : p.search (before ++ after) (size before) = .ok (some groups)) :
    ∃ span more, groups = some span :: more ∧ size before ≤ span.start ∧ (before ++ after).Cuts span := by
  obtain ⟨c, ahead, foundAt⟩ := searchFound found
  obtain ⟨d, more, behind, same⟩ := foundAt.span keeps
  exact ⟨_, more, same, ahead.place.1, ahead.place.2, (ahead.trans behind).place.2, behind.order⟩

theorem attemptCuts {p : Program} {plan : Plan} {f : Backtrack.Frame} {c : Cursor} {guards : List (Option Nat)}
    {budget left : Nat} {s : Backtrack.State} {text : Text} (on : c.On text)
    (found : Backtrack.run f (.capture 0 plan) ⟨c, Slots.blank p.groups, guards⟩ budget .found = .found s left) {g : Span}
    (whole : (p.groupsOf s.slots)[0]? = some (some g)) :
    text.IsPlace g.start ∧ ∃ d, c.Ahead d ∧ g.stop = d.offset := by
  rw [Backtrack.run] at found
  obtain ⟨u, budget, grows, ended⟩ := @Backtrack.runGrows false f plan nofun _ _ _ _ _ found
  cases ended
  rcases Nat.eq_zero_or_pos p.groups with none | present
  · simp [groupsOf, none] at whole
  · obtain ⟨more, same⟩ := p.firstGroup present (u.mark 1).slots
    have marks : (u.mark 1).slots.span? 0 = some g := by simpa [same] using whole
    unfold Slots.span? at marks
    split at marks <;> try contradiction
    rename_i start stop opened marked
    cases Option.some.inj marks
    have starting : Backtrack.State.On text ⟨c, Slots.blank p.groups, guards⟩ := ⟨on, .blank p.groups⟩
    have ending := (grows.on (starting.mark (2 * 0))).mark 1
    refine ⟨ending.marks _ _ opened, u.here, grows.ahead, ?_⟩
    simp only [Slots.get, Backtrack.State.mark, List.getElem?_set, Nat.mul_zero, Nat.zero_add, if_true] at marked
    split at marked
    · cases marked
      rfl
    · cases marked

theorem searchCuts {p : Program} {before after : Text} {groups : Groups}
    (found : p.search (before ++ after) (size before) = .ok (some groups)) {g : Span} (whole : groups[0]? = some (some g)) :
    size before ≤ g.stop ∧ (before ++ after).Cuts g := by
  have inside {c d : Cursor} (ahead : Cursor.Ahead ⟨before.reverse, after, size before⟩ c) (behind : c.Ahead d) :
      size before ≤ d.offset ∧ (before ++ after).IsPlace d.offset := (ahead.trans behind).place
  obtain ⟨c, ahead, foundAt⟩ := searchFound found
  cases foundAt with
  | raced _ arrives shown =>
    subst shown
    cases whole
    obtain ⟨late, closed⟩ := inside ahead (Lockstep.runAhead arrives)
    obtain ⟨taken, _, _, offset⟩ := Lockstep.runAhead arrives
    exact ⟨late, ahead.place.2, closed, offset ▸ Nat.le_add_right _ _⟩
  | tried body attempt shown =>
    subst shown
    obtain ⟨h, uncapped, rfl⟩ := startCappedWhole whole
    obtain ⟨opened, d, behind, stop⟩ := attemptCuts (ahead.on (.between before after)) attempt uncapped
    obtain ⟨late, closed⟩ := inside ahead behind
    rw [← stop] at late closed
    refine ⟨late, ?_, closed, Nat.min_le_right _ _⟩
    rcases Nat.le_total h.start h.stop with order | order
    · rwa [Nat.min_eq_left order]
    · rwa [Nat.min_eq_right order]

end Program
end Engine

namespace Pattern

/-- What a search promises: a match at or behind its start, from place to place, or none. -/
structure Orderly (p : Pattern) (subject : Text) : Prop where
  spans : ∀ {start groups}, subject.IsPlace start → p.nativeSearch subject start = .ok (some groups) →
    ∃ span more, groups = some span :: more ∧ start ≤ span.start ∧ subject.Cuts span

theorem searchedBy {p : Pattern} {subject : Text} {start : Nat} {result : Option Engine.Program.Groups}
    (found : p.nativeSearch subject start = .ok result) : p.program.search subject start = .ok result := by
  rw [nativeSearch] at found
  cases searched : p.program.search subject start with
  | error e =>
    rw [searched] at found
    cases found
  | ok answer =>
    rw [searched] at found
    cases found
    rfl

theorem orderly {p : Pattern} (keeps : p.program.keepsStart) (subject : Text) : p.Orderly subject where
  spans := by
    rintro start groups ⟨before, after, rfl, rfl⟩ found
    exact Engine.Program.searchSpan keeps (searchedBy found)

variable {p : Pattern} {subject : Text} {start : Nat} {sticky : Bool} {m : Match}

theorem execAtBeyond (beyond : subject.size < start) : p.execAt subject start sticky = .ok none := if_pos beyond

theorem execAtInside (inside : start ≤ subject.size) : p.execAt subject start sticky =
    match p.nativeSearch subject (subject.boundary start) with
    | .error e => .error e
    | .ok none => .ok none
    | .ok (some groups) =>
      .ok (if sticky && (Match.mk subject groups p.names).start != subject.boundary start then none
        else some ⟨subject, groups, p.names⟩) := by
  rw [execAt, if_neg (Nat.not_lt.mpr inside)]
  dsimp only
  cases p.nativeSearch subject (subject.boundary start) with
  | error e => rfl
  | ok result => cases result <;> rfl

theorem execAtFound (found : p.execAt subject start sticky = .ok (some m)) :
    start ≤ subject.size ∧ ∃ groups, m = ⟨subject, groups, p.names⟩ ∧
      p.nativeSearch subject (subject.boundary start) = .ok (some groups) ∧
      (sticky → m.start = subject.boundary start) := by
  by_cases beyond : subject.size < start
  · rw [execAtBeyond beyond] at found
    cases found
  · have inside := Nat.le_of_not_lt beyond
    rw [execAtInside inside] at found
    split at found <;> try contradiction
    · cases found
    · rename_i groups searched
      have found := Except.ok.inj found
      split at found <;> try contradiction
      rename_i pinned
      cases Option.some.inj found
      refine ⟨inside, groups, rfl, searched, fun on => ?_⟩
      simpa [on] using pinned

theorem execAtFails {e : Failure} (failed : p.execAt subject start sticky = .error e) : e = .backtrackLimit := by
  by_cases beyond : subject.size < start
  · rw [execAtBeyond beyond] at failed
    cases failed
  · rw [execAtInside (Nat.le_of_not_lt beyond), nativeSearch] at failed
    cases searched : p.program.search subject (subject.boundary start) with
    | error =>
      rw [searched] at failed
      exact (Except.error.inj failed).symm
    | ok result => cases result <;> simp [searched, Except.mapError] at failed

def Within (p : Pattern) (subject : Text) : Prop :=
  ∀ place, subject.IsPlace place → p.nativeSearch subject place ≠ .error .backtrackLimit

theorem Within.answers (within : p.Within subject) (place : subject.IsPlace start) :
    ∃ result, p.nativeSearch subject start = .ok result := by
  cases searched : p.nativeSearch subject start with
  | ok result => exact ⟨result, rfl⟩
  | error e =>
    refine absurd (searched.trans ?_) (within start place)
    rw [nativeSearch] at searched
    cases answer : p.program.search subject start <;> rw [answer] at searched <;> cases searched
    rfl

theorem lockstepWithin {code : Array Engine.Step} (body : p.program.body = .lockstep code) (subject : Text) :
    p.Within subject := by
  intro place _ failed
  simp only [nativeSearch, Engine.Program.search, body] at failed
  cases failed

theorem Orderly.execAt (orderly : p.Orderly subject) (found : p.execAt subject start sticky = .ok (some m)) :
    m.input = subject ∧ start ≤ m.start ∧ subject.Cuts m.range := by
  obtain ⟨inside, groups, rfl, searched, _⟩ := execAtFound found
  obtain ⟨span, more, rfl, behind, cuts⟩ := orderly.spans (Text.boundaryIsPlace subject start) searched
  exact ⟨rfl, Nat.le_trans (Text.boundaryBehind inside) behind, cuts⟩

theorem execAtCuts (found : p.execAt subject start sticky = .ok (some m)) :
    m.input = subject ∧ subject.Cuts m.range ∧ (m.isEmpty = false → start ≤ m.stop) := by
  obtain ⟨inside, groups, rfl, searched, _⟩ := execAtFound found
  have behind := Text.boundaryBehind inside
  obtain ⟨before, after, same, place⟩ := Text.boundaryIsPlace subject start
  rw [← place] at searched behind
  refine ⟨rfl, ?_⟩
  cases whole : (groups[0]?).join with
  | none =>
    have start := Text.placeAtStart subject
    have range : (Match.mk subject groups p.names).range = ⟨0, 0⟩ := by simp [Match.range, Match.groupSpan?, whole]
    rw [Match.isEmpty, range]
    exact ⟨⟨start, start, Nat.le_refl 0⟩, nofun⟩
  | some g =>
    have range : (Match.mk subject groups p.names).range = g := by simp [Match.range, Match.groupSpan?, whole]
    rw [same] at searched
    obtain ⟨late, cuts⟩ := Engine.Program.searchCuts (searchedBy searched) (Option.join_eq_some_iff.mp whole)
    rw [Match.isEmpty, Match.stop, range, same]
    exact ⟨cuts, fun _ => Nat.le_trans behind late⟩

theorem execAtStop (found : p.execAt subject start sticky = .ok (some m)) : m.stop ≤ subject.size :=
  Text.placeInside (execAtCuts found).2.1.stop

end Pattern
end ExtendedPattern
