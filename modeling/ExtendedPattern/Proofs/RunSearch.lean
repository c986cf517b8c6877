import ExtendedPattern.Proofs.RunReading
import ExtendedPattern.Proofs.TameTrees

/-! What the pattern for a run passes over. -/
namespace ExtendedPattern
open Text (size)
namespace Engine

namespace Node

mutual

theorem unnumberedMatches : ∀ n : Node, n.unnumbered.Matches = n.Matches
  | .seq items => by
    rw [unnumbered]
    exact unnumberedMatchAll items
  | .alt branches => by
    rw [unnumbered]
    exact unnumberedMatchOne branches
  | .group _ body => unnumberedMatches body
  | .repeated low high greedy body => by
    funext c d
    rw [unnumbered, Matches, Matches, unnumberedMatches body]
  | .look ahead negative body => by
    funext c d
    cases ahead <;> rw [unnumbered, Matches, Matches, unnumberedMatches body]
  | .empty | .char _ | .assertion _ | .atomic _ | .backref _ | .keepOut | .searchStart => rfl

theorem unnumberedMatchAll : ∀ items : List Node, MatchAll (unnumberedAll items) = MatchAll items
  | [] => rfl
  | n :: rest => by
    funext c d
    rw [unnumberedAll, MatchAll, MatchAll, unnumberedMatches n, unnumberedMatchAll rest]

theorem unnumberedMatchOne : ∀ branches : List Node, MatchOne (unnumberedAll branches) = MatchOne branches
  | [] => rfl
  | [n] => unnumberedMatches n
  | n :: m :: rest => by
    have others := unnumberedMatchOne (m :: rest)
    funext c d
    simp only [unnumberedAll] at others ⊢
    simp only [MatchOne, unnumberedMatches n, others]

end

theorem Alike.sameMatches {n m : Node} (alike : n.Alike m) : n.Matches = m.Matches := by
  rw [← unnumberedMatches, alike, unnumberedMatches]

end Node

namespace Reader

theorem Frame.endsOr (f : Frame) : f.ends = [f.tree] ∨ f.tree = .alt f.ends := by
  cases branches : f.branches with
  | nil => exact .inl (by simp [Frame.ends, Frame.tree, branches])
  | cons => exact .inr (treeOfEnds (by simp [branches]))

theorem Frame.endsMatch (f : Frame) (c d : Cursor) : f.tree.Matches c d ↔ ∃ n ∈ f.ends, n.Matches c d := by
  rcases f.endsOr with alone | several
  · simp [alone]
  · rw [several]
    exact Node.matchOneIff (by simp [Frame.ends]) c d

theorem Frame.endsTame {f : Frame} (tame : f.tree.isTame false) : ∀ n ∈ f.ends, n.isTame false := by
  rcases f.endsOr with alone | several
  · rwa [alone, List.forall_mem_singleton]
  · rw [several] at tame
    exact Node.tameBranches tame

theorem delimitersTame {f g : Frame} {n : Node} (alike : n.Alike (.alt (f.ends ++ g.ends)))
    (left : f.tree.isTame false) (right : g.tree.isTame false) : n.isTame false := by
  have present : (f.ends ++ g.ends).isEmpty = false := by simp [Frame.ends]
  have all : Node.areTame false (f.ends ++ g.ends) :=
    Node.tameAll.mpr fun m mem => (List.mem_append.mp mem).elim (Frame.endsTame left m) (Frame.endsTame right m)
  rw [← Node.tameUnnumbered, alike, Node.tameUnnumbered, Node.isTame, present, all]
  simp

theorem delimitersMatch {f g : Frame} {n : Node} (alike : n.Alike (.alt (f.ends ++ g.ends))) (c d : Cursor) :
    n.Matches c d ↔ f.tree.Matches c d ∨ g.tree.Matches c d := by
  rw [alike.sameMatches, f.endsMatch, g.endsMatch]
  refine (Node.matchOneIff (by simp [Frame.ends]) c d).trans ?_
  simp only [List.mem_append, or_and_right, exists_or]

end Reader

namespace Plan
variable {s : Setting} {depth next next' : Nat} {plan : Plan}

theorem escapedPlanOf {a b : CharSet}
    (made : ofNode s (depth + 1) true (.seq [.char a, .char b]) next = some (plan, next')) :
    plan = .seq [.delegate #[.one a, .one b] []] ∧ next' = next := by
  have parts : s.partition true [.char a, .char b] = ([.char a, .char b], [], []) := rfl
  simp only [ofNode, Bool.not_true, Bool.false_and, Bool.false_eq_true, if_false, parts, Option.bind_eq_bind,
    Option.bind_eq_some_iff, ofNode.all] at made
  obtain ⟨front, fronts, ends, none, _, ⟨⟩, same⟩ := made
  cases same
  cases none
  obtain ⟨_, rfl⟩ := Setting.delegated (by simp) fronts
  exact ⟨rfl, rfl⟩

theorem plainPlanOf {other : CharSet} {body : Node}
    (made : ofNode s (depth + 3) true (.seq [.look true true body, .char other]) next = some (plan, next')) :
    ∃ inner behind, ofNode s (depth + 1) false body next = some (inner, behind) ∧
      plan = .seq [.look 0 true inner, .delegate #[.one other] []] := by
  have parts : s.partition true [.look true true body, .char other] =
      ([], [.look true true body], [.char other]) := rfl
  simp only [ofNode, Bool.not_true, Bool.false_and, Bool.false_eq_true, if_false, parts, Option.bind_eq_bind,
    Option.bind_eq_some_iff, ofNode.all] at made
  obtain ⟨front, none, ends, behind, ⟨middle, more⟩, looks, same⟩ := made
  cases same
  cases none
  obtain ⟨_, rfl⟩ := Setting.delegated (by simp) behind
  obtain ⟨⟨look, n⟩, ⟨⟨inner, n'⟩, bodyMade, _, looked, same⟩, _, ⟨⟩, same'⟩ := looks
  cases same'
  cases same
  cases looked
  exact ⟨inner, _, bodyMade, rfl⟩

def runOf (escape everything other : CharSet) (delimiters : Plan) : Plan :=
  .loop true true (.alt [.seq [.delegate #[.one escape, .one everything] []],
    .loop true true (.seq [.look 0 true delimiters, .delegate #[.one other] []])])

theorem loopPlanOf {n : Node} (takes : (s.shape n).least ≠ 0)
    (made : ofNode s (depth + 1) true (.repeated 1 none true n) next = some (plan, next')) :
    ∃ body behind, ofNode s depth true n next = some (body, behind) ∧ plan = .loop true true body := by
  simp only [ofNode, Bool.not_true, Bool.false_and, Bool.false_eq_true, if_false, Option.bind_eq_bind,
    Option.bind_eq_some_iff, repetition, takes] at made
  obtain ⟨⟨body, behind⟩, inner, same⟩ := made
  cases same
  exact ⟨body, behind, inner, rfl⟩

theorem altPlanOf {a b : Node} (made : ofNode s (depth + 1) true (.alt [a, b]) next = some (plan, next')) :
    ∃ one other between behind, ofNode s depth true a next = some (one, between) ∧
      ofNode s depth true b between = some (other, behind) ∧ plan = .alt [one, other] := by
  simp only [ofNode, Bool.not_true, Bool.false_and, Bool.false_eq_true, if_false, Option.bind_eq_bind,
    Option.bind_eq_some_iff, ofNode.all] at made
  obtain ⟨_, ⟨⟨one, between⟩, first, _, ⟨⟨other, behind⟩, second, _, ⟨⟩, same⟩, same'⟩, same''⟩ := made
  cases same
  cases same'
  cases same''
  exact ⟨one, other, between, behind, first, second, rfl⟩

theorem runPlanOf {escape everything other : CharSet} {body : Node}
    (made : ofNode s (depth + 6) true (Reader.runNode escape everything other body) next = some (plan, next')) :
    ∃ inner start behind, ofNode s (depth + 1) false body start = some (inner, behind) ∧
      plan = runOf escape everything other inner := by
  have piece : (s.shape (.seq [.look true true body, .char other])).least ≠ 0 := Nat.one_ne_zero
  have pieces : (s.shape (.alt [.seq [.char escape, .char everything],
    .repeated 1 none true (.seq [.look true true body, .char other])])).least ≠ 0 := Nat.one_ne_zero
  obtain ⟨_, _, outer, rfl⟩ := loopPlanOf pieces made
  obtain ⟨_, _, _, _, escapes, plain, rfl⟩ := altPlanOf outer
  obtain ⟨rfl, rfl⟩ := escapedPlanOf escapes
  obtain ⟨_, _, loop, rfl⟩ := loopPlanOf piece plain
  obtain ⟨inner, behind, inside, rfl⟩ := plainPlanOf loop
  exact ⟨inner, _, behind, inside, rfl⟩

end Plan

namespace Cursor
variable {c d e m : Cursor}

structure Passes (P : Cursor → Prop) (c d : Cursor) : Prop where
  ahead : c.Ahead d
  between : ∀ {m}, c.Ahead m → m.Ahead d → m ≠ d → P m

namespace Passes
variable {P : Cursor → Prop}

theorem refl (c : Cursor) : Passes P c c where
  ahead := .refl c
  between behind before apart := absurd (before.antisymm behind) apart

theorem trans (first : Passes P c d) (second : Passes P d e) : Passes P c e where
  ahead := first.ahead.trans second.ahead
  between {m} behind before apart := by
    rcases first.ahead.total behind with later | earlier
    · exact second.between later before apart
    · by_cases same : m = d
      · subst same
        exact second.between (.refl m) before apart
      · exact first.between behind earlier same

theorem step {x : Char} (holds : P c) (next : c.next? = some (x, d)) : Passes P c d where
  ahead := .next next
  between behind before apart := by
    rcases behind.onward next with rfl | later
    · exact holds
    · exact absurd (before.antisymm later) apart

end Passes
end Cursor

namespace Backtrack
open Lockstep (either)

/-- Of what can be taken no character is an escape, and the way leads over no place where a delimiter is. -/
structure State.Passes (text : Text) (escape : CharSet) (body : Node) (s u : State) : Prop extends s.Grows true u where
  free : s.here.On text → (∀ x ∈ s.here.after, escape.has x = false) →
    Cursor.Passes (fun c => ¬ ∃ d, body.Matches c d) s.here u.here

namespace State.Passes
variable {text : Text} {escape : CharSet} {body : Node} {s u v : State}

theorem refl (s : State) : s.Passes text escape body s where
  toGrows := .refl s
  free _ _ := .refl s.here

theorem trans (first : s.Passes text escape body u) (second : u.Passes text escape body v) :
    s.Passes text escape body v where
  toGrows := first.toGrows.trans second.toGrows
  free on unseen := by
    refine (first.free on unseen).trans (second.free (first.ahead.on on) fun x mem => unseen x ?_)
    obtain ⟨taken, after, _⟩ := first.ahead
    rw [after]
    exact List.mem_append_right taken mem

end State.Passes

variable {text : Text} {escape everything other : CharSet} {body : Node} {f : Frame} {inner : Plan}

theorem escapedPasses : Move.Obeys (State.Passes text escape body)
    (run f (.seq [.delegate #[.one escape, .one everything] []])) := by
  rintro ⟨⟨before, after, offset⟩, slots, starts⟩ budget goal t left found
  rcases after with _ | ⟨x, _ | ⟨y, rest⟩⟩
  · simp [run, runSeq, Lockstep.runTwo] at found
  · simp [run, runSeq, Lockstep.runTwo] at found
  · simp only [run, runSeq, Lockstep.runTwo] at found
    by_cases takes : escape.has x && everything.has y
    · rw [if_pos takes] at found
      have ahead := (Cursor.Ahead.step before (y :: rest) x offset).trans (.step (x :: before) rest y _)
      refine ⟨_, budget, ⟨.move ahead, fun _ unseen => ?_⟩, found⟩
      rw [unseen x List.mem_cons_self] at takes
      contradiction
    · rw [if_neg takes] at found
      contradiction

theorem plainPasses (tells : Move.Tells text false body.Matches (run f inner)) :
    Move.Obeys (State.Passes text escape body)
      (run f (.seq [.look 0 true inner, .delegate #[.one other] []])) := by
  rintro ⟨⟨before, after, offset⟩, slots, starts⟩ budget goal t left found
  simp only [run, runSeq] at found
  change Outcome.refuse (run f inner ⟨⟨before, after, offset⟩, slots, starts⟩ budget .found) _ = .found t left at found
  obtain ⟨refused, budget, found⟩ := Outcome.foundBehind found
  have free (on : Cursor.On text ⟨before, after, offset⟩) : ¬ ∃ d, body.Matches ⟨before, after, offset⟩ d :=
    refused (@Move.Tells.tries _ _ _ _ tells ⟨⟨before, after, offset⟩, slots, starts⟩ on _)
  rw [Lockstep.runOne] at found
  cases after with
  | nil => contradiction
  | cons x rest =>
    dsimp only at found
    by_cases takes : other.has x
    · rw [if_pos takes] at found
      exact ⟨_, budget, ⟨.move (.step before rest x offset), fun on _ => .step (free on) (x := x) rfl⟩, found⟩
    · rw [if_neg takes] at found
      contradiction

theorem runPasses (tells : Move.Tells text false body.Matches (run f inner)) :
    Move.Obeys (State.Passes text escape body) (run f (Plan.runOf escape everything other inner)) := by
  have plain : Move.Obeys (State.Passes text escape body) (run f (.loop true true
      (.seq [.look 0 true inner, .delegate #[.one other] []]))) := by
    intro s budget goal t left found
    exact (plainPasses tells).goesOn .trans (roundsObey (plainPasses tells) .refl .trans true _) found
  have piece : Move.Obeys (State.Passes text escape body) (run f (.alt [.seq [.delegate #[.one escape, .one everything] []],
      .loop true true (.seq [.look 0 true inner, .delegate #[.one other] []])])) := by
    intro s budget goal t left found
    rw [run, runAlt] at found
    · rcases foundByEither found with first | ⟨budget, second⟩
      · exact escapedPasses first
      · exact plain second
    · simp
  intro s budget goal t left found
  exact piece.goesOn .trans (roundsObey piece .refl .trans true _) found

end Backtrack

namespace Cursor

theorem Ahead.ofPlace {before after : Text} {place : Nat} (at_ : (before ++ after).IsPlace place)
    (behind : size before ≤ place) : ∃ front rest, before ++ after = front ++ rest ∧ place = size front ∧
      Ahead ⟨before.reverse, after, size before⟩ ⟨front.reverse, rest, size front⟩ := by
  obtain ⟨middle, rest, rfl, rfl⟩ := Text.partToPlace at_ behind
  exact ⟨before ++ middle, rest, by rw [List.append_assoc], rfl, middle, rfl, by simp, Text.sizeAppend _ _⟩

theorem Passes.atPlace {P : Cursor → Prop} {before after : Text} {d : Cursor}
    (passes : Passes P ⟨before.reverse, after, size before⟩ d) {place : Nat} (at_ : (before ++ after).IsPlace place)
    (behind : size before ≤ place) (within : place < d.offset) :
    ∃ front rest, before ++ after = front ++ rest ∧ place = size front ∧ P ⟨front.reverse, rest, size front⟩ := by
  obtain ⟨front, rest, same, rfl, ahead⟩ := Ahead.ofPlace at_ behind
  have onward := (ahead.total passes.ahead).resolve_right fun back => Nat.not_lt.mpr back.within within
  refine ⟨front, rest, same, rfl, passes.between ahead onward fun same => ?_⟩
  rw [← same] at within
  exact Nat.lt_irrefl _ within

end Cursor

namespace Program
variable {p : Program} {limits : Limits} {pattern : Text}

/-- Where the program finds a match the tree has one. -/
def Finds (p : Program) (n : Node) : Prop :=
  ∀ {text : Text} {c : Cursor} {groups : Groups}, c.On text → p.FoundAt c groups → ∃ d, n.Matches c d

theorem lockstepTree {code : Array Step} (built : build? limits pattern = some p) (body : p.body = .lockstep code) :
    ∃ n q, Reader.tree? pattern = some (n, q) ∧ n.isTame false ∧ p.isSteady ∧ p.Finds n := by
  simp only [build?, Option.bind_eq_bind, Option.bind_eq_some_iff] at built
  obtain ⟨⟨n, q⟩, read, built⟩ := built
  dsimp only at built
  split at built
  · rename_i easy
    obtain ⟨made, coded, same⟩ := Option.bind_eq_some_iff.mp built
    cases same
    cases body
    obtain ⟨rfl, bounded⟩ := Plan.Setting.codeOf coded
    have easy := Plan.Setting.easyIff.mp easy
    refine ⟨n, q, read, Node.tameEasy (Node.easyAlone n easy), by simp [isSteady, keepsStart, floats], fun _ found => ?_⟩
    cases found with
    | raced body arrives _ =>
      cases body
      exact ⟨_, Lockstep.runStops easy bounded arrives⟩
    | tried body _ _ => cases body
  · obtain ⟨_, _, same⟩ := Option.bind_eq_some_iff.mp built
    cases same
    cases body

theorem trialFinds {n : Node} {q : Reader.Progress} {plan : Plan} {guards : Nat} (built : build? limits pattern = some p)
    (read : Reader.tree? pattern = some (n, q)) (tame : n.isTame true) (body : p.body = .trial plan guards) :
    p.Finds n := by
  simp only [build?, read, Reader.treeReferenced read (Node.tameRefers n tame), Option.bind_eq_bind, Option.bind_some] at built
  split at built
  · obtain ⟨_, _, same⟩ := Option.bind_eq_some_iff.mp built
    cases same
    cases body
  · obtain ⟨⟨plan, guards⟩, made, same⟩ := Option.bind_eq_some_iff.mp built
    cases same
    intro text c groups on found
    cases found with
    | raced body _ _ => cases body
    | @tried _ _ f budget _ _ body attempt _ =>
      cases body
      have tells := Backtrack.captureTells (Plan.Sound.always text f _ _ made tame) 0
      have tried := @Backtrack.Move.Tells.tries _ _ _ _ tells
        ⟨c, Slots.blank (q.groups + 1), List.replicate guards none⟩ on budget
      rwa [attempt] at tried

theorem runBuilt {flags : FlagSet} {e : Char} {escaped left right : Text} {l m : Node} {last : Reader.Modes}
    (spells : Spelling e escaped) (leftAlone : Reader.ReadsAlone flags.modes flags.modes left l)
    (rightAlone : Reader.ReadsAlone flags.modes last right m) (solid : last.freeSpacing = false)
    (leftTame : l.isTame false) (rightTame : m.isTame false)
    (built : build? limits (flags.openNative (Balanced.escapeText escaped left right)) = some p) :
    0 < p.groups ∧ ∃ (foldable : Bool) (everything other : CharSet) (delimiters : Node) (inner : Plan) (guards : Nat),
      (∀ f text, Backtrack.Move.Tells text false delimiters.Matches (Backtrack.run f inner)) ∧
      (∀ c d, delimiters.Matches c d ↔ l.Matches c d ∨ m.Matches c d) ∧
      p.body = .trial (.runOf ((CharSet.single e).underCase (foldable && flags.has .ignoreCase)) everything other inner)
        guards := by
  have long : ∃ depth, 2 * (flags.openNative (Balanced.escapeText escaped left right)).length + 2 = depth + 6 := by
    have long := Engine.runTextLong escaped left right
    refine Nat.exists_eq_add_of_le' ?_
    rw [FlagSet.openNative, List.length_append]
    omega
  simp only [build?, Option.bind_eq_bind, Option.bind_eq_some_iff] at built
  obtain ⟨⟨n, q⟩, read, built⟩ := built
  obtain ⟨foldable, everything, other, f, g, delimiters, rfl, rfl, alike, rfl⟩ :=
    Reader.runRead spells leftAlone rightAlone solid read
  have tame := Reader.delimitersTame alike leftTame rightTame
  have referenced : q.referenced = [] := by
    refine Reader.treeReferenced read ?_
    simp [Reader.runNode, Node.refers, Node.anyRefers, Node.tameRefers _ tame]
  dsimp only at built
  split at built
  · rename_i easy
    cases easy
  · obtain ⟨depth, deep⟩ := long
    obtain ⟨⟨plan, guards⟩, made, same⟩ := Option.bind_eq_some_iff.mp built
    rw [deep, referenced] at made
    obtain ⟨inner, _, _, innerMade, rfl⟩ := Plan.runPlanOf made
    cases same
    exact ⟨Nat.succ_pos _, foldable, everything, other, delimiters, inner, _,
      fun f text => Plan.Sound.always text f _ _ innerMade tame, Reader.delimitersMatch alike, rfl⟩

theorem searchPasses {escape everything other : CharSet} {body : Node} {inner : Plan} {guards : Nat}
    {before after : Text} {found : Groups} (present : 0 < p.groups)
    (tells : ∀ f text, Backtrack.Move.Tells text false body.Matches (Backtrack.run f inner))
    (runs : p.body = .trial (.runOf escape everything other inner) guards)
    (searched : p.search (before ++ after) (size before) = .ok (some found)) (pinned : startOf found = size before) :
    ∃ s u more, s.here = ⟨before.reverse, after, size before⟩ ∧
      Backtrack.State.Passes (before ++ after) escape body s u ∧ found = some ⟨size before, u.here.offset⟩ :: more := by
  simp only [search, Cursor.ofOffsetSize, runs] at searched
  obtain ⟨t, left, tried, rfl⟩ := answerFound searched
  obtain ⟨c, budget, ahead, attempt⟩ := Backtrack.searchFinds tried
  obtain ⟨s, u, more, rfl, passes, same⟩ := attemptSpan present (Backtrack.runPasses (tells _ _)) (·.toGrows) attempt
  rw [same, startCapped, Nat.min_eq_left passes.ahead.order] at pinned ⊢
  have here := ahead.still pinned.symm
  exact ⟨s, u, more, here.symm, passes, by rw [← here]⟩

end Program
end Engine
end ExtendedPattern
