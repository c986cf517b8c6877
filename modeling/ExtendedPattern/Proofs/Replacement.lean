import ExtendedPattern.Proofs.AllMatches
import ExtendedPattern.Replace
import Mathlib

/-! Replacing matches. The replacements are computed one after the other, each from its match, and
the result is the subject with each of them in the place of its match. -/
namespace ExtendedPattern
open Text (size)

def Replacer.texts {σ : Type} (replacer : Replacer σ) : List Match → σ → Except Failure (List Text)
  | [], _ => .ok []
  | m :: more, state =>
    match replacer state m with
    | .error e => .error e
    | .ok (replacement, state) => (texts replacer more state).map (replacement :: ·)

theorem templateTexts (template : Text) (ms : List Match) :
    (Replacer.ofTemplate template).texts ms () = .ok (ms.map (Template.expand template)) := by
  induction ms with
  | nil => rfl
  | cons m more ih => simp [Replacer.texts, Replacer.ofTemplate, ih, Except.map]

namespace Replace

def weave (subject : Text) (lastEnd : Nat) : List (Match × Text) → Text
  | [] => subject.dropBytes lastEnd
  | (m, replacement) :: more => subject.slice ⟨lastEnd, m.start⟩ ++ replacement ++ weave subject m.stop more

variable {σ : Type} {search : Iteration.Searcher} {replacer : Replacer σ} {subject : Text}

theorem goOnRound (all : Bool) (fuel start lastEnd : Nat) (state : σ) :
    goOn search replacer subject all (fuel + 1) start lastEnd state =
      match search start with
      | .error e => .error e
      | .ok none => .ok (subject.dropBytes lastEnd)
      | .ok (some m) =>
        match subject.between ⟨lastEnd, m.start⟩ with
        | .error e => .error e
        | .ok gap =>
          match replacer state m with
          | .error e => .error e
          | .ok (replacement, state) =>
            (if all then goOn search replacer subject all fuel m.resume m.stop state
              else .ok (subject.dropBytes m.stop)).map (gap ++ replacement ++ ·) := by
  rw [goOn]
  cases search start with
  | error e => rfl
  | ok found =>
    cases found with
    | none => rfl
    | some m =>
      simp only [bind, Except.bind]
      cases subject.between ⟨lastEnd, m.start⟩ with
      | error e => rfl
      | ok gap =>
        cases replacer state m with
        | error e => rfl
        | ok answer =>
          cases all with
          | false => rfl
          | true =>
            simp only [if_true]
            cases goOn search replacer subject true fuel m.resume m.stop answer.2 <;> rfl

theorem goOnWeaves {fuel start lastEnd : Nat} {ms : List Match} {state : σ}
    (found : Iteration.matchesFrom search fuel start = .ok ms) (apart : Iteration.Apart lastEnd ms) :
    goOn search replacer subject true fuel start lastEnd state =
      (replacer.texts ms state).map fun replacements => weave subject lastEnd (ms.zip replacements) := by
  induction fuel generalizing start lastEnd ms state with
  | zero => cases found
  | succ fuel ih =>
    rw [goOnRound]
    obtain ⟨searched, rfl⟩ | ⟨m, rest, searched, more, rfl⟩ := Iteration.matchesFromFound found
    · rw [searched]
      rfl
    · obtain ⟨behind, others⟩ := apart
      simp only [searched, Text.betweenOrdered behind, if_true, Replacer.texts]
      cases replacer state m with
      | error e => rfl
      | ok answer =>
        obtain ⟨replacement, next⟩ := answer
        simp only [ih more others]
        cases replacer.texts rest next <;> simp [Except.map, weave]

theorem goOnOverlaps {fuel start lastEnd : Nat} {front more : List Match} {m : Match} {state : σ}
    (found : Iteration.matchesFrom search fuel start = .ok (front ++ m :: more)) (overlap : Iteration.Overlap lastEnd front m) :
    goOn search replacer subject true fuel start lastEnd state = (replacer.texts front state).bind fun _ =>
      .error (subject.noneBetween ⟨Iteration.lastStop lastEnd front, m.start⟩) := by
  induction fuel generalizing start lastEnd front state with
  | zero => cases found
  | succ fuel ih =>
    rw [goOnRound]
    obtain ⟨_, nothing⟩ | ⟨first, rest, searched, later, same⟩ := Iteration.matchesFromFound found
    · simp at nothing
    · cases front with
      | nil =>
        obtain ⟨rfl, rfl⟩ := List.cons.inj same
        have early : m.start < lastEnd := overlap.early
        simp only [searched, Text.betweenReversed early]
        rfl
      | cons n front =>
        obtain ⟨rfl, rfl⟩ := List.cons.inj same
        obtain ⟨⟨behind, apart⟩, early⟩ := overlap
        rw [Iteration.lastStopNext] at early ⊢
        simp only [searched, Text.betweenOrdered behind, if_true, Replacer.texts]
        cases replacer state n with
        | error e => rfl
        | ok answer =>
          dsimp only
          rw [ih later ⟨apart, early⟩]
          cases replacer.texts front answer.2 <;> rfl

theorem goOnFails {fuel start lastEnd : Nat} {e : Failure} {state : σ}
    (failed : Iteration.matchesFrom search fuel start = .error e) :
    ∃ e', goOn search replacer subject true fuel start lastEnd state = .error e' ∧
      ((∀ state m, (replacer state m).toOption.isSome) → e' = e ∨
        ∃ span, span.stop < span.start ∧ e' = subject.noneBetween span) := by
  induction fuel generalizing start lastEnd state with
  | zero =>
    cases failed
    exact ⟨_, rfl, fun _ => .inl rfl⟩
  | succ fuel ih =>
    rw [Iteration.matchesFromRound] at failed
    rw [goOnRound]
    cases searched : search start with
    | error e' =>
      rw [searched] at failed
      cases failed
      exact ⟨e, rfl, fun _ => .inl rfl⟩
    | ok result =>
      rw [searched] at failed
      cases result with
      | none => cases failed
      | some m =>
        have failed : Iteration.matchesFrom search fuel m.resume = .error e := mapFails failed
        by_cases behind : lastEnd ≤ m.start
        · simp only [Text.betweenOrdered behind]
          cases replaced : replacer state m with
          | error e' =>
            refine ⟨e', rfl, fun total => ?_⟩
            have answers := total state m
            rw [replaced] at answers
            cases answers
          | ok answer =>
            obtain ⟨e', stopped, same⟩ := @ih _ m.stop answer.2 failed
            simp only [if_true, stopped]
            exact ⟨e', rfl, same⟩
        · have early := Nat.lt_of_not_le behind
          simp only [Text.betweenReversed early]
          exact ⟨_, rfl, fun _ => .inr ⟨_, early, rfl⟩⟩

theorem goOnOnce (fuel : Nat) (state : σ) {found : Option Match} (searched : search 0 = .ok found) :
    goOn search replacer subject false (fuel + 1) 0 0 state =
      (replacer.texts found.toList state).map fun replacements =>
        weave subject 0 (found.toList.zip replacements) := by
  rw [goOnRound, searched]
  cases found with
  | none => rfl
  | some m =>
    simp only [Option.toList, Replacer.texts, Text.betweenOrdered (Nat.zero_le m.start)]
    cases replacer state m <;> rfl

theorem weaveTexts {lastEnd : Nat} {ms : List Match} (inOrder : Iteration.InOrder subject lastEnd ms)
    (before : subject.IsPlace lastEnd) :
    weave subject lastEnd (ms.map fun m => (m, m.text)) = subject.dropBytes lastEnd := by
  induction inOrder with
  | none => rfl
  | @next lastEnd m more input behind cuts _ ih =>
    have inner : weave subject m.stop (more.map fun m => (m, m.text)) = subject.dropBytes m.stop := ih cuts.stop
    have text : m.text = subject.slice m.range := by rw [Match.text, input]
    rw [List.map_cons, weave, inner, text, List.append_assoc]
    have tail := Text.sliceToPlace cuts.start cuts.stop cuts.ordered
    have whole := Text.sliceToPlace before cuts.start behind
    exact (congrArg _ tail).trans whole

end Replace

namespace Pattern
variable {p : Pattern} {subject : Text}

def rewind (p : Pattern) : Pattern := if p.isGlobal then p.moveTo 0 else p

def cursorBehind (p : Pattern) : Except Failure (Text × Pattern) → Nat
  | .ok (_, q) => q.cursor
  | .error _ => p.cursor

theorem replaceWithGoesOn {σ : Type} (p : Pattern) (subject : Text) (replacer : Replacer σ) (state : σ) (all : Bool) :
    p.replaceWith subject replacer state all =
      (Replace.goOn (p.searcher subject) replacer subject all (Iteration.rounds subject) 0 0 state).map
        (·, p.rewind) := by
  rw [replaceWith]
  cases Replace.goOn (p.searcher subject) replacer subject all (Iteration.rounds subject) 0 0 state <;> rfl

theorem cursorRewinds {σ : Type} (p : Pattern) (subject : Text) (replacer : Replacer σ) (state : σ) (all : Bool) :
    p.cursorBehind (p.replaceWith subject replacer state all) =
      if p.isGlobal ∧ (p.replaceWith subject replacer state all).toOption.isSome then 0 else p.cursor := by
  rw [replaceWithGoesOn]
  cases Replace.goOn (p.searcher subject) replacer subject all (Iteration.rounds subject) 0 0 state with
  | error e => simp [Except.map, Except.toOption, cursorBehind]
  | ok text => cases on : p.isGlobal <;> simp [Except.map, Except.toOption, cursorBehind, rewind, on, moveTo]

theorem replaceAllWeaves {σ : Type} {ms : List Match} (found : p.findAll subject = .ok ms) (apart : Iteration.Apart 0 ms)
    (replacer : Replacer σ) (state : σ) : p.replaceAll subject replacer state =
      (replacer.texts ms state).map fun replacements => (Replace.weave subject 0 (ms.zip replacements), p.rewind) := by
  rw [replaceAll, replaceWithGoesOn, Replace.goOnWeaves found apart]
  cases replacer.texts ms state <;> rfl

theorem replaceAllOverlaps {σ : Type} {front more : List Match} {m : Match} (found : p.findAll subject = .ok (front ++ m :: more))
    (overlap : Iteration.Overlap 0 front m) (replacer : Replacer σ) (state : σ) : p.replaceAll subject replacer state =
      (replacer.texts front state).bind fun _ => .error (subject.noneBetween ⟨Iteration.lastStop 0 front, m.start⟩) := by
  rw [replaceAll, replaceWithGoesOn, Replace.goOnOverlaps found overlap]
  cases replacer.texts front state <;> rfl

theorem replaceAllFails {σ : Type} {e : Failure} (failed : p.findAll subject = .error e) (replacer : Replacer σ) (state : σ) :
    ∃ e', p.replaceAll subject replacer state = .error e' ∧
      ((∀ state m, (replacer state m).toOption.isSome) → e' = e ∨
        ∃ span, span.stop < span.start ∧ e' = subject.noneBetween span) := by
  obtain ⟨e', stopped, same⟩ := @Replace.goOnFails σ _ replacer subject _ _ 0 _ state failed
  refine ⟨e', ?_, same⟩
  rw [replaceAll, replaceWithGoesOn, stopped]
  rfl

theorem replaceFirstWeaves {σ : Type} {found : Option Match} (searched : p.find subject = .ok found)
    (replacer : Replacer σ) (state : σ) : p.replaceFirst subject replacer state =
      (replacer.texts found.toList state).map fun replacements =>
        (Replace.weave subject 0 (found.toList.zip replacements), p.rewind) := by
  rw [replaceFirst, replaceWithGoesOn, Iteration.rounds, Replace.goOnOnce _ state searched]
  cases replacer.texts found.toList state <;> rfl

theorem replaceFirstFails {σ : Type} {e : Failure} (failed : p.find subject = .error e) (replacer : Replacer σ)
    (state : σ) : p.replaceFirst subject replacer state = .error e := by
  have failed : p.searcher subject 0 = .error e := failed
  rw [replaceFirst, replaceWithGoesOn, Iteration.rounds, Replace.goOnRound, failed]
  rfl

def wholeMatch : Text := ['$', '&']

theorem wholeMatchTexts (ms : List Match) :
    (Replacer.ofTemplate wholeMatch).texts ms () = .ok (ms.map Match.text) := by
  rw [templateTexts]
  congr 2
  funext m
  exact List.append_nil _

theorem zipEach (text : Match → Text) (ms : List Match) : ms.zip (ms.map text) = ms.map fun m => (m, text m) := by
  have both : (ms.map id).zip (ms.map text) = ms.map fun m => (id m, text m) := List.zip_map'
  simpa using both

theorem wholeMatchWeaves {ms : List Match} (each : ∀ m ∈ ms, m.input = subject ∧ subject.Cuts m.range)
    (apart : Iteration.Apart 0 ms) : Replace.weave subject 0 (ms.zip (ms.map Match.text)) = subject := by
  have whole := Replace.weaveTexts (Iteration.inOrderApart each apart) (Text.placeAtStart subject)
  rw [zipEach, whole, Text.dropAtStart]

theorem wholeMatchInAll {ms : List Match} (found : p.findAll subject = .ok ms) (apart : Iteration.Apart 0 ms) :
    p.replaceAll subject (.ofTemplate wholeMatch) () = .ok (subject, p.rewind) := by
  rw [replaceAllWeaves found apart, wholeMatchTexts]
  simp only [Except.map, wholeMatchWeaves (Iteration.foundCuts found) apart]

theorem wholeMatchKeeps {text : Text} {q : Pattern}
    (replaced : p.replaceAll subject (.ofTemplate wholeMatch) () = .ok (text, q)) : text = subject ∧ q = p.rewind := by
  cases found : p.findAll subject with
  | error e =>
    obtain ⟨_, failed, _⟩ := replaceAllFails found (.ofTemplate wholeMatch) ()
    cases failed.symm.trans replaced
  | ok ms =>
    obtain apart | ⟨front, m, more, rfl, overlap⟩ := Iteration.apartOrNot 0 ms
    · cases (wholeMatchInAll found apart).symm.trans replaced
      exact ⟨rfl, rfl⟩
    · rw [replaceAllOverlaps found overlap, wholeMatchTexts] at replaced
      cases replaced

theorem wholeMatchInFirst {found : Option Match} (searched : p.find subject = .ok found) :
    p.replaceFirst subject (.ofTemplate wholeMatch) () = .ok (subject, p.rewind) := by
  have each : ∀ m ∈ found.toList, m.input = subject ∧ subject.Cuts m.range := by
    intro m mem
    rw [Option.mem_toList] at mem
    cases mem
    obtain ⟨input, cuts, _⟩ := execAtCuts searched
    exact ⟨input, cuts⟩
  have apart : Iteration.Apart 0 found.toList := by
    cases found with
    | none => trivial
    | some m => exact ⟨Nat.zero_le m.start, trivial⟩
  rw [replaceFirstWeaves searched, wholeMatchTexts]
  simp only [Except.map, wholeMatchWeaves each apart]

/-- What replacing comes to. A closure has its memory threaded through the replacements, so each is
computed once, in the order of the matches. -/
structure Replaces {σ : Type} (p : Pattern) (subject : Text) (replacer : Replacer σ) (state : σ) : Prop where
  all : ∀ ms, p.findAll subject = .ok ms → Iteration.Apart 0 ms → p.replaceAll subject replacer state =
    (replacer.texts ms state).map fun replacements => (Replace.weave subject 0 (ms.zip replacements), p.rewind)
  overlaps : ∀ front m more, p.findAll subject = .ok (front ++ m :: more) → Iteration.Overlap 0 front m →
    p.replaceAll subject replacer state = (replacer.texts front state).bind fun _ =>
      .error (subject.noneBetween ⟨Iteration.lastStop 0 front, m.start⟩)
  first : ∀ found, p.find subject = .ok found → p.replaceFirst subject replacer state =
    (replacer.texts found.toList state).map fun replacements =>
      (Replace.weave subject 0 (found.toList.zip replacements), p.rewind)
  found : ∀ ms, p.findAll subject = .ok ms → p.find subject = .ok ms.head?
  allFails : ∀ e, p.findAll subject = .error e → ∃ e', p.replaceAll subject replacer state = .error e' ∧
    ((∀ state m, (replacer state m).toOption.isSome) → e' = e ∨
      ∃ span, span.stop < span.start ∧ e' = subject.noneBetween span)
  firstFails : ∀ e, p.find subject = .error e → p.replaceFirst subject replacer state = .error e
  chosen : p.replace subject replacer state =
    if p.isGlobal then p.replaceAll subject replacer state else p.replaceFirst subject replacer state
  cursor : ∀ call ∈ [p.replaceAll subject replacer state, p.replaceFirst subject replacer state,
      p.replace subject replacer state],
    p.cursorBehind call = if p.isGlobal ∧ call.toOption.isSome then 0 else p.cursor

theorem replaceReplaces {σ : Type} (p : Pattern) (subject : Text) (replacer : Replacer σ) (state : σ) :
    p.Replaces subject replacer state where
  all _ found apart := replaceAllWeaves found apart replacer state
  overlaps _ _ _ found overlap := replaceAllOverlaps found overlap replacer state
  first _ searched := replaceFirstWeaves searched replacer state
  found _ := findIsFirst
  allFails _ failed := replaceAllFails failed replacer state
  firstFails _ failed := replaceFirstFails failed replacer state
  chosen := by cases on : p.isGlobal <;> simp [replace, replaceAll, replaceFirst, on]
  cursor call listed := by
    simp only [List.mem_cons, List.not_mem_nil, or_false] at listed
    obtain rfl | rfl | rfl := listed
    · exact cursorRewinds p subject replacer state true
    · exact cursorRewinds p subject replacer state false
    · exact cursorRewinds p subject replacer state p.isGlobal

end Pattern

/-- The result is the subject with each match replaced, all of them or the first, and with the whole match as the
template it is the subject. -/
theorem replacementsStandForMatches (p : Pattern) (subject : Text) :
    (∀ {σ : Type} (replacer : Replacer σ) (state : σ), p.Replaces subject replacer state) ∧
      (∀ text q, p.replaceAll subject (.ofTemplate Pattern.wholeMatch) () = .ok (text, q) → text = subject ∧ q = p.rewind) ∧
      (∀ found, p.find subject = .ok found →
        p.replaceFirst subject (.ofTemplate Pattern.wholeMatch) () = .ok (subject, p.rewind)) ∧
      (p.Orderly subject → ∀ ms, p.findAll subject = .ok ms → Iteration.Apart 0 ms ∧
        p.replaceAll subject (.ofTemplate Pattern.wholeMatch) () = .ok (subject, p.rewind)) := by
  refine ⟨fun replacer state => p.replaceReplaces subject replacer state, fun _ _ => Pattern.wholeMatchKeeps,
    fun _ => Pattern.wholeMatchInFirst, fun orderly ms found => ?_⟩
  have apart := (Iteration.foundInOrder orderly found).apart
  exact ⟨apart, Pattern.wholeMatchInAll found apart⟩

theorem emptyMatchesComeBack :
    ∃ p, Pattern.ofNative ['x', '*'] (.single .global) = .ok p ∧ (p.moveTo 1).Orderly ['a', 'x', 'é'] ∧
      ((p.moveTo 1).replace ['a', 'x', 'é'] (.ofTemplate Pattern.wholeMatch) ()).map
        (fun (text, q) => (text, q.cursor)) = .ok (['a', 'x', 'é'], 0) := by
  have facts : (Pattern.ofNative ['x', '*'] (.single .global)).toOption.map (fun p =>
      (p.program.isSteady, p.isGlobal, (p.findAll ['a', 'x', 'é']).toOption.isSome)) = some (true, true, true) := by
    decide +kernel
  obtain ⟨p, built, facts⟩ := okOfMap facts
  obtain ⟨steady, rest⟩ := Prod.mk.inj facts
  obtain ⟨global, searched⟩ := Prod.mk.inj rest
  obtain ⟨ms, found⟩ := okOfSome searched
  have orderly := ((p.moveTo 1).leftmost steady ['a', 'x', 'é']).toOrderly
  have global : (p.moveTo 1).isGlobal = true := global
  have whole := ((replacementsStandForMatches (p.moveTo 1) ['a', 'x', 'é']).2.2.2 orderly ms found).2
  refine ⟨p, built, orderly, ?_⟩
  rw [((p.moveTo 1).replaceReplaces _ _ _).chosen, if_pos global, whole, Pattern.rewind, if_pos global]
  rfl

theorem failedReplacingKeepsCursor :
    (∃ p, Pattern.ofNative ['a'] (.single .global) = .ok p ∧
      (p.moveTo 1).replaceAll ['a'] (Substitution.groupNamed ['z', 'z']).replacer 0 = .error (.absentName ['z', 'z']) ∧
      (p.moveTo 1).cursorBehind ((p.moveTo 1).replaceAll ['a'] (Substitution.groupNamed ['z', 'z']).replacer 0) = 1) ∧
    ∃ p, Pattern.ofNative "c|(?<=\\Kc)x".toList .empty = .ok p ∧
      p.replaceAll ['c', 'x'] (.ofTemplate Pattern.wholeMatch) () = .error (Text.noneBetween ['c', 'x'] ⟨1, 0⟩) := by
  constructor
  · have facts : (Pattern.ofNative ['a'] (.single .global)).toOption.map (fun p =>
        ((p.moveTo 1).replaceAll ['a'] (Substitution.groupNamed ['z', 'z']).replacer 0).map Prod.fst) =
          some (.error (.absentName ['z', 'z'])) := by
      decide +kernel
    obtain ⟨p, built, facts⟩ := okOfMap facts
    have failed := mapFails facts
    refine ⟨p, built, failed, ?_⟩
    rw [failed]
    rfl
  · have facts : (Pattern.ofNative "c|(?<=\\Kc)x".toList .empty).toOption.map (fun p =>
        (p.replaceAll ['c', 'x'] (.ofTemplate Pattern.wholeMatch) ()).map Prod.fst) =
          some (.error (Text.noneBetween ['c', 'x'] ⟨1, 0⟩)) := by
      cbv
    obtain ⟨p, built, facts⟩ := okOfMap facts
    exact ⟨p, built, mapFails facts⟩

end ExtendedPattern
