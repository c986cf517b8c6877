import ExtendedPattern.Proofs.RunSkips
import ExtendedPattern.Proofs.Tiling

/-! An escape character that the subject does not contain. Its runs pass over no delimiter, so behind a run the
searches find what they find in front of it. -/
namespace ExtendedPattern
open Text (size)

namespace Balanced
variable {flags : FlagSet} {e : Char} {subject : Text}

theorem scansAgree {one other : Searches} {mode : Mode} (lawful : one.Lawful subject)
    (same : ∀ {place}, subject.IsPlace place ∨ subject.size < place → one.next place = other.next place) {fuel : Nat}
    {s : State} (at_ : subject.IsPlace s.position ∨ subject.size < s.position) :
    scan subject mode one fuel s = scan subject mode other fuel s := by
  induction fuel generalizing s with
  | zero => rfl
  | succ fuel ih =>
    rw [scanRound, scanRound, ← same at_]
    cases searched : one.next s.position with
    | error e => rfl
    | ok found =>
      dsimp only
      cases met : s.meet subject mode found with
      | mk verdict t =>
        cases verdict with
        | done => rfl
        | unbalanced => rfl
        | goOn =>
          refine ih ?_
          cases met ▸ stateMeets subject mode s found with
          | stays ends => contradiction
          | enters => exact (passedBehind (lawful.next searched).2.1 _).2.2
          | leaves => exact (passedBehind (lawful.next searched).2.1 _).2.2

section
variable {left right run : Pattern} {start stop : Nat}

theorem escapeAnswers (within : run.Within subject) (place : Nat) :
    ∃ found, escapeSearch (some run) subject place = .ok found := by
  unfold escapeSearch
  dsimp only
  by_cases beyond : subject.size < place
  · rw [Pattern.execAtBeyond beyond]
    exact ⟨_, rfl⟩
  · rw [Pattern.execAtInside (Nat.le_of_not_lt beyond)]
    obtain ⟨result, answer⟩ := within.answers (Text.boundaryIsPlace subject place)
    rw [answer]
    cases result <;> exact ⟨_, rfl⟩

theorem Skips.searchesAgain {last last' : Engine.Reader.Modes} {n m : Engine.Node}
    (skips : Skips left right subject start stop) (place : subject.IsPlace start)
    (leftMatched : left.MatchedBy flags last n) (rightMatched : right.MatchedBy flags last' m)
    (leftWithin : left.Within subject) (rightWithin : right.Within subject) :
    spanSearch left subject stop = spanSearch left subject start ∧
      spanSearch right subject stop = spanSearch right subject start := by
  have again {p : Pattern} {last : Engine.Reader.Modes} {n : Engine.Node} (matched : p.MatchedBy flags last n)
      (within : p.Within subject) (free : ∀ {q}, start ≤ q → q < stop → ¬ p.MatchesAt subject q) :
      spanSearch p subject stop = spanSearch p subject start := by
    rw [spanSearch, spanSearch, (Pattern.steady matched.steady subject).skips (within.answers place) place skips.place
      skips.ordered free]
  exact ⟨again leftMatched leftWithin skips.left, again rightMatched rightWithin skips.right⟩

end

namespace Call
variable {c : Call} {left right : Text} {s : Session}

/-- The delimiters mean the same in the pattern for a run as they do alone: they need no backtracking or are tame,
take no native flags but those of the call, and the left one leaves no modes on for the right one. No character of
the subject is the escape character, and no search exceeds its limit. -/
structure Faithful (c : Call) (e : Char) (flags : FlagSet) (subject : Text) : Prop where
  left : c.left.Plain flags
  right : c.right.Plain flags
  leftWithin : c.left.Within subject
  rightWithin : c.right.Within subject
  leftModes : c.left.lastModes = some flags.modes
  rightModes : ∀ modes ∈ c.right.lastModes, modes.freeSpacing = false
  unseen : Unseen e flags subject
  run : ∃ run, escapePattern [e] c.left c.right (flags.diff (.single .sticky)) = .ok run ∧ run.Within subject

theorem Faithful.matched (faithful : c.Faithful e flags subject) (built : Built left right flags none s c) :
    ∃ n last m, c.left.MatchedBy flags flags.modes n ∧ c.right.MatchedBy flags last m ∧ last.freeSpacing = false := by
  obtain ⟨t, u, leftBuilt, rightBuilt⟩ := built.sides
  obtain ⟨first, n, leftLast, leftMatched⟩ := faithful.left.tree (Pattern.builtOf leftBuilt)
  obtain ⟨last, m, rightLast, rightMatched⟩ := faithful.right.tree (Pattern.builtOf rightBuilt)
  cases leftLast.symm.trans faithful.leftModes
  exact ⟨n, last, m, leftMatched, rightMatched, faithful.rightModes last rightLast⟩

theorem Faithful.next (faithful : c.Faithful e flags subject) (built : Built left right flags none s c) :
    ∃ run, Call.run (some [e]) c.left c.right (flags.diff (.single .sticky)) = .ok (some run) ∧
      ∀ {place}, subject.IsPlace place ∨ subject.size < place →
        (c.search subject).next place = (Call.search { c with escape := some run } subject).next place := by
  obtain ⟨run, escapes, within⟩ := faithful.run
  obtain ⟨n, last, m, leftMatched, rightMatched, solid⟩ := faithful.matched built
  have plain : ∀ place, escapeSearch c.escape subject place = .ok none := by
    intro place
    rw [← Except.ok.inj built.escape]
    rfl
  refine ⟨run, by rw [Call.run, escapes]; rfl, fun {place} at_ => ?_⟩
  obtain ⟨found, answer⟩ := escapeAnswers within place
  simp only [Searches.next, Call.search, answer, plain]
  cases found with
  | none => rfl
  | some stop =>
    have here : subject.IsPlace place := at_.resolve_right fun beyond => by
      rw [escapeSearch, Pattern.execAtBeyond beyond] at answer
      cases answer
    have skips := runSkips leftMatched rightMatched solid flags.nativeUnpinned escapes faithful.unseen here answer
    obtain ⟨toLeft, toRight⟩ :=
      skips.searchesAgain here leftMatched rightMatched faithful.leftWithin faithful.rightWithin
    simp only [bind, Except.bind, Option.getD_some, Option.getD_none, toLeft, toRight]

theorem Faithful.answer (faithful : c.Faithful e flags subject) (built : Built left right flags none s c)
    (labels : Option PartLabels) :
    ∃ run, Call.run (some [e]) c.left c.right (flags.diff (.single .sticky)) = .ok (some run) ∧
      c.answer subject labels = Call.answer { c with escape := some run } subject labels := by
  obtain ⟨run, escapes, agree⟩ := faithful.next built
  obtain ⟨n, last, m, leftMatched, rightMatched, _⟩ := faithful.matched built
  have orderly : c.Orderly subject := by
    refine ⟨(Pattern.steady leftMatched.steady subject).toOrderly, (Pattern.steady rightMatched.steady subject).toOrderly,
      fun p some => ?_⟩
    rw [← Except.ok.inj built.escape] at some
    cases some
  have start : subject.IsPlace (State.position {}) ∨ subject.size < State.position {} := .inl (Text.placeAtStart subject)
  have scans : c.scan subject = Call.scan { c with escape := some run } subject := scansAgree orderly.lawful agree start
  exact ⟨run, escapes, by rw [Call.answer, Call.answer, scans]⟩

end Call

/-- An escape character that the subject does not contain changes nothing, whatever the subject, the flags and
the labels are, where the delimiters mean in the pattern for a run what they mean alone. -/
theorem unusedEscapeChangesNothing {subject left right letters : Text} {labels : Option PartLabels} {e : Char}
    {s : Session} (faithful : ∀ {flags call}, FlagSet.ofLetters letters = .ok flags →
      (Call.prepare left right flags none s).1 = .ok call → call.Faithful e flags subject) :
    (matchBalanced subject left right letters { labels, escape := some [e] } s).1 =
      (matchBalanced subject left right letters { labels, escape := none } s).1 := by
  rw [matchPrepares, matchPrepares]
  cases known : FlagSet.ofLetters letters with
  | error e => rfl
  | ok flags =>
    dsimp only
    rw [Call.prepareRun]
    cases prepared : (Call.prepare left right flags none s).1 with
    | error e => rfl
    | ok call =>
      obtain ⟨run, escapes, same⟩ := (faithful known prepared).answer (Call.prepareBuilds prepared) labels
      simp only [escapes, Except.map, same]

theorem letterPairNeedsNoEscape :
    (∀ {flags call}, FlagSet.ofLetters ['g'] = .ok flags → (Call.prepare ['a'] ['b'] flags none {}).1 = .ok call →
      call.Faithful '!' flags ['z', 'a', 'x', 'b']) ∧
    (matchBalanced ['z', 'a', 'x', 'b'] ['a'] ['b'] ['g'] { escape := some ['!'] } {}).1 =
      (matchBalanced ['z', 'a', 'x', 'b'] ['a'] ['b'] ['g'] { escape := none } {}).1 := by
  let left := Pattern.ofCharacter 'a' (.single .global)
  let right := Pattern.ofCharacter 'b' (.single .global)
  obtain ⟨t, leftBuilt, idle⟩ := @Pattern.compilesCharacter 'a' (.single .global) rfl {} rfl
  obtain ⟨u, rightBuilt, _⟩ := @Pattern.compilesCharacter 'b' (.single .global) rfl t idle
  have prepared : (Call.prepare ['a'] ['b'] (.single .global) none {}).1 = .ok ⟨⟨true, false⟩, left, right, none⟩ :=
    Call.prepareOf leftBuilt rightBuilt rfl
  have answers : ∀ place ∈ List.range 5,
      ((Pattern.ofRun 'a' 'b' '!').nativeSearch ['z', 'a', 'x', 'b'] place).toOption.isSome := by
    decide +kernel
  have faithful : Call.Faithful ⟨⟨true, false⟩, left, right, none⟩ '!' (.single .global) ['z', 'a', 'x', 'b'] := by
    refine ⟨⟨.inl ⟨_, rfl⟩, rfl⟩, ⟨.inl ⟨_, rfl⟩, rfl⟩, Pattern.lockstepWithin rfl _, Pattern.lockstepWithin rfl _,
      Pattern.characterModes 'a' rfl, ?_, ⟨by decide, nofun⟩, .ofRun 'a' 'b' '!', escapeBuilt 'a' 'b' '!', ?_⟩
    · rintro modes last
      cases (Pattern.characterModes 'b' rfl).symm.trans last
      rfl
    · intro place at_ fails
      have some := answers place (List.mem_range.mpr (Nat.lt_succ_of_le (Text.placeInside at_)))
      rw [fails] at some
      cases some
  have faithful : ∀ {flags call}, FlagSet.ofLetters ['g'] = .ok flags →
      (Call.prepare ['a'] ['b'] flags none {}).1 = .ok call → call.Faithful '!' flags ['z', 'a', 'x', 'b'] := by
    rintro flags call ⟨⟩ again
    cases prepared.symm.trans again
    exact faithful
  exact ⟨faithful, unusedEscapeChangesNothing faithful⟩

theorem caselessCompiles (c : Literal) {s : Session} (idle : s.inRules = false) :
    ∃ t : Session, Pattern.withRegistry ['(', '?', 'i', ')', c.char] .empty .global s =
      (Pattern.assemble ['(', '?', 'i', ')', c.char] [c.char] (.single .ignoreCase) none {}, t) ∧ t.inRules = false := by
  have modes : Scanning.Writes _ ['(', '?', 'i', ')', c.char] [] ['(', '?', 'i', ')'] [c.char]
      ⟨.outside, .start .empty⟩ ⟨.outside, .start (.single .ignoreCase)⟩ [] :=
    @Scanning.ofLeadingModes _ _ _ _ _ _ .global ['i'] _ Scanning.exceeds (by simp) (List.forall_mem_singleton.mpr rfl) rfl
  have letter : Scanning.Writes _ ['(', '?', 'i', ')', c.char] ['(', '?', 'i', ')'] [c.char] []
      ⟨.outside, .start (.single .ignoreCase)⟩ ⟨.outside, .start (.single .ignoreCase)⟩ [c.char] :=
    Scanning.ofLiteral .global c
  have start : (Context.start (.single .ignoreCase)).flags = .single .ignoreCase ∧
      (Context.start (.single .ignoreCase)).names = none := ⟨rfl, rfl⟩
  have both : Scanning.Writes _ ['(', '?', 'i', ')', c.char] [] ['(', '?', 'i', ')', c.char] []
      ⟨.outside, .start .empty⟩ ⟨.outside, .start (.single .ignoreCase)⟩ [c.char] :=
    @Scanning.andThen _ _ _ _ _ _ _ _ ['(', '?', 'i', ')'] [c.char] _ _ modes letter
  have searches : Registry.global.Searches ['(', '?', 'i', ')', c.char] := Registry.Standard.global.shortSearches (by simp)
  obtain ⟨t, compiled, still⟩ := Pattern.compilesTo .global searches both idle
  rw [start.1, start.2] at compiled
  exact ⟨t, compiled, still⟩

theorem escapeHidesCaselessPair :
    '!' ∉ ['z', 'A', 'x', 'B'] ∧
    (matchBalanced ['z', 'A', 'x', 'B'] ['(', '?', 'i', ')', 'a'] ['(', '?', 'i', ')', 'b'] []
      { escape := none } {}).1 = .ok (.values [['x']]) ∧
    (matchBalanced ['z', 'A', 'x', 'B'] ['(', '?', 'i', ')', 'a'] ['(', '?', 'i', ')', 'b'] []
      { escape := some ['!'] } {}).1 = .ok (.values []) := by
  let subject : Text := ['z', 'A', 'x', 'B']
  have facts : ((Pattern.assemble ['(', '?', 'i', ')', 'a'] ['a'] (.single .ignoreCase) none {}).bind fun l =>
      (Pattern.assemble ['(', '?', 'i', ')', 'b'] ['b'] (.single .ignoreCase) none {}).map fun r =>
        (l.native, r.native, Call.answer ⟨⟨false, false⟩, l, r, none⟩ subject none,
          Call.answer ⟨⟨false, false⟩, l, r, some (.ofRun 'a' 'b' '!')⟩ subject none)) =
      .ok (['a'], ['b'], .ok (.values [['x']]), .ok (.values [])) := by
    decide +kernel
  obtain ⟨t, leftBuilt, idle⟩ := caselessCompiles ⟨'a', by decide, by decide⟩ (s := {}) rfl
  obtain ⟨u, rightBuilt, _⟩ := caselessCompiles ⟨'b', by decide, by decide⟩ idle
  dsimp only at leftBuilt rightBuilt
  cases leftMade : Pattern.assemble ['(', '?', 'i', ')', 'a'] ['a'] (.single .ignoreCase) none {} with
  | error e => rw [leftMade] at facts; cases facts
  | ok l =>
    cases rightMade : Pattern.assemble ['(', '?', 'i', ')', 'b'] ['b'] (.single .ignoreCase) none {} with
    | error e => rw [leftMade, rightMade] at facts; cases facts
    | ok r =>
      rw [leftMade, rightMade] at facts
      simp only [Except.bind, Except.map, Except.ok.injEq, Prod.mk.injEq] at facts
      obtain ⟨leftText, rightText, answer, hidden⟩ := facts
      rw [leftMade] at leftBuilt
      rw [rightMade] at rightBuilt
      have letters : escapeChar 'a' = ['a'] ∧ escapeChar 'b' = ['b'] := by decide
      rw [← letters.1] at leftText
      rw [← letters.2] at rightText
      have native : FlagSet.diff .empty (.single .sticky) = .empty := rfl
      have run : Call.run (some ['!']) l r .empty = .ok (some (.ofRun 'a' 'b' '!')) := by
        rw [Call.run, escapeBuiltOf '!' leftText rightText rfl]
        rfl
      have known : FlagSet.ofLetters [] = .ok .empty := rfl
      rw [← native] at leftBuilt rightBuilt run
      have plain := @matchAnswers subject _ _ _ { escape := none } _ _ _ known (Call.prepareOf leftBuilt rightBuilt rfl)
      have escaped := @matchAnswers subject _ _ _ { escape := some ['!'] } _ _ _ known
        (Call.prepareOf leftBuilt rightBuilt run)
      exact ⟨by decide, plain.trans answer, escaped.trans hidden⟩

end Balanced
end ExtendedPattern
