import ExtendedPattern.Proofs.LiteralSearch
import ExtendedPattern.Proofs.Replacement
import ExtendedPattern.Split

/-! Splitting loses no text. A match separates where it ends behind the separator before it; the pieces are
what stands between the separators, with their groups in between. -/
namespace ExtendedPattern
open Text (size)

namespace Split
open Iteration (lastStop lastStopNext Apart Overlap)

def accepted (lastEnd : Nat) : List Match → List Match
  | [] => []
  | m :: more => if lastEnd < m.stop then m :: accepted m.stop more else accepted lastEnd more

def pieces (subject : Text) (lastEnd : Nat) : List Match → List (Option Text)
  | [] => []
  | m :: more => some (subject.slice ⟨lastEnd, m.start⟩) ::
      ((if m.start < subject.size then m.texts.drop 1 else []) ++ pieces subject m.stop more)

def endsBare (p : Pattern) (subject : Text) (separators : List Match) : Except Failure Bool :=
  if lastStop 0 separators = subject.size then
    (p.isMatch []).map fun matchesNothing => matchesNothing && separators.getLast?.all fun m => m.text.isEmpty
  else .ok false

def around (p : Pattern) (subject : Text) (separators : List Match) : Except Failure (List (Option Text)) :=
  (endsBare p subject separators).map fun bare =>
    pieces subject 0 separators ++ if bare then [] else [some (subject.dropBytes (lastStop 0 separators))]

def gaps (subject : Text) (lastEnd : Nat) : List Match → List Text
  | [] => []
  | m :: more => subject.slice ⟨lastEnd, m.start⟩ :: gaps subject m.stop more

variable {subject : Text} {lastEnd : Nat} {m : Match} {more : List Match}

def cutAll (s : Progress) : List Match → Except Failure Progress
  | [] => .ok s
  | m :: more => (s.cut m).bind fun s => cutAll s more

theorem cutApart (s : Progress) (inputs : m.input = subject) (behind : s.lastEnd ≤ m.start) :
    s.cut m = .ok ⟨s.pieces ++ some (subject.slice ⟨s.lastEnd, m.start⟩) ::
      (if m.start < subject.size then m.texts.drop 1 else []), m.stop, some (size m.text)⟩ := by
  rw [Progress.cut, inputs, Text.betweenOrdered behind]
  rfl

theorem cutAllApart (s : Progress) {ms : List Match} (inputs : ∀ m ∈ ms, m.input = subject) (apart : Apart s.lastEnd ms) :
    cutAll s ms = .ok ⟨s.pieces ++ pieces subject s.lastEnd ms, lastStop s.lastEnd ms,
      (ms.getLast?.map fun m => size m.text).or s.lastSeparator⟩ := by
  induction ms generalizing s with
  | nil => simp [cutAll, pieces, lastStop]
  | cons m more ih =>
    obtain ⟨here, others⟩ := List.forall_mem_cons.mp inputs
    rw [cutAll, cutApart s here apart.1]
    refine (ih _ others apart.2).trans ?_
    rw [lastStopNext, pieces, List.getLast?_cons, List.append_assoc, List.cons_append]
    cases more.getLast? <;> rfl

theorem cutAllOverlaps (s : Progress) {front : List Match} (inputs : ∀ n ∈ front ++ m :: more, n.input = subject)
    (overlap : Overlap s.lastEnd front m) :
    cutAll s (front ++ m :: more) = .error (subject.noneBetween ⟨lastStop s.lastEnd front, m.start⟩) := by
  induction front generalizing s with
  | nil =>
    obtain ⟨here, _⟩ := List.forall_mem_cons.mp inputs
    have early : m.start < s.lastEnd := overlap.early
    rw [List.nil_append, cutAll, Progress.cut, here, Text.betweenReversed early]
    rfl
  | cons n front ih =>
    obtain ⟨here, others⟩ := List.forall_mem_cons.mp inputs
    obtain ⟨⟨behind, apart⟩, early⟩ := overlap
    rw [lastStopNext] at early ⊢
    rw [List.cons_append, cutAll, cutApart s here behind]
    exact ih _ others ⟨apart, early⟩

theorem separateRound (search : Iteration.Searcher) (fuel start : Nat) (s : Progress)
    (beyond : size subject < start → search start = .ok none) :
    separate search (size subject) none (fuel + 1) start s =
      match search start with
      | .error e => .error e
      | .ok none => .ok s
      | .ok (some m) => (if s.lastEnd < m.stop then s.cut m else .ok s).bind
          (separate search (size subject) none fuel m.resume) := by
  rw [separate]
  by_cases behind : size subject < start
  · rw [if_pos behind, beyond behind]
  · rw [if_neg behind]
    cases search start with
    | error e => rfl
    | ok found =>
      cases found with
      | none => rfl
      | some m =>
        simp only [bind, Except.bind, isReached, Option.any_none, Bool.false_eq_true, if_false]
        split <;> rfl

theorem separateAccepts {search : Iteration.Searcher} (beyond : ∀ start, size subject < start → search start = .ok none)
    {fuel start : Nat} (s : Progress) {ms : List Match} (found : Iteration.matchesFrom search fuel start = .ok ms) :
    separate search (size subject) none fuel start s = cutAll s (accepted s.lastEnd ms) := by
  induction fuel generalizing start s ms with
  | zero => cases found
  | succ fuel ih =>
    rw [separateRound search fuel start s (beyond start)]
    obtain ⟨searched, rfl⟩ | ⟨m, more, searched, rest, rfl⟩ := Iteration.matchesFromFound found
    · rw [searched]
      rfl
    · simp only [searched, accepted]
      split
      · rw [cutAll]
        cases cut : s.cut m with
        | error e => rfl
        | ok t =>
          obtain ⟨_, _, rfl⟩ := mapOk cut
          exact ih _ rest
      · exact ih s rest

theorem separateFails {search : Iteration.Searcher} (beyond : ∀ start, size subject < start → search start = .ok none)
    {fuel start : Nat} (s : Progress) {e : Failure} (failed : Iteration.matchesFrom search fuel start = .error e) :
    ∃ e', separate search (size subject) none fuel start s = .error e' := by
  induction fuel generalizing start s with
  | zero => exact ⟨_, rfl⟩
  | succ fuel ih =>
    rw [Iteration.matchesFromRound] at failed
    rw [separateRound search fuel start s (beyond start)]
    cases searched : search start with
    | error e' => exact ⟨e', rfl⟩
    | ok result =>
      rw [searched] at failed
      cases result with
      | none => cases failed
      | some m =>
        cases cut : (if s.lastEnd < m.stop then s.cut m else .ok s) with
        | error e' => exact ⟨e', by simp only [cut]; rfl⟩
        | ok t =>
          obtain ⟨e', stopped⟩ := ih t (mapFails failed)
          exact ⟨e', by simp only [cut]; exact stopped⟩

theorem acceptedFound (lastEnd : Nat) (ms : List Match) : (accepted lastEnd ms).Sublist ms := by
  induction ms generalizing lastEnd with
  | nil => exact .refl _
  | cons m more ih =>
    unfold accepted
    split
    · exact (ih m.stop).cons_cons m
    · exact (ih lastEnd).cons m

theorem lastSolid (last : Option Match) :
    (last.map fun m => size m.text).any (0 < ·) = !last.all fun m => m.text.isEmpty := by
  cases last with
  | none => rfl
  | some m =>
    cases text : m.text with
    | nil => simp [text, size]
    | cons c rest =>
      have positive := c.utf8Size_pos
      simp [text, size, positive]

section
variable {p : Pattern} {ms : List Match}

theorem acceptedCuts (found : p.findAll subject = .ok ms) :
    ∀ m ∈ accepted 0 ms, m.input = subject ∧ subject.Cuts m.range := fun m mem =>
  Iteration.foundCuts found m ((acceptedFound 0 ms).subset mem)

theorem separateFound (found : p.findAll subject = .ok ms) :
    separate (p.searcher subject) subject.size none (Iteration.rounds subject) 0 {} = cutAll {} (accepted 0 ms) :=
  separateAccepts (fun _ => Iteration.searchBeyond) {} found

theorem splitsAround (found : p.findAll subject = .ok ms) (apart : Apart 0 (accepted 0 ms)) :
    p.split subject none = around p subject (accepted 0 ms) := by
  have cut := cutAllApart {} (fun m mem => (acceptedCuts found m mem).1) apart
  have nothing := (Text.dropsAll (Text.placeAtEnd subject)).mpr rfl
  simp only [Pattern.split, reduceCtorEq, if_false, (separateFound found).trans cut, bind, Except.bind, around, endsBare, Option.or_none,
    lastSolid, capped, List.nil_append]
  split
  · rename_i atEnd
    rw [atEnd, nothing]
    cases p.isMatch [] with
    | error e => rfl
    | ok matchesNothing =>
      simp only [Except.map]
      generalize ((accepted 0 ms).getLast?.all fun m => m.text.isEmpty) = nothingLast
      cases matchesNothing <;> cases nothingLast <;> rfl
  · rfl

theorem splitOverlaps (found : p.findAll subject = .ok ms) {front : List Match} (split : accepted 0 ms = front ++ m :: more)
    (overlap : Overlap 0 front m) :
    p.split subject none = .error (subject.noneBetween ⟨lastStop 0 front, m.start⟩) := by
  have inputs : ∀ n ∈ front ++ m :: more, n.input = subject := split ▸ fun n mem => (acceptedCuts found n mem).1
  have cut := (separateFound found).trans (split ▸ cutAllOverlaps {} inputs overlap)
  simp only [Pattern.split, reduceCtorEq, if_false, cut]
  rfl

theorem splitFails {e : Failure} (failed : p.findAll subject = .error e) : ∃ e', p.split subject none = .error e' := by
  have stops : ∃ e', separate (p.searcher subject) subject.size none (Iteration.rounds subject) 0 {} = .error e' :=
    separateFails (fun _ => Iteration.searchBeyond) {} failed
  obtain ⟨e', stopped⟩ := stops
  refine ⟨e', ?_⟩
  simp only [Pattern.split, reduceCtorEq, if_false, stopped]
  rfl

theorem splitFinds {out : List (Option Text)} (split : p.split subject none = .ok out) :
    ∃ ms, p.findAll subject = .ok ms ∧ Apart 0 (accepted 0 ms) ∧ around p subject (accepted 0 ms) = .ok out := by
  cases found : p.findAll subject with
  | error e =>
    obtain ⟨_, failed⟩ := splitFails found
    cases failed.symm.trans split
  | ok ms =>
    obtain apart | ⟨front, m, more, same, overlap⟩ := Iteration.apartOrNot 0 (accepted 0 ms)
    · exact ⟨ms, rfl, apart, (splitsAround found apart).symm.trans split⟩
    · cases (splitOverlaps found same overlap).symm.trans split

end

theorem acceptedApart {ms : List Match} (inOrder : Iteration.InOrder subject lastEnd ms) : Apart lastEnd (accepted lastEnd ms) := by
  induction inOrder with
  | none => trivial
  | @next lastEnd m more input behind cuts _ ih =>
    unfold accepted
    split
    · exact ⟨behind, ih⟩
    · have order : m.start ≤ m.stop := cuts.ordered
      obtain rfl : m.stop = lastEnd := by omega
      exact ih

theorem lastStopPlace (before : subject.IsPlace lastEnd) {separators : List Match}
    (cuts : ∀ m ∈ separators, m.input = subject ∧ subject.Cuts m.range) : subject.IsPlace (lastStop lastEnd separators) := by
  induction separators generalizing lastEnd with
  | nil => exact before
  | cons m more ih =>
    obtain ⟨⟨_, here⟩, others⟩ := List.forall_mem_cons.mp cuts
    rw [lastStopNext]
    exact ih here.stop others

theorem groupless {separators : List Match} (alone : ∀ m ∈ separators, m.texts.drop 1 = []) :
    pieces subject lastEnd separators = (gaps subject lastEnd separators).map some := by
  induction separators generalizing lastEnd with
  | nil => rfl
  | cons m more ih =>
    obtain ⟨here, others⟩ := List.forall_mem_cons.mp alone
    simp [pieces, gaps, here, ih others]

theorem gapsWeave (last : List Text) (single : last.length ≤ 1) (separators : List Match)
    (ends : last.flatten = subject.dropBytes (lastStop lastEnd separators)) :
    (List.zipWith (· ++ ·) (gaps subject lastEnd separators ++ last) (separators.map Match.text ++ [[]])).flatten =
      Replace.weave subject lastEnd (separators.map fun m => (m, m.text)) := by
  induction separators generalizing lastEnd with
  | nil =>
    refine Eq.trans ?_ ends
    rcases last with _ | ⟨piece, _ | _⟩
    · rfl
    · simp [gaps]
    · simp at single
  | cons m more ih =>
    rw [lastStopNext] at ends
    simp [gaps, Replace.weave, ih ends]

theorem joinWeaves (t subject : Text) (lastEnd : Nat) (separators : List Match) :
    t.intercalate (gaps subject lastEnd separators ++ [subject.dropBytes (lastStop lastEnd separators)]) =
      Replace.weave subject lastEnd (separators.map fun m => (m, t)) := by
  induction separators generalizing lastEnd with
  | nil => exact List.intercalate_singleton
  | cons m more ih =>
    rw [lastStopNext, gaps, List.cons_append, List.intercalate_cons_of_ne_nil (by simp), ih]
    rfl

end Split

namespace Pattern
variable {p : Pattern} {subject t : Text} {ms : List Match}

theorem foundTexts (groupless : p.groupCount = 0) {start : Nat} {m : Match}
    (found : p.searcher subject start = .ok (some m)) : m.texts.drop 1 = [] := by
  obtain ⟨_, groups, rfl, searched, _⟩ := execAtFound found
  have few := Engine.Program.searchGroups (searchedBy searched)
  rw [groupCount] at groupless
  rw [groupless, Nat.le_zero, List.length_eq_zero_iff] at few
  rw [Match.texts, ← List.map_drop, few, List.map_nil]

theorem piecesFill (groupless : p.groupCount = 0) (found : p.findAll subject = .ok ms)
    {out : List (Option Text)} (split : p.split subject none = .ok out) : ∃ pieces : List Text, out = pieces.map some ∧
      (List.zipWith (· ++ ·) pieces ((Split.accepted 0 ms).map Match.text ++ [[]])).flatten = subject := by
  have start := Text.placeAtStart subject
  have cuts := Split.acceptedCuts found
  have alone : ∀ m ∈ Split.accepted 0 ms, m.texts.drop 1 = [] := fun m mem =>
    Iteration.foundAll (foundTexts groupless) found m ((Split.acceptedFound 0 ms).subset mem)
  obtain ⟨_, again, apart, split⟩ := Split.splitFinds split
  cases found.symm.trans again
  simp only [Split.around, Split.groupless alone] at split
  generalize Split.accepted 0 ms = separators at cuts apart split ⊢
  have whole : Replace.weave subject 0 (separators.map fun m => (m, m.text)) = subject :=
    (Replace.weaveTexts (Iteration.inOrderApart cuts apart) start).trans (Text.dropAtStart subject)
  obtain ⟨bare, ends, rfl⟩ := mapOk split
  cases bare with
  | false =>
    have filled := Split.gapsWeave [subject.dropBytes (Iteration.lastStop 0 separators)] (Nat.le_refl 1) separators
      List.flatten_singleton
    exact ⟨_, by simp, filled.trans whole⟩
  | true =>
    have atEnd : Iteration.lastStop 0 separators = subject.size := by
      by_contra before
      rw [Split.endsBare, if_neg before] at ends
      cases ends
    have nothing := (Text.dropsAll (Split.lastStopPlace start cuts)).mpr atEnd
    exact ⟨_, by simp, (Split.gapsWeave [] (Nat.zero_le 1) separators nothing.symm).trans whole⟩

theorem foundIsText (finds : p.Finds t) {start : Nat} {m : Match} (found : p.searcher subject start = .ok (some m)) :
    m.texts.drop 1 = [] ∧ m.text = t := by
  obtain ⟨place?, first, searched⟩ := finds subject start false
  cases place? with
  | none => cases found.symm.trans searched
  | some n =>
    cases found.symm.trans searched
    obtain ⟨before, after, rfl, rfl⟩ := first.1
    exact ⟨rfl, Text.sliceOfParts before t after⟩

theorem findsInNothing (finds : p.Finds t) (solid : t ≠ []) : p.isMatch [] = .ok false := by
  obtain ⟨place?, first, searched⟩ := finds [] 0 false
  have none : place? = none := by
    cases place? with
    | none => rfl
    | some n =>
      obtain ⟨before, after, same, _⟩ := first.1
      simp [solid] at same
  rw [none, execAtInside (Nat.zero_le _), Text.boundaryOfPlace (Text.placeAtStart [])] at searched
  rw [isMatch]
  cases missed : p.nativeSearch [] 0 with
  | error e => rw [missed] at searched; cases searched
  | ok result =>
    cases result with
    | none => rfl
    | some groups => rw [missed] at searched; cases searched

theorem literalSeparates (finds : p.Finds t) (solid : t ≠ []) (subject : Text) :
    ∃ pieces, p.split subject none = .ok (pieces.map some) ∧ t.intercalate pieces = subject := by
  have orderly := finds.orderly subject
  cases found : p.findAll subject with
  | error e =>
    obtain ⟨place, failed⟩ := Iteration.traceFails (Iteration.traceAll orderly) found
    obtain ⟨place?, _, searched⟩ := finds subject place false
    cases failed.symm.trans searched
  | ok ms =>
    have cuts := Split.acceptedCuts found
    have apart := Split.acceptedApart (Iteration.foundInOrder orderly found)
    have each : ∀ m ∈ Split.accepted 0 ms, m.texts.drop 1 = [] ∧ m.text = t := fun m mem =>
      Iteration.foundAll (foundIsText finds) found m ((Split.acceptedFound 0 ms).subset mem)
    rw [Split.splitsAround found apart]
    simp only [Split.around, Split.groupless fun m mem => (each m mem).1]
    generalize Split.accepted 0 ms = separators at cuts apart each ⊢
    have goesOn : Split.endsBare p subject separators = .ok false := by
      rw [Split.endsBare, findsInNothing finds solid]
      split <;> rfl
    have own : (separators.map fun m => (m, t)) = separators.map fun m => (m, m.text) :=
      List.map_congr_left fun m mem => by rw [(each m mem).2]
    have joined := Split.joinWeaves t subject 0 separators
    rw [own, Replace.weaveTexts (Iteration.inOrderApart cuts apart) (Text.placeAtStart subject), Text.dropAtStart] at joined
    exact ⟨_, by rw [goesOn]; simp [Except.map], joined⟩

/-- What splitting comes to. Accepted matches that overlap have no text between them, and then nothing is given back. -/
structure Splits (p : Pattern) (subject : Text) : Prop where
  around : ∀ ms, p.findAll subject = .ok ms → Iteration.Apart 0 (Split.accepted 0 ms) →
    p.split subject none = Split.around p subject (Split.accepted 0 ms)
  overlaps : ∀ ms front m more, p.findAll subject = .ok ms → Split.accepted 0 ms = front ++ m :: more →
    Iteration.Overlap 0 front m →
    p.split subject none = .error (subject.noneBetween ⟨Iteration.lastStop 0 front, m.start⟩)
  fails : ∀ e, p.findAll subject = .error e → ∃ e', p.split subject none = .error e'
  apart : p.Orderly subject → ∀ ms, p.findAll subject = .ok ms → Iteration.Apart 0 (Split.accepted 0 ms)
  bare : ∀ ms, p.findAll subject = .ok ms → (Iteration.lastStop 0 (Split.accepted 0 ms) = subject.size ↔
    subject.dropBytes (Iteration.lastStop 0 (Split.accepted 0 ms)) = [])
  filled : p.groupCount = 0 → ∀ ms out, p.findAll subject = .ok ms → p.split subject none = .ok out →
    ∃ pieces : List Text, out = pieces.map some ∧
      (List.zipWith (· ++ ·) pieces ((Split.accepted 0 ms).map Match.text ++ [[]])).flatten = subject
  joined : ∀ t, t ≠ [] → p.SpellsOut t →
    ∃ pieces, p.split subject none = .ok (pieces.map some) ∧ t.intercalate pieces = subject

end Pattern

/-- The pieces are what stands around the accepted matches, with their groups, and the rest unless it may be left out.
Without groups, pieces and separators make up the subject; so do pieces joined with a separator that is a text. -/
theorem splittingLosesNoText (p : Pattern) (subject : Text) : p.Splits subject where
  around _ := Split.splitsAround
  overlaps _ _ _ _ found := Split.splitOverlaps found
  fails _ := Split.splitFails
  apart orderly _ found := Split.acceptedApart (Iteration.foundInOrder orderly found)
  bare _ found := (Text.dropsAll (Split.lastStopPlace (Text.placeAtStart subject) (Split.acceptedCuts found))).symm
  filled groupless _ _ found := Pattern.piecesFill groupless found
  joined _ solid spells := Pattern.literalSeparates spells.finds solid subject

theorem separatorsOfBothKinds :
    (∃ p, Pattern.ofNative ['x', '*'] .empty = .ok p ∧ p.groupCount = 0 ∧
      ∃ ms pieces, p.findAll ['a', 'x', 'é', 'b'] = .ok ms ∧
        p.split ['a', 'x', 'é', 'b'] none = .ok (pieces.map some) ∧ pieces.map some = [some ['a'], some ['é'], some ['b']] ∧
        (List.zipWith (· ++ ·) pieces ((Split.accepted 0 ms).map Match.text ++ [[]])).flatten = ['a', 'x', 'é', 'b']) ∧
    ∃ p : Pattern, ['.', ' '] ≠ [] ∧ p.SpellsOut ['.', ' '] ∧ ∃ pieces : List Text,
      p.split ['.', ' ', 'a', '.', ' '] none = .ok (pieces.map some) ∧
        ['.', ' '].intercalate pieces = ['.', ' ', 'a', '.', ' '] := by
  constructor
  · have facts : (Pattern.ofNative ['x', '*'] .empty).toOption.map (fun p =>
        (p.groupCount == 0 && (p.findAll ['a', 'x', 'é', 'b']).toOption.isSome,
          (p.split ['a', 'x', 'é', 'b'] none).toOption)) = some (true, some [some ['a'], some ['é'], some ['b']]) := by
      decide +kernel
    obtain ⟨p, built, facts⟩ := okOfMap facts
    obtain ⟨ready, splits⟩ := Prod.mk.inj facts
    simp only [Bool.and_eq_true, beq_iff_eq] at ready
    obtain ⟨groupless, searched⟩ := ready
    obtain ⟨ms, found⟩ := okOfSome searched
    have split := okOfToOption splits
    obtain ⟨pieces, same, whole⟩ := (splittingLosesNoText p _).filled groupless ms _ found split
    exact ⟨p, built, groupless, ms, pieces, found, same ▸ split, same.symm, whole⟩
  · have literally := escapeIsLiteral ['.', ' ']
    have fits := Engine.Program.literalFits literally .empty (by decide)
    have short : (escape ['.', ' ']).length < 1000000 := by decide
    obtain ⟨items, _, made⟩ := Pattern.literalCompiles (s := {}) literally .empty rfl
    obtain ⟨v, made⟩ := made.resolve_right fun exceeded => Nat.not_le.mpr short (LocalRule.farFits exceeded.2)
    rw [if_pos fits] at made
    have spells : (Pattern.ofItems _ .empty items).SpellsOut ['.', ' '] := ⟨_, _, _, _, literally, rfl, made⟩
    exact ⟨_, by simp, spells, (splittingLosesNoText _ _).joined _ (by simp) spells⟩

theorem splittingFails :
    (∃ p ms, Pattern.assemble "x|(?<=x)|(?:(?!x)|(?!x)){12}x".toList "x|(?<=x)|(?:(?!x)|(?!x)){12}x".toList .empty none
        { backtrack := 50 } = .ok p ∧ p.findAll ['x'] = .ok ms ∧ Iteration.Apart 0 (Split.accepted 0 ms) ∧
      p.split ['x'] none = .error .backtrackLimit) ∧
    ∃ p ms, Pattern.ofNative "c|(?<=\\Kc)x".toList .empty = .ok p ∧ p.findAll ['c', 'x'] = .ok ms ∧
      (Split.accepted 0 ms).map Match.range = [⟨0, 1⟩, ⟨0, 2⟩] ∧
        p.split ['c', 'x'] none = .error (Text.noneBetween ['c', 'x'] ⟨1, 0⟩) := by
  constructor
  · have facts : (Pattern.assemble "x|(?<=x)|(?:(?!x)|(?!x)){12}x".toList "x|(?<=x)|(?:(?!x)|(?!x)){12}x".toList .empty none
        { backtrack := 50 }).toOption.map (fun p => ((p.findAll ['x']).toOption.map fun ms =>
          (Split.accepted 0 ms).map Match.range, p.split ['x'] none)) = some (some [⟨0, 1⟩], .error .backtrackLimit) := by
      cbv
    obtain ⟨p, built, facts⟩ := okOfMap facts
    obtain ⟨searched, failed⟩ := Prod.mk.inj facts
    obtain ⟨ms, found, ranges⟩ := okOfMap searched
    refine ⟨p, ms, built, found, ?_, failed⟩
    cases all : Split.accepted 0 ms with
    | nil => trivial
    | cons m more =>
      rw [all] at ranges
      obtain ⟨_, rfl⟩ := List.cons.inj ranges |>.imp id List.map_eq_nil_iff.mp
      exact ⟨Nat.zero_le _, trivial⟩
  · have facts : (Pattern.ofNative "c|(?<=\\Kc)x".toList .empty).toOption.map (fun p =>
        ((p.findAll ['c', 'x']).toOption.map fun ms => (Split.accepted 0 ms).map Match.range,
          p.split ['c', 'x'] none)) =
          some (some [⟨0, 1⟩, ⟨0, 2⟩], .error (Text.noneBetween ['c', 'x'] ⟨1, 0⟩)) := by
      cbv
    obtain ⟨p, built, facts⟩ := okOfMap facts
    obtain ⟨searched, failed⟩ := Prod.mk.inj facts
    obtain ⟨ms, found, ranges⟩ := okOfMap searched
    exact ⟨p, ms, built, found, ranges, failed⟩

end ExtendedPattern
