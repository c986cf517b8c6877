import ExtendedPattern.Proofs.Copying
import ExtendedPattern.Proofs.Tiling
import ExtendedPattern.Proofs.Vanishing

/-! The modes of one call. Up to where it stops, the loop of any mode goes on as that of the global mode does: the
same delimiters are met in the same states. A mode stops earlier at its first outermost pair, or in front of a
gap, so its pairs are the first ones of the global mode. -/
namespace ExtendedPattern
open Text (size)

def FlagSet.SameButModes (f g : FlagSet) : Prop := ∀ flag, flag ∉ [Flag.global, .sticky] → f.has flag = g.has flag

namespace FlagSet.SameButModes
variable {f g : FlagSet}

theorem rewrites (same : f.SameButModes g) : f.RewritesAs g := by
  intro flag asked
  refine same flag ?_
  revert asked
  cases flag <;> decide

theorem withoutSticky (same : f.SameButModes g) : (f.diff (.single .sticky)).SameButModes (g.diff (.single .sticky)) := by
  intro flag other
  rw [hasDiff, hasDiff, same flag other]

theorem union (same : f.SameButModes g) (modes : FlagSet) : (f.union modes).SameButModes (g.union modes) := by
  intro flag other
  rw [hasUnion, hasUnion, same flag other]

theorem native (same : f.SameButModes g) : f.inter native = g.inter native := by
  refine sameMembers fun flag => ?_
  rw [hasInter, hasInter]
  by_cases mode : flag ∈ [Flag.global, .sticky]
  · have foreign : FlagSet.native.has flag = false := by
      revert mode
      cases flag <;> decide
    simp [foreign]
  · rw [same flag mode]

end FlagSet.SameButModes

namespace Pattern

theorem compilesUnder {source : Text} {f g : FlagSet} (same : f.SameButModes g) {p : Pattern} {s t u : Session}
    (built : withRegistry source f .global s = (.ok p, t)) (idle : u.inRules = false) :
    ∃ q v, withRegistry source g .global u = (.ok q, v) ∧ q.native = p.native ∧ q.program = p.program ∧ v.inRules = false := by
  obtain ⟨done, w, compiled, assembled⟩ := Action.andThenOk built
  have compiled : compile source f .global s = (.ok done, w) := compiled
  have assembled : assemble source done.native done.context.flags done.context.names {} = .ok p := congrArg Prod.fst assembled
  obtain ⟨text, flags, _, program⟩ := assembleParts assembled
  have pair := compileBeside Registry.Standard.global.bundled same.rewrites source (compiledIdle compiled) idle
  have still := compileIdles source g .global idle
  rw [compiled] at pair
  cases again : compile source g .global u with
  | mk result v =>
    rw [again] at pair still
    cases pair with
    | @done _ other segments context =>
      obtain ⟨modes, _, left, right⟩ := context.modes
      have native : done.native = other.native := Pairing.sameFragments id segments
      have opener : done.context.flags.openNative done.native = other.context.flags.openNative other.native := by
        have known := (same.union modes).native
        rw [FlagSet.openNative, FlagSet.openNative, FlagSet.nativeOpener, FlagSet.nativeOpener, left, right, known, native]
      rw [flags, text, opener] at program
      obtain ⟨q, made, copied, kept⟩ : ∃ q, assemble source other.native other.context.flags other.context.names {} = .ok q ∧
          q.native = other.native ∧ q.program = p.program :=
        ⟨⟨source, other.native, other.context.flags, p.program, other.context.names, {}, 0⟩, by rw [assemble, program], rfl, rfl⟩
      exact ⟨q, v, (withRegistryCompiled again).trans (Prod.ext made rfl), copied.trans (native.symm.trans text.symm), kept, still⟩

end Pattern

namespace Balanced

/-- Pairs of which each starts no later than the one before it ends, the first one no later than `n`. -/
def Gapless : Nat → List Pair → Prop
  | _, [] => True
  | n, p :: more => p.outer ≤ n ∧ Gapless p.right.stop more

def Touching : Nat → List Pair → Prop
  | _, [] => True
  | n, p :: more => p.outer = n ∧ Touching p.right.stop more

def unbroken : Nat → List Pair → List Pair
  | _, [] => []
  | n, p :: more => if p.outer ≤ n then p :: unbroken p.right.stop more else []

variable {n m : Nat} {pairs other : List Pair}

theorem unbrokenGapless (n : Nat) (pairs : List Pair) : Gapless n (unbroken n pairs) := by
  induction pairs generalizing n with
  | nil => trivial
  | cons p more ih =>
    rw [unbroken]
    split
    · exact ⟨‹_›, ih _⟩
    · trivial

theorem unbrokenPrefix (n : Nat) (pairs : List Pair) : unbroken n pairs <+: pairs := by
  induction pairs generalizing n with
  | nil => exact List.prefix_rfl
  | cons p more ih =>
    rw [unbroken]
    split
    · exact (List.prefix_cons_inj p).mpr (ih _)
    · exact List.nil_prefix

theorem unbrokenLongest (starts : other <+: pairs) (gapless : Gapless n other) : other <+: unbroken n pairs := by
  induction other generalizing n pairs with
  | nil => exact List.nil_prefix
  | cons p others ih =>
    obtain ⟨rest, rfl⟩ := starts
    obtain ⟨touches, gapless⟩ := gapless
    rw [List.cons_append, unbroken, if_pos touches]
    exact (List.prefix_cons_inj p).mpr (ih (List.prefix_append ..) gapless)

theorem gaplessTouches {search : Searches} {subject : Text} (row : Row search subject n pairs m) (starts : other <+: pairs) :
    Gapless n other ↔ Touching n other := by
  induction row generalizing other with
  | nil n =>
    obtain rfl := List.prefix_nil.mp starts
    exact Iff.rfl
  | @cons n m p more behind sound row ih =>
    cases other with
    | nil => exact Iff.rfl
    | cons q others =>
      obtain ⟨rfl, others⟩ := List.cons_prefix_cons.mp starts
      exact and_congr ⟨fun reached => Nat.le_antisymm reached behind, Nat.le_of_eq⟩ (ih others)

namespace Mode

def kept (mode : Mode) (n : Nat) (pairs : List Pair) : List Pair :=
  let row := if mode.sticky then unbroken n pairs else pairs
  if mode.global then row else row.take 1

variable {mode : Mode} {p : Pair} {more : List Pair}

theorem keptNothing (mode : Mode) (n : Nat) : mode.kept n [] = [] := by
  obtain ⟨global, sticky⟩ := mode
  cases global <;> cases sticky <;> rfl

theorem keptGap (sticky : mode.sticky) (gap : n < p.outer) : mode.kept n (p :: more) = [] := by
  have stops : unbroken n (p :: more) = [] := if_neg (by omega)
  unfold kept
  rw [if_pos sticky, stops]
  split <;> rfl

theorem keptPair (reached : mode.sticky → p.outer ≤ n) :
    mode.kept n (p :: more) = p :: if mode.global then mode.kept p.right.stop more else [] := by
  obtain ⟨global, sticky⟩ := mode
  cases sticky with
  | false => cases global <;> rfl
  | true =>
    have row : unbroken n (p :: more) = p :: unbroken p.right.stop more := if_pos (reached rfl)
    cases global <;> simp [kept, row]

theorem keptPrefix (mode : Mode) (n : Nat) (pairs : List Pair) : mode.kept n pairs <+: pairs := by
  have row : (if mode.sticky then unbroken n pairs else pairs) <+: pairs := by
    split
    · exact unbrokenPrefix n pairs
    · exact List.prefix_rfl
  unfold kept
  dsimp only
  split
  · exact row
  · exact (List.take_prefix 1 _).trans row

end Mode

variable {search : Searches} {subject : Text} {mode : Mode} {s t : State} {fuel : Nat} {span : Span} {added : List Pair}

theorem enterKeeps (s : State) (span : Span) :
    (s.enter span).depth = s.depth + 1 ∧ (s.enter span).pairs = s.pairs ∧ (s.enter span).lastEnd = s.lastEnd ∧
      (s.enter span).outer = if s.depth = 0 then span.start else s.outer := by
  unfold State.enter
  split <;> exact ⟨rfl, rfl, rfl, rfl⟩

structure Adds (subject : Text) (search : Searches) (fuel : Nat) (s t : State) (added : List Pair) : Prop where
  pairs : t.pairs = added.reverse ++ s.pairs
  first : s.depth ≠ 0 → ∀ p ∈ added.head?, p.outer = s.outer
  modes : ∀ mode : Mode, (mode.sticky → s.depth ≠ 0 → s.outer ≤ s.lastEnd) →
    ∃ u, scan subject mode search fuel s = (.ok (), u) ∧ u.pairs = (mode.kept s.lastEnd added).reverse ++ s.pairs

namespace Adds

theorem nothing (stays : ∀ mode : Mode, scan subject mode search fuel s = (.ok (), s)) : Adds subject search fuel s s [] where
  pairs := rfl
  first := nofun
  modes mode _ := ⟨s, stays mode, by rw [mode.keptNothing]; rfl⟩

theorem enter (found : search.next s.position = .ok (some (.left, span)))
    (adds : Adds subject search fuel ((s.enter span).passed subject span) t added) : Adds subject search (fuel + 1) s t added := by
  obtain ⟨depth, pairs, lastEnd, outer⟩ := enterKeeps s span
  have open_ : ((s.enter span).passed subject span).depth ≠ 0 := by simp [State.passed, depth]
  have first : ∀ p ∈ added.head?, p.outer = if s.depth = 0 then span.start else s.outer :=
    fun p mem => (adds.first open_ p mem).trans outer
  refine ⟨adds.pairs.trans (congrArg (added.reverse ++ ·) pairs), fun deep p mem => ?_, fun mode reached => ?_⟩
  · exact (first p mem).trans (if_neg deep)
  · rw [scanRound, found]
    dsimp only
    by_cases gap : mode.sticky && s.depth = 0 && s.lastEnd < span.start
    · rw [meetLeft, if_pos gap]
      simp only [Bool.and_eq_true, decide_eq_true_eq] at gap
      obtain ⟨⟨sticky, flat⟩, gap⟩ := gap
      refine ⟨s, rfl, ?_⟩
      cases added with
      | nil => rw [mode.keptNothing]; rfl
      | cons p more =>
        have start : p.outer = span.start := (first p rfl).trans (if_pos flat)
        rw [Mode.keptGap sticky (start ▸ gap)]
        rfl
    · rw [meetLeft, if_neg gap]
      simp only [Bool.and_eq_true, decide_eq_true_eq, not_and, Nat.not_lt] at gap
      have still : mode.sticky → ((s.enter span).passed subject span).depth ≠ 0 →
          ((s.enter span).passed subject span).outer ≤ ((s.enter span).passed subject span).lastEnd := by
        intro sticky _
        simp only [State.passed, outer, lastEnd]
        split
        · exact gap ⟨sticky, ‹_›⟩
        · exact reached sticky ‹_›
      obtain ⟨u, ends, kept⟩ := adds.modes mode still
      exact ⟨u, ends, by simpa only [State.passed, lastEnd, pairs] using kept⟩

theorem close (found : search.next s.position = .ok (some (.right, span))) (last : s.depth = 1)
    (adds : Adds subject search fuel ((s.leave span).passed subject span) t added) :
    Adds subject search (fuel + 1) s t (⟨s.outer, s.inner, span⟩ :: added) := by
  have left : (s.leave span).depth = 0 ∧ (s.leave span).pairs = ⟨s.outer, s.inner, span⟩ :: s.pairs ∧
      (s.leave span).lastEnd = span.stop := by simp [State.leave, last]
  obtain ⟨depth, pairs, lastEnd⟩ := left
  refine ⟨?_, fun _ p mem => by cases mem; rfl, fun mode reached => ?_⟩
  · rw [adds.pairs, List.reverse_cons, List.append_assoc]
    exact congrArg (added.reverse ++ ·) pairs
  · have kept := @Mode.keptPair s.lastEnd mode ⟨s.outer, s.inner, span⟩ added fun sticky => reached sticky (by omega)
    rw [scanRound, found]
    simp only [meetRight (by omega : s.depth ≠ 0), depth]
    cases global : mode.global with
    | false =>
      rw [global] at kept
      exact ⟨s.leave span, rfl, by rw [kept, pairs]; rfl⟩
    | true =>
      rw [global] at kept
      obtain ⟨u, ends, more⟩ := adds.modes mode fun _ deep => absurd depth deep
      refine ⟨u, ends, ?_⟩
      rw [more, kept, if_pos rfl, List.reverse_cons, List.append_assoc]
      simp only [State.passed, lastEnd, pairs]
      rfl

theorem leave (found : search.next s.position = .ok (some (.right, span))) (deep : 1 < s.depth)
    (adds : Adds subject search fuel ((s.leave span).passed subject span) t added) : Adds subject search (fuel + 1) s t added := by
  have inside : s.depth - 1 ≠ 0 := by omega
  have left : (s.leave span).depth = s.depth - 1 ∧ (s.leave span).pairs = s.pairs ∧ (s.leave span).lastEnd = s.lastEnd ∧
      (s.leave span).outer = s.outer := by simp [State.leave, inside]
  obtain ⟨depth, pairs, lastEnd, outer⟩ := left
  have open_ : (s.leave span).depth ≠ 0 := depth ▸ inside
  refine ⟨adds.pairs.trans (congrArg (added.reverse ++ ·) pairs), fun _ p mem => ?_, fun mode reached => ?_⟩
  · exact (adds.first open_ p mem).trans outer
  · rw [scanRound, found]
    simp only [meetRight (by omega : s.depth ≠ 0), open_, decide_false, Bool.false_and, Bool.false_eq_true, if_false]
    have still : mode.sticky → ((s.leave span).passed subject span).depth ≠ 0 →
        ((s.leave span).passed subject span).outer ≤ ((s.leave span).passed subject span).lastEnd := by
      intro sticky _
      simp only [State.passed, outer, lastEnd]
      exact reached sticky (by omega)
    obtain ⟨u, ends, kept⟩ := adds.modes mode still
    exact ⟨u, ends, by simpa only [State.passed, lastEnd, pairs] using kept⟩

end Adds

theorem scanAdds (scanned : scan subject ⟨true, false⟩ search fuel s = (.ok (), t)) : ∃ added, Adds subject search fuel s t added := by
  induction fuel generalizing s with
  | zero => cases scanned
  | succ fuel ih =>
    cases found : search.next s.position with
    | error e =>
      rw [scanRound, found] at scanned
      cases scanned
    | ok result =>
      obtain _ | ⟨_ | _, span⟩ := result
      · rw [roundEnds found] at scanned
        obtain ⟨ended, rfl⟩ := Prod.mk.inj scanned
        split at ended <;> cases ended
        rename_i flat
        exact ⟨[], .nothing fun mode => by rw [scanRound, found]; simp [State.meet, flat]⟩
      · rw [roundEnters found] at scanned
        obtain ⟨added, adds⟩ := ih scanned
        exact ⟨added, adds.enter found⟩
      · by_cases flat : s.depth = 0
        · rw [roundUnopened found flat] at scanned
          cases scanned
        rw [roundLeaves found flat] at scanned
        obtain ⟨added, adds⟩ := ih scanned
        by_cases last : s.depth = 1
        · exact ⟨_, adds.close found last⟩
        · exact ⟨added, adds.leave found (by omega)⟩

theorem spanSearchOf {p q : Pattern} (same : p.program = q.program) : spanSearch p = spanSearch q := by
  funext subject start
  have searches : p.nativeSearch = q.nativeSearch := by
    unfold Pattern.nativeSearch
    rw [same]
  rw [spanSearch, spanSearch]
  by_cases beyond : subject.size < start
  · rw [Pattern.execAtBeyond beyond, Pattern.execAtBeyond beyond]
  · rw [Pattern.execAtInside (Nat.le_of_not_lt beyond), Pattern.execAtInside (Nat.le_of_not_lt beyond), searches]
    cases q.nativeSearch subject (subject.boundary start) with
    | error e => rfl
    | ok groups => cases groups <;> rfl

namespace Call
variable {left right : Text} {escape : Option Text} {f g : FlagSet} {l r p q : Pattern}

theorem runOf (same : f.SameButModes g) (leftText : l.native = p.native) (rightText : r.native = q.native) :
    run escape l r f = run escape p q g := by
  cases escape with
  | none => rfl
  | some escape => rw [run, run, escapePattern, escapePattern, leftText, rightText, same.native]

theorem prepareUnder (same : f.SameButModes g) {s u : Session} {c : Call} (prepared : (prepare left right f escape s).1 = .ok c)
    (idle : u.inRules = false) :
    ∃ d, (prepare left right g escape u).1 = .ok d ∧ d.mode = ⟨g.has .global, g.has .sticky⟩ ∧
      ∀ subject, d.search subject = c.search subject := by
  obtain ⟨_, ⟨_, _, leftBuilt, rightBuilt⟩, ran⟩ := prepareBuilds prepared
  obtain ⟨l, _, leftBuilt, leftText, leftSame, idle⟩ := Pattern.compilesUnder same.withoutSticky leftBuilt idle
  obtain ⟨r, _, rightBuilt, rightText, rightSame, _⟩ := Pattern.compilesUnder same.withoutSticky rightBuilt idle
  rw [runOf same.withoutSticky leftText.symm rightText.symm] at ran
  refine ⟨_, prepareOf leftBuilt rightBuilt ran, rfl, fun subject => ?_⟩
  simp only [search, spanSearchOf leftSame, spanSearchOf rightSame]

end Call

def Mode.flags (mode : Mode) : FlagSet :=
  FlagSet.union (if mode.global then .single .global else .empty) (if mode.sticky then .single .sticky else .empty)

theorem Mode.flagsHave (mode : Mode) (flag : Flag) :
    mode.flags.has flag = (mode.global && flag = .global || mode.sticky && flag = .sticky) := by
  obtain ⟨global, sticky⟩ := mode
  cases global <;> cases sticky <;> cases flag <;> rfl

/-- Whatever the delimiters are, the pairs of each mode are the first ones of those that the global mode finds: without the
global flag the first alone, under the sticky flag those in front of a gap. Pairs overlap only where a delimiter marks a
start in front of the place it was searched from. -/
theorem modesTakePrefixes {subject left right : Text} {escape : Option Text} {rest : FlagSet} {letters : Mode → Text}
    (plain : rest.has .global = false ∧ rest.has .sticky = false)
    (known : ∀ mode, FlagSet.ofLetters (letters mode) = .ok (rest.union mode.flags))
    {labels : Option PartLabels} {s : Session} {result : BalancedResult}
    (succeeds : (matchBalanced subject left right (letters ⟨true, false⟩) ⟨labels, escape⟩ s).1 = .ok result) :
    ∃ pairs row : List Pair, row <+: pairs ∧ Gapless 0 row ∧ (∀ other, other <+: pairs → Gapless 0 other → other <+: row) ∧
      (∀ labels' u, (showsInside labels' → showsInside labels) → u.inRules = false →
        let answer := fun mode => (matchBalanced subject left right (letters mode) ⟨labels', escape⟩ u).1
        answer ⟨true, false⟩ = .ok (report subject labels' ⟨true, false⟩ pairs) ∧
          answer ⟨false, false⟩ = .ok (report subject labels' ⟨false, false⟩ (pairs.take 1)) ∧
          answer ⟨true, true⟩ = .ok (report subject labels' ⟨true, true⟩ row) ∧
          answer ⟨false, true⟩ = .ok (report subject labels' ⟨false, true⟩ (row.take 1))) ∧
      ((∀ call, (Call.prepare left right (rest.union (Mode.flags ⟨true, false⟩)) escape s).1 = .ok call → call.Orderly subject) →
        ∀ other, other <+: pairs → (Gapless 0 other ↔ Touching 0 other)) := by
  obtain ⟨flat, loose⟩ := plain
  obtain ⟨call, t, prepared, scanned, ordered⟩ : ∃ call t, (Call.prepare left right (rest.union (Mode.flags ⟨true, false⟩))
      escape s).1 = .ok call ∧ call.scan subject = (.ok (), t) ∧ (showsInside labels → t.Ordered) :=
    matchSucceeds (known _) succeeds
  have mode : call.mode = ⟨true, false⟩ := by
    rw [(Call.prepareBuilds prepared).mode]
    simp [Mode.flagsHave, flat, loose]
  have scans : scan subject ⟨true, false⟩ (call.search subject) (rounds subject) {} = (.ok (), t) := mode ▸ scanned
  obtain ⟨pairs, adds⟩ := scanAdds scans
  have found : t.pairs.reverse = pairs := by rw [adds.pairs]; simp
  refine ⟨pairs, unbroken 0 pairs, unbrokenPrefix 0 pairs, unbrokenGapless 0 pairs, fun _ => unbrokenLongest, ?_, ?_⟩
  · intro labels' u shown idle
    have answers (mode : Mode) : (matchBalanced subject left right (letters mode) ⟨labels', escape⟩ u).1 =
        .ok (report subject labels' mode (mode.kept 0 pairs)) := by
      have same : (rest.union (Mode.flags ⟨true, false⟩)).SameButModes (rest.union mode.flags) := by
        intro flag other
        simp only [List.mem_cons, List.not_mem_nil, or_false, not_or] at other
        simp [Mode.flagsHave, other]
      obtain ⟨d, prepared, asked, searches⟩ := Call.prepareUnder same prepared idle
      have asked : d.mode = mode := by
        rw [asked]
        simp [Mode.flagsHave, flat, loose]
      obtain ⟨v, ends, kept⟩ := adds.modes mode fun _ deep => absurd rfl deep
      have row : v.pairs.reverse = mode.kept 0 pairs := by rw [kept]; simp
      rw [matchAnswers (known mode) prepared, Call.answer, Call.scan, asked, searches, ends]
      refine answerOf rfl row fun shows p mem => ordered (shown shows) p (List.mem_reverse.mp ?_)
      exact found ▸ (mode.keptPrefix 0 pairs).subset mem
    exact ⟨answers ⟨true, false⟩, answers ⟨false, false⟩, answers ⟨true, true⟩, answers ⟨false, true⟩⟩
  · intro orderly other starts
    have row := (orderly call prepared).scanRow.2
    rw [scanned, found] at row
    exact gaplessTouches row starts

theorem gapBetweenPairs :
    ∃ pairs row : List Pair, row <+: pairs ∧ Touching 0 row ∧ (∀ other, other <+: pairs → Touching 0 other → other <+: row) ∧
      (∀ labels,
        let answer := fun letters => (matchBalanced "axbab ab".toList ['a'] ['b'] letters ⟨labels, none⟩ {}).1
        answer ['g'] = .ok (report "axbab ab".toList labels ⟨true, false⟩ pairs) ∧
          answer [] = .ok (report "axbab ab".toList labels ⟨false, false⟩ (pairs.take 1)) ∧
          answer ['g', 'y'] = .ok (report "axbab ab".toList labels ⟨true, true⟩ row) ∧
          answer ['y'] = .ok (report "axbab ab".toList labels ⟨false, true⟩ (row.take 1))) ∧
      report "axbab ab".toList none ⟨true, false⟩ pairs = .values [['x'], [], []] ∧
      report "axbab ab".toList none ⟨true, true⟩ row = .values [['x'], []] := by
  let letters : Mode → Text := fun mode => (if mode.global then ['g'] else []) ++ if mode.sticky then ['y'] else []
  have known (mode : Mode) : FlagSet.ofLetters (letters mode) = .ok (FlagSet.empty.union mode.flags) := by
    obtain ⟨global, sticky⟩ := mode
    cases global <;> cases sticky <;> rfl
  obtain ⟨t, left, idle⟩ := @Pattern.compilesCharacter 'a' (.single .global) rfl {} rfl
  obtain ⟨u, right, _⟩ := @Pattern.compilesCharacter 'b' (.single .global) rfl t idle
  have global : FlagSet.ofLetters ['g'] = .ok (.single .global) := rfl
  have both : FlagSet.ofLetters ['g', 'y'] = .ok (.ofList [.global, .sticky]) := rfl
  have loose : (Call.prepare ['a'] ['b'] (.single .global) none {}).1 =
      .ok ⟨⟨true, false⟩, .ofCharacter 'a' (.single .global), .ofCharacter 'b' (.single .global), none⟩ :=
    Call.prepareOf left right rfl
  have tight : (Call.prepare ['a'] ['b'] (.ofList [.global, .sticky]) none {}).1 =
      .ok ⟨⟨true, true⟩, .ofCharacter 'a' (.single .global), .ofCharacter 'b' (.single .global), none⟩ :=
    Call.prepareOf left right rfl
  have facts : ([true, false].map fun sticky =>
      Call.answer ⟨⟨true, sticky⟩, .ofCharacter 'a' (.single .global), .ofCharacter 'b' (.single .global), none⟩
        "axbab ab".toList none) = [.ok (.values [['x'], []]), .ok (.values [['x'], [], []])] := by
    decide +kernel
  simp only [List.map_cons, List.map_nil, List.cons.injEq, and_true] at facts
  have all : (matchBalanced "axbab ab".toList ['a'] ['b'] ['g'] ⟨none, none⟩ {}).1 = .ok (.values [['x'], [], []]) :=
    (matchAnswers (o := ⟨none, none⟩) global loose).trans facts.2
  have touching : (matchBalanced "axbab ab".toList ['a'] ['b'] ['g', 'y'] ⟨none, none⟩ {}).1 = .ok (.values [['x'], []]) :=
    (matchAnswers (o := ⟨none, none⟩) both tight).trans facts.1
  obtain ⟨pairs, row, starts, gapless, longest, answers, same⟩ := @modesTakePrefixes "axbab ab".toList ['a'] ['b'] none
    .empty letters ⟨rfl, rfl⟩ known none {} _ all
  have same := same fun other again => by
    cases loose.symm.trans again
    exact ⟨Pattern.orderly rfl _, Pattern.orderly rfl _, nofun⟩
  have plain := answers none {} id rfl
  exact ⟨pairs, row, starts, (same row starts).mp gapless,
    fun other begins touches => longest other begins ((same other begins).mpr touches), fun labels => answers labels {} (fun _ => rfl) rfl,
    Except.ok.inj (plain.1.symm.trans all), Except.ok.inj (plain.2.2.1.symm.trans touching)⟩

end Balanced

theorem Pattern.compilesUntouched {source : Text} {flags : FlagSet} {s : Session} (idle : s.inRules = false)
    (unbraced : '{' ∉ source)
    (untouched : (compile source flags .builtins {}).1.map Compilation.result = .ok (source, .start flags)) :
    ∃ t, withRegistry source flags .global s = (assemble source source flags none {}, t) ∧ t.inRules = false := by
  have known := Registry.Standard.builtins.bundled.known
  have free := @Uncached.scanFree _ [] { context := .start flags } known source source rfl 0 s {}
  have scanned := congrArg (Except.map Uncached.Progress.result) free
  have compiled : (compile source flags .global s).1.map Compilation.result = .ok (source, .start flags) := by
    rw [compileUnnamed unbraced, Registry.Standard.builtins.compilesTo source flags idle]
    rw [Registry.Standard.builtins.compilesTo source flags rfl] at untouched
    exact scanned.trans untouched
  have still := compileIdles source flags .global idle
  cases made : compile source flags .global s with
  | mk result t =>
    rw [made] at compiled still
    cases result with
    | error e => cases compiled
    | ok done =>
      obtain ⟨native, context⟩ := Prod.mk.inj (Except.ok.inj compiled)
      refine ⟨t, ?_, still⟩
      rw [withRegistryCompiled made, native, context]
      rfl

namespace Engine

def Plan.marking : Plan :=
  .alt [.char (.single 'a'),
    .seq [.look 1 false (.seq [.keepOut, .delegate #[.one (.single 'c')] []]), .delegate #[.one (.single 'x')] []]]

def Program.marking : Program := ⟨1, .trial .marking 0, 1000000⟩

theorem Program.markingBuilds : build? {} "a|(?<=\\Kc)x".toList = some .marking := by cbv

end Engine

namespace Balanced

def marking : Pattern := ⟨"a|(?<=\\Kc)x".toList, "a|(?<=\\Kc)x".toList, .single .global, .marking, none, {}, 0⟩

theorem startMarkedInsideLastPair :
    let answer := fun letters labels =>
      (matchBalanced "abcxbc".toList "a|(?<=\\Kc)x".toList "bc".toList letters ⟨labels, none⟩ {}).1
    let first : Pair := ⟨0, 1, ⟨1, 3⟩⟩
    let second : Pair := ⟨2, 4, ⟨4, 6⟩⟩
    Touching 0 [first] ∧ ¬ Touching 0 [first, second] ∧
      (∀ labels, answer ['g'] labels = .ok (report "abcxbc".toList labels ⟨true, false⟩ [first, second]) ∧
        answer ['g', 'y'] labels = .ok (report "abcxbc".toList labels ⟨true, true⟩ [first, second])) ∧
      answer ['g', 'y'] none ≠ .ok (report "abcxbc".toList none ⟨true, true⟩ [first]) := by
  intro answer first second
  obtain ⟨t, left, idle⟩ := @Pattern.compilesUntouched "a|(?<=\\Kc)x".toList (.single .global) {} rfl (by decide) (by cbv)
  obtain ⟨u, right, _⟩ := @Pattern.compilesUntouched "bc".toList (.single .global) t idle (by decide) (by cbv)
  have opener : (FlagSet.single .global).openNative "a|(?<=\\Kc)x".toList = "a|(?<=\\Kc)x".toList := rfl
  rw [Pattern.assemble, opener, Engine.Program.markingBuilds] at left
  have facts : (Pattern.assemble "bc".toList "bc".toList (.single .global) none {}).map (fun r => [true, false].map fun sticky =>
      let ended := Call.scan ⟨⟨true, sticky⟩, marking, r, none⟩ "abcxbc".toList
      (ended.1, ended.2.pairs.reverse)) =
        .ok [(.ok (), [⟨0, 1, ⟨1, 3⟩⟩, ⟨2, 4, ⟨4, 6⟩⟩]), (.ok (), [⟨0, 1, ⟨1, 3⟩⟩, ⟨2, 4, ⟨4, 6⟩⟩])] := by
    decide +kernel
  cases made : Pattern.assemble "bc".toList "bc".toList (.single .global) none {} with
  | error e => rw [made] at facts; cases facts
  | ok r =>
    rw [made] at facts right
    simp only [Except.map, List.map_cons, List.map_nil, Except.ok.injEq, List.cons.injEq, and_true, Prod.mk.injEq] at facts
    obtain ⟨⟨tight, row⟩, loose, pairs⟩ := facts
    have global : FlagSet.ofLetters ['g'] = .ok (.single .global) := rfl
    have both : FlagSet.ofLetters ['g', 'y'] = .ok (.ofList [.global, .sticky]) := rfl
    have ordered : ∀ p ∈ [first, second], p.inner ≤ p.right.start := by decide
    have answers : ∀ labels, answer ['g'] labels = .ok (report "abcxbc".toList labels ⟨true, false⟩ [first, second]) ∧
        answer ['g', 'y'] labels = .ok (report "abcxbc".toList labels ⟨true, true⟩ [first, second]) := by
      intro labels
      have prepared : (Call.prepare _ _ (.single .global) none {}).1 = .ok ⟨⟨true, false⟩, marking, r, none⟩ :=
        Call.prepareOf left right rfl
      have prepared' : (Call.prepare _ _ (.ofList [.global, .sticky]) none {}).1 = .ok ⟨⟨true, true⟩, marking, r, none⟩ :=
        Call.prepareOf left right rfl
      constructor
      · exact (matchAnswers (o := ⟨labels, none⟩) global prepared).trans (answerOf loose pairs fun _ => ordered)
      · exact (matchAnswers (o := ⟨labels, none⟩) both prepared').trans (answerOf tight row fun _ => ordered)
    refine ⟨⟨rfl, trivial⟩, by simp [Touching, first, second], answers, ?_⟩
    rw [(answers none).2]
    decide

end Balanced
end ExtendedPattern
