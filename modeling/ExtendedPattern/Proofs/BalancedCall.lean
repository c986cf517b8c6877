import ExtendedPattern.Proofs.BalancedPairs
import ExtendedPattern.Proofs.SearchSpans

/-! A call for balanced pairs: what it builds before its loop, and what its searches promise. -/
namespace ExtendedPattern
open Text (size)

namespace Balanced

variable {subject : Text}

section
variable {search : Searches}

structure Searches.Lawful (search : Searches) (subject : Text) : Prop where
  left : ∀ {place span}, search.left place = .ok (some span) → place ≤ span.start ∧ subject.Cuts span
  right : ∀ {place span}, search.right place = .ok (some span) → place ≤ span.start ∧ subject.Cuts span
  escaped : ∀ {place stop}, search.escaped place = .ok (some stop) → place ≤ stop ∧ subject.IsPlace stop

def Searches.Finds (search : Searches) (span : Span) : Delimiter → Prop
  | .left => ∃ place, search.left place = .ok (some span)
  | .right => ∃ place, search.right place = .ok (some span)

theorem nearestIsFound {left right : Option Span} {delimiter : Delimiter} {span : Span}
    (found : nearest left right = some (delimiter, span)) :
    delimiter = .left ∧ left = some span ∨ delimiter = .right ∧ right = some span := by
  unfold nearest at found
  split at found
  · split at found <;> cases found <;> simp
  · cases found; simp
  · cases found; simp
  · cases found

theorem Searches.Lawful.next (lawful : search.Lawful subject) {position : Nat} {delimiter : Delimiter} {span : Span}
    (found : search.next position = .ok (some (delimiter, span))) :
    position ≤ span.start ∧ subject.Cuts span ∧ search.Finds span delimiter := by
  obtain ⟨skipped, escaped, found⟩ := bindOk found
  have moved : position ≤ skipped.getD position := by
    cases skipped with
    | none => exact Nat.le_refl _
    | some stop => exact (lawful.escaped escaped).1
  generalize skipped.getD position = place at found moved
  obtain ⟨l, left, found⟩ := bindOk found
  obtain ⟨r, right, found⟩ := bindOk found
  obtain ⟨rfl, rfl⟩ | ⟨rfl, rfl⟩ := nearestIsFound (Except.ok.inj found)
  · obtain ⟨behind, cuts⟩ := lawful.left left
    exact ⟨Nat.le_trans moved behind, cuts, place, left⟩
  · obtain ⟨behind, cuts⟩ := lawful.right right
    exact ⟨Nat.le_trans moved behind, cuts, place, right⟩

end

structure Call where
  mode : Mode
  left : Pattern
  right : Pattern
  escape : Option Pattern

namespace Call

def run (escape : Option Text) (left right : Pattern) (flags : FlagSet) : Except Failure (Option Pattern) :=
  match escape with
  | none => .ok none
  | some escape => (escapePattern escape left right flags).map some

def prepare (left right : Text) (flags : FlagSet) (escape : Option Text) : Action Call := do
  let native := flags.diff (.single .sticky)
  let left ← Pattern.withRegistry left native .global
  let right ← Pattern.withRegistry right native .global
  let run ← run escape left right native
  Action.ok ⟨⟨flags.has .global, flags.has .sticky⟩, left, right, run⟩

structure Built (left right : Text) (flags : FlagSet) (escape : Option Text) (s : Session) (c : Call) : Prop where
  mode : c.mode = ⟨flags.has .global, flags.has .sticky⟩
  sides : ∃ t u, Pattern.withRegistry left (flags.diff (.single .sticky)) .global s = (.ok c.left, t) ∧
    Pattern.withRegistry right (flags.diff (.single .sticky)) .global t = (.ok c.right, u)
  escape : run escape c.left c.right (flags.diff (.single .sticky)) = .ok c.escape

theorem prepareBuilds {left right : Text} {flags : FlagSet} {escape : Option Text} {s : Session} {c : Call}
    (prepared : (prepare left right flags escape s).1 = .ok c) : Built left right flags escape s c := by
  obtain ⟨u, prepared⟩ : ∃ u, prepare left right flags escape s = (.ok c, u) := ⟨_, Prod.ext prepared rfl⟩
  obtain ⟨l, t, leftBuilt, prepared⟩ := Action.andThenOk prepared
  obtain ⟨r, v, rightBuilt, prepared⟩ := Action.andThenOk prepared
  obtain ⟨run, w, runBuilt, prepared⟩ := Action.andThenOk prepared
  cases prepared
  exact ⟨rfl, ⟨t, v, leftBuilt, rightBuilt⟩, congrArg Prod.fst runBuilt⟩

theorem prepareOf {left right : Text} {flags : FlagSet} {escape : Option Text} {s t u : Session} {l r : Pattern}
    {ran : Option Pattern}
    (leftBuilt : Pattern.withRegistry left (flags.diff (.single .sticky)) .global s = (.ok l, t))
    (rightBuilt : Pattern.withRegistry right (flags.diff (.single .sticky)) .global t = (.ok r, u))
    (runBuilt : run escape l r (flags.diff (.single .sticky)) = .ok ran) :
    (prepare left right flags escape s).1 = .ok ⟨⟨flags.has .global, flags.has .sticky⟩, l, r, ran⟩ := by
  simp only [prepare, bind, Action.andThen, liftM, monadLift, MonadLift.monadLift, Action.ofExcept, leftBuilt,
    rightBuilt, runBuilt]
  rfl

theorem prepareRun (left right : Text) (flags : FlagSet) (escape : Option Text) (s : Session) :
    (prepare left right flags escape s).1 =
      match (prepare left right flags none s).1 with
      | .error e => .error e
      | .ok c => (run escape c.left c.right (flags.diff (.single .sticky))).map fun run => { c with escape := run } := by
  simp only [prepare, bind, Action.andThen, liftM, monadLift, MonadLift.monadLift, Action.ofExcept]
  cases Pattern.withRegistry left (flags.diff (.single .sticky)) .global s with
  | mk result t =>
    cases result with
    | error e => rfl
    | ok l =>
      dsimp only
      cases Pattern.withRegistry right (flags.diff (.single .sticky)) .global t with
      | mk result u =>
        cases result with
        | error e => rfl
        | ok r =>
          cases escape with
          | none => rfl
          | some escape =>
            simp only [run]
            cases escaped : escapePattern escape l r (flags.diff (.single .sticky)) with
            | error e => simp [Action.ok, escaped, Except.map]
            | ok p => simp [Action.ok, escaped, Except.map]

def search (c : Call) (subject : Text) : Searches :=
  ⟨spanSearch c.left subject, spanSearch c.right subject, escapeSearch c.escape subject⟩

def scan (c : Call) (subject : Text) : Except Failure Unit × State :=
  Balanced.scan subject c.mode (c.search subject) (rounds subject) {}

def answer (c : Call) (subject : Text) (labels : Option PartLabels) : Except Failure BalancedResult :=
  Balanced.answer subject labels c.mode (c.scan subject)

structure Orderly (c : Call) (subject : Text) : Prop where
  left : c.left.Orderly subject
  right : c.right.Orderly subject
  escape : ∀ p ∈ c.escape, p.Orderly subject

end Call

theorem matchPrepares (subject left right letters : Text) (o : BalancedOptions) (s : Session) :
    (matchBalanced subject left right letters o s).1 =
      match FlagSet.ofLetters letters with
      | .error e => .error e
      | .ok flags =>
        match (Call.prepare left right flags o.escape s).1 with
        | .error e => .error e
        | .ok call => call.answer subject o.labels := by
  simp only [matchBalanced, matchBalancedBy, Pattern.byGlobal, Call.prepare, bind, Action.andThen, liftM, monadLift,
    MonadLift.monadLift, Action.ofExcept]
  cases FlagSet.ofLetters letters with
  | error e => rfl
  | ok flags =>
    dsimp only
    cases leftBuilt : Pattern.withRegistry left (flags.diff (.single .sticky)) .global s with
    | mk result t =>
      cases result with
      | error e => rfl
      | ok l =>
        dsimp only
        cases rightBuilt : Pattern.withRegistry right (flags.diff (.single .sticky)) .global t with
        | mk result u =>
          cases result with
          | error e => rfl
          | ok r =>
            cases o.escape with
            | none => rfl
            | some escape =>
              simp only [Call.run]
              cases escapePattern escape l r (flags.diff (.single .sticky)) with
              | error e => rfl
              | ok p => rfl

theorem matchAnswers {subject left right letters : Text} {o : BalancedOptions} {s : Session} {flags : FlagSet} {c : Call}
    (known : FlagSet.ofLetters letters = .ok flags) (prepared : (Call.prepare left right flags o.escape s).1 = .ok c) :
    (matchBalanced subject left right letters o s).1 = c.answer subject o.labels := by
  rw [matchPrepares, known]
  simp only [prepared]

theorem answerReports {subject : Text} {labels : Option PartLabels} {mode : Mode} {ended : Except Failure Unit × State}
    {result : BalancedResult} (answered : Balanced.answer subject labels mode ended = .ok result) :
    ended.1 = .ok () ∧ (showsInside labels → ended.2.Ordered) ∧ result = report subject labels mode ended.2.pairs.reverse := by
  obtain ⟨⟨⟩, cut, answered⟩ := bindOk answered
  obtain ⟨⟨⟩, ends, same⟩ := mapOk answered
  refine ⟨ends, fun shows p mem => ?_, same.symm⟩
  rw [if_pos shows] at cut
  exact cutInsidesOk.mp cut p (List.mem_reverse.mpr mem)

theorem matchSucceeds {subject left right letters : Text} {o : BalancedOptions} {s : Session} {flags : FlagSet}
    {result : BalancedResult} (known : FlagSet.ofLetters letters = .ok flags)
    (succeeds : (matchBalanced subject left right letters o s).1 = .ok result) :
    ∃ c t, (Call.prepare left right flags o.escape s).1 = .ok c ∧ c.scan subject = (.ok (), t) ∧
      (showsInside o.labels → t.Ordered) := by
  cases prepared : (Call.prepare left right flags o.escape s).1 with
  | error e =>
    rw [matchPrepares, known] at succeeds
    simp [prepared] at succeeds
  | ok c =>
    rw [matchAnswers known prepared, Call.answer] at succeeds
    obtain ⟨ends, ordered, _⟩ := answerReports succeeds
    exact ⟨c, (c.scan subject).2, rfl, Prod.ext ends rfl, ordered⟩

theorem spanSearchBehind {p : Pattern} (orderly : p.Orderly subject) {place : Nat} {span : Span}
    (found : spanSearch p subject place = .ok (some span)) : place ≤ span.start ∧ subject.Cuts span := by
  obtain ⟨result, searched, same⟩ := mapOk found
  obtain ⟨m, rfl, rfl⟩ := Option.map_eq_some_iff.mp same
  exact (orderly.execAt searched).2

theorem escapeSearchFound {p : Pattern} {place stop : Nat}
    (found : escapeSearch (some p) subject place = .ok (some stop)) :
    ∃ m, p.execAt subject place true = .ok (some m) ∧ m.stop = stop := by
  obtain ⟨result, searched, same⟩ := mapOk found
  obtain ⟨m, rfl, stop⟩ := Option.map_eq_some_iff.mp same
  exact ⟨m, searched, stop⟩

theorem Call.Orderly.lawful {c : Call} (orderly : c.Orderly subject) : (c.search subject).Lawful subject where
  left := spanSearchBehind orderly.left
  right := spanSearchBehind orderly.right
  escaped := by
    intro place stop found
    change escapeSearch c.escape subject place = _ at found
    cases escape : c.escape with
    | none => rw [escape] at found; cases found
    | some p =>
      rw [escape] at found
      obtain ⟨m, searched, rfl⟩ := escapeSearchFound found
      obtain ⟨_, behind, cuts⟩ := (orderly.escape p escape).execAt searched
      exact ⟨Nat.le_trans behind cuts.ordered, cuts.stop⟩

end Balanced
end ExtendedPattern
