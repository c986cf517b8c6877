import ExtendedPattern.Chain
import ExtendedPattern.Proofs.AllMatches

/-! Chains go on level by level, over all values of a level at once, and leave off at an empty one. What they pass on is
what each value passes on by itself, one behind the other. Which of two failures comes first may differ, and does so
only where one of them is a search that never ends. -/
namespace ExtendedPattern

theorem Pattern.findAllFails {p : Pattern} {subject : Text} {e : Failure} (failed : p.findAll subject = .error e) :
    e = .backtrackLimit ∨ e = .endless := by
  obtain endless | trace := Iteration.matchesFromTrace (p.searcher subject) (Iteration.rounds subject) 0
  · exact .inr (Except.error.inj (failed.symm.trans endless))
  · obtain ⟨_, searched⟩ := Iteration.traceFails trace failed
    exact .inl (execAtFails searched)

def passedOn : List Text → List ChainLink → Except Failure (List Text)
  | values, [] => .ok values
  | values, link :: rest => (link.valuesInAll values).bind fun found => passedOn found rest

namespace ChainLink
variable {link : ChainLink} {values : List Text} {e : Failure}

theorem valuesInAllCons (link : ChainLink) (subject : Text) (rest : List Text) : link.valuesInAll (subject :: rest) =
    (link.valuesIn subject).bind fun first => (link.valuesInAll rest).map (first ++ ·) := by
  rw [valuesInAll]
  cases link.valuesIn subject with
  | error e => rfl
  | ok first => cases link.valuesInAll rest <;> rfl

theorem valuesInAllAppend (link : ChainLink) (xs ys : List Text) : link.valuesInAll (xs ++ ys) =
    (link.valuesInAll xs).bind fun first => (link.valuesInAll ys).map (first ++ ·) := by
  induction xs with
  | nil => cases given : link.valuesInAll ys <;> simp [Except.bind, Except.map, valuesInAll, given]
  | cons x xs ih =>
    rw [List.cons_append, valuesInAllCons, valuesInAllCons, ih]
    cases link.valuesIn x with
    | error e => rfl
    | ok first =>
      cases link.valuesInAll xs with
      | error e => rfl
      | ok others => cases link.valuesInAll ys <;> simp [Except.bind, Except.map]

theorem valuesInAllSingle (link : ChainLink) (subject : Text) : link.valuesInAll [subject] = link.valuesIn subject := by
  rw [valuesInAllCons]
  cases link.valuesIn subject <;> simp [Except.bind, Except.map, valuesInAll]

theorem valuesInAllFails : link.valuesInAll values = .error e ↔ ∃ before v after, values = before ++ v :: after ∧
    (∀ w ∈ before, ∃ ms, link.pattern.findAll w = .ok ms) ∧ link.pattern.findAll v = .error e := by
  constructor
  · intro failed
    induction values with
    | nil => cases failed
    | cons v values ih =>
      rw [valuesInAllCons, valuesIn] at failed
      cases searched : link.pattern.findAll v with
      | error e' =>
        rw [searched] at failed
        cases failed
        exact ⟨[], v, values, rfl, nofun, searched⟩
      | ok ms =>
        rw [searched] at failed
        obtain ⟨before, w, after, rfl, searches, fails⟩ := ih (mapFails failed)
        exact ⟨v :: before, w, after, rfl, List.forall_mem_cons.mpr ⟨⟨ms, searched⟩, searches⟩, fails⟩
  · rintro ⟨before, v, after, rfl, searches, fails⟩
    induction before with
    | nil =>
      rw [List.nil_append, valuesInAllCons, valuesIn, fails]
      rfl
    | cons w before ih =>
      obtain ⟨⟨ms, searched⟩, others⟩ := List.forall_mem_cons.mp searches
      rw [List.cons_append, valuesInAllCons, valuesIn, searched, ih others]
      rfl

end ChainLink

variable {values : List Text} {links : List ChainLink} {e : Failure}

theorem passedNothing (links : List ChainLink) : passedOn [] links = .ok [] := by
  induction links with
  | nil => rfl
  | cons link rest ih => exact ih

theorem chainPasses (level : Nat) (values : List Text) (links : List ChainLink) (s : Session) :
    (chainFrom level values links s).1 = passedOn values links := by
  induction links generalizing level values s with
  | nil => rfl
  | cons link rest ih =>
    rw [passedOn, chainFrom]
    simp only [bind, Action.andThen, liftM, monadLift, MonadLift.monadLift, Action.ofExcept, Action.emit]
    cases link.valuesInAll values with
    | error e => rfl
    | ok found =>
      dsimp only [Except.bind]
      split
      · rename_i none
        rw [List.isEmpty_iff.mp none, passedNothing]
        rfl
      · exact ih ..

theorem chainPassesOn (subject : Text) (links : List ChainLink) (s : Session) :
    (matchChain subject links s).1 = passedOn [subject] links :=
  chainPasses 0 [subject] links s

theorem passedThen (values : List Text) (links more : List ChainLink) :
    passedOn values (links ++ more) = (passedOn values links).bind fun found => passedOn found more := by
  induction links generalizing values with
  | nil => rfl
  | cons link rest ih =>
    rw [List.cons_append, passedOn, passedOn]
    cases link.valuesInAll values with
    | error e => rfl
    | ok found => exact ih found

theorem passedFails : passedOn values links = .error e ↔
    ∃ front link rest found, links = front ++ link :: rest ∧ passedOn values front = .ok found ∧
      ∃ before v after, found = before ++ v :: after ∧ (∀ w ∈ before, ∃ ms, link.pattern.findAll w = .ok ms) ∧
        link.pattern.findAll v = .error e := by
  constructor
  · intro failed
    induction links generalizing values with
    | nil => cases failed
    | cons link rest ih =>
      rw [passedOn] at failed
      cases searched : link.valuesInAll values with
      | error e' =>
        rw [searched] at failed
        cases failed
        exact ⟨[], link, rest, values, rfl, rfl, ChainLink.valuesInAllFails.mp searched⟩
      | ok found =>
        rw [searched] at failed
        obtain ⟨front, last, behind, between, rfl, passed, fails⟩ := ih failed
        refine ⟨link :: front, last, behind, between, rfl, ?_, fails⟩
        rw [passedOn, searched]
        exact passed
  · rintro ⟨front, link, rest, found, rfl, passed, fails⟩
    rw [passedThen, passed]
    change (link.valuesInAll found).bind _ = _
    rw [ChainLink.valuesInAllFails.mpr fails]
    rfl

theorem passedFailsBy (failed : passedOn values links = .error e) : e = .backtrackLimit ∨ e = .endless := by
  obtain ⟨_, _, _, _, _, _, _, _, _, _, _, searched⟩ := passedFails.mp failed
  exact Pattern.findAllFails searched

theorem passedAppend (xs ys : List Text) (links : List ChainLink) (out : List Text) : passedOn (xs ++ ys) links = .ok out ↔
    ∃ first second, passedOn xs links = .ok first ∧ passedOn ys links = .ok second ∧ out = first ++ second := by
  induction links generalizing xs ys with
  | nil => simp [passedOn, eq_comm]
  | cons link rest ih =>
    simp only [passedOn, ChainLink.valuesInAllAppend]
    cases link.valuesInAll xs with
    | error e => simp [Except.bind]
    | ok first =>
      cases link.valuesInAll ys with
      | error e => simp [Except.bind, Except.map]
      | ok second => exact ih first second

theorem passedEach (values : List Text) (links : List ChainLink) (out : List Text) : passedOn values links = .ok out ↔
    (values.mapM fun v => passedOn [v] links).map List.flatten = .ok out := by
  induction values generalizing out with
  | nil =>
    rw [passedNothing]
    rfl
  | cons v values ih =>
    rw [← List.singleton_append, passedAppend, List.singleton_append, List.mapM_cons]
    simp only [ih]
    cases passedOn [v] links with
    | error e => simp [bind, Except.map, Except.bind]
    | ok first =>
      cases values.mapM fun v => passedOn [v] links <;>
        simp [bind, pure, Except.map, Except.bind, Except.pure, eq_comm]

theorem eachFailsBy (failed : (values.mapM fun v => passedOn [v] links).map List.flatten = .error e) :
    e = .backtrackLimit ∨ e = .endless := by
  induction values with
  | nil => cases failed
  | cons v values ih =>
    rw [List.mapM_cons] at failed
    cases first : passedOn [v] links with
    | error e' =>
      rw [first] at failed
      cases failed
      exact passedFailsBy first
    | ok out =>
      rw [first] at failed
      refine ih ?_
      cases others : values.mapM fun v => passedOn [v] links with
      | error e' =>
        rw [others] at failed
        exact failed
      | ok outs =>
        rw [others] at failed
        cases failed

theorem chainsCompose (subject : Text) (links more : List ChainLink) (s : Session) :
    let whole := (matchChain subject (links ++ more) s).1
    let parts := (matchChain subject links s).1.bind fun values =>
      (values.mapM fun v => (matchChain v more s).1).map List.flatten
    (whole = parts ∨ ∃ e f, whole = .error e ∧ parts = .error f ∧ (e = .endless ∨ f = .endless)) ∧
      (matchChain subject [] s).1 = .ok [subject] ∧
      (∀ link, (matchChain subject [link] s).1 = (link.pattern.findAll subject).map (·.map link.value)) ∧
      (∀ t, (matchChain subject links t).1 = (matchChain subject links s).1) ∧
      ∀ e, (matchChain subject links s).1 = .error e ↔ ∃ front link rest values, links = front ++ link :: rest ∧
        (matchChain subject front s).1 = .ok values ∧ ∃ before v after, values = before ++ v :: after ∧
          (∀ w ∈ before, ∃ ms, link.pattern.findAll w = .ok ms) ∧ link.pattern.findAll v = .error e := by
  simp only [chainPassesOn]
  refine ⟨?_, rfl, fun link => ?_, fun _ => trivial, fun e => passedFails⟩
  · rw [passedThen]
    cases passedOn [subject] links with
    | error e => exact .inl rfl
    | ok found =>
      have each := passedEach found more
      change passedOn found more = _ ∨ ∃ e f, passedOn found more = _ ∧ _
      cases whole : passedOn found more with
      | ok out => exact .inl ((each out).mp whole).symm
      | error e =>
        cases parts : (found.mapM fun v => passedOn [v] more).map List.flatten with
        | ok out => cases whole.symm.trans ((each out).mpr parts)
        | error f =>
          rcases passedFailsBy whole with rfl | rfl
          · rcases eachFailsBy parts with rfl | rfl
            · exact .inl parts.symm
            · exact .inr ⟨_, _, rfl, parts, .inr rfl⟩
          · exact .inr ⟨_, _, rfl, parts, .inl rfl⟩
  · rw [passedOn, ChainLink.valuesInAllSingle, ChainLink.valuesIn]
    cases link.pattern.findAll subject <;> rfl

theorem emptyGroupIsSearched :
    ∃ p q, Pattern.ofNative "(a)|b".toList .empty = .ok p ∧ Pattern.ofNative "a*".toList .empty = .ok q ∧
      (matchChain "aab".toList [⟨p, .index 1⟩] {}).1 = .ok [['a'], ['a'], []] ∧
      (matchChain "aab".toList ([⟨p, .index 1⟩] ++ [⟨q, .whole⟩]) {}).1 = .ok [['a'], [], ['a'], [], []] := by
  have first : (Pattern.ofNative "(a)|b".toList .empty).toOption.map (fun p =>
      (passedOn ["aab".toList] [⟨p, .index 1⟩]).toOption) = some (some [['a'], ['a'], []]) := by
    decide +kernel
  have second : (Pattern.ofNative "a*".toList .empty).toOption.map (fun q =>
      ([['a'], ['a'], []].mapM fun v => passedOn [v] [⟨q, .whole⟩]).toOption) =
      some (some [[['a'], []], [['a'], []], [[]]]) := by
    decide +kernel
  obtain ⟨p, builtFirst, values⟩ := okOfMap first
  obtain ⟨q, builtSecond, each⟩ := okOfMap second
  have front : (matchChain "aab".toList [⟨p, .index 1⟩] {}).1 = .ok [['a'], ['a'], []] := by
    rw [chainPassesOn]
    exact okOfToOption values
  refine ⟨p, q, builtFirst, builtSecond, front, ?_⟩
  have parts : ([['a'], ['a'], []].mapM fun v => (matchChain v [⟨q, .whole⟩] {}).1) = .ok [[['a'], []], [['a'], []], [[]]] := by
    simp only [chainPassesOn]
    exact okOfToOption each
  obtain whole | ⟨_, _, _, failed, _⟩ := (chainsCompose "aab".toList [⟨p, .index 1⟩] [⟨q, .whole⟩] {}).1
  · rw [whole, front]
    exact congrArg (Except.map List.flatten) parts
  · rw [front] at failed
    cases (congrArg (Except.map List.flatten) parts).symm.trans failed

end ExtendedPattern
