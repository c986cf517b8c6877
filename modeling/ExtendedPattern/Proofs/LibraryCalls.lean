import ExtendedPattern.Proofs.Bonds

/-! Calls while token rules run. Every call that would compile is refused, and no call changes the
cache. So there are rules that do what given programs do, whatever the programs are. -/
namespace ExtendedPattern

namespace Request
variable {α : Type} {rules : Nat → TokenRule} {name : RegistryName} {s : Session}

def refusal (letters : Text) : Failure :=
  match FlagSet.ofLetters letters with
  | .ok _ => .reentrantCompilation
  | .error e => e

/-- The outcome while token rules run. -/
def inside (rules : Nat → TokenRule) : {α : Type} → Request α → Action α
  | _, compile _ _ _ => .fail .reentrantCompilation
  | _, withLimits _ _ _ _ => .fail .reentrantCompilation
  | _, withFlags _ letters => .fail (refusal letters)
  | _, cached source letters => fun s =>
    match s.cached? source letters with
    | some p => (.ok p, s)
    | none => (.error (refusal letters), s)
  | _, matchBalanced _ _ _ letters _ => .fail (refusal letters)
  | _, matchChain subject links => ExtendedPattern.matchChain subject links
  | _, edit name e => change rules name e
  | _, view name => look rules name
  | _, report events => .reporting (.ok ()) events

theorem rewriteRefused (rules : List TokenRule) (source : Text) (flags : FlagSet) (running : s.inRules = true) :
    rewrite rules source flags s = (.error .reentrantCompilation, s) := by
  simp [rewrite, running]

theorem failsFirst {β : Type} {first : Action α} {e : Failure} (failed : first s = (.error e, s)) (next : α → Action β) :
    (first >>= next) s = (.error e, s) := by
  change first.andThen next s = _
  rw [Action.andThen, failed]

theorem buildRefused (limits : Engine.Limits) (source : Text) (flags : FlagSet) (running : s.inRules = true) :
    builder rules name limits source flags s = (.error .reentrantCompilation, s) :=
  failsFirst (rewriteRefused _ source flags running) _

theorem flaggedRefused {letters : Text} {next : FlagSet → Action α}
    (refused : ∀ flags, next flags s = (.error .reentrantCompilation, s)) :
    (Action.ofExcept (FlagSet.ofLetters letters) >>= next) s = (.error (refusal letters), s) := by
  change Action.andThen _ next s = _
  unfold Action.andThen Action.ofExcept refusal
  cases FlagSet.ofLetters letters with
  | error e => rfl
  | ok flags => exact refused flags

theorem withFlagsRefused (source letters : Text) (running : s.inRules = true) :
    Pattern.withFlagsBy (builder rules .shared {}) source letters s = (.error (refusal letters), s) :=
  flaggedRefused fun flags => buildRefused {} source flags running

theorem runsInside (request : Request α) (running : s.inRules = true) : request.run rules s = request.inside rules s := by
  cases request with
  | compile source flags name => exact rewriteRefused _ source flags running
  | withLimits source flags name limits => exact buildRefused limits source flags running
  | withFlags source letters => exact withFlagsRefused source letters running
  | cached source letters =>
    simp only [run, inside, Pattern.cachedBy]
    cases s.cached? source letters with
    | some p => rfl
    | none => simp only [withFlagsRefused source letters running]
  | matchBalanced subject left right letters options =>
    exact flaggedRefused fun flags => failsFirst (buildRefused {} left _ running) _
  | matchChain | edit | view | report => rfl

def asks : {α : Type} → Request α → Option (Text × Text)
  | _, cached source letters => some (source, letters)
  | _, _ => none

end Request

structure Bond.Parallel (cache other : Cache) (base : Edits) (a b : Cache × Edits) : Prop where
  cache : a.1 = cache
  other : b.1 = other
  edits : a.2 = b.2
  grown : base <:+ a.2

namespace Bond
variable {α : Type} {rules : Nat → TokenRule} {name : RegistryName} {cache other : Cache} {base : Edits} {running : Bool}

theorem Holds.registries {s t : Session} (holds : Holds (Parallel cache other base) running s t) :
    s.registry rules name = t.registry rules name :=
  congrArg (Registry.edited rules name) holds.memory.edits

theorem changeAgrees (e : RegistryEdit) :
    Agree (Parallel cache other base) running (Request.change rules name e) (Request.change rules name e) := by
  intro s t holds
  unfold Request.change
  rw [holds.registries]
  cases (e.call rules).change (t.registry rules name) with
  | error e => exact ⟨rfl, holds⟩
  | ok changed =>
    obtain ⟨same, grown⟩ := And.intro holds.memory.edits holds.memory.grown
    exact ⟨rfl, holds.left, holds.right, holds.memory.cache, holds.memory.other, congrArg ((name, e) :: ·) same,
      grown.trans (List.suffix_cons _ _)⟩

theorem lookAgrees :
    Agree (Parallel cache other base) running (Request.look rules name) (Request.look rules name) := by
  intro s t holds
  unfold Request.look
  rw [holds.registries]
  exact ⟨rfl, holds⟩

theorem insideAgrees (rules : Nat → TokenRule) (request : Request α) (agree : ∀ key ∈ request.asks, cache.lookup key = other.lookup key) :
    Agree (Parallel cache other base) true (request.run rules) (request.run rules) := by
  intro s t holds
  rw [request.runsInside holds.left, request.runsInside holds.right]
  cases request with
  | compile | withLimits | withFlags | matchBalanced => exact ⟨rfl, holds⟩
  | cached source letters =>
    have left : s.cached? source letters = cache.lookup (source, letters) :=
      congrArg (List.lookup _) holds.memory.cache
    have right : t.cached? source letters = other.lookup (source, letters) :=
      congrArg (List.lookup _) holds.memory.other
    simp only [Request.inside]
    rw [left, right, agree _ rfl]
    cases other.lookup (source, letters) <;> exact ⟨rfl, holds⟩
  | matchChain subject links => exact chainAgrees subject links s t holds
  | edit name e => exact changeAgrees e s t holds
  | view name => exact lookAgrees s t holds
  | report events => exact agreeReporting (.ok ()) events events s t holds

end Bond

def Calls.AsksOnly {α : Type} (asked : Text × Text → Prop) : Calls α → Prop
  | done _ => True
  | ask request next => (∀ key ∈ request.asks, asked key) ∧ ∀ answer, (next answer).AsksOnly asked

theorem Calls.asksAny {α : Type} (program : Calls α) : program.AsksOnly fun _ => True := by
  induction program with
  | done result => trivial
  | ask request next ih => exact ⟨fun _ _ => trivial, ih⟩

structure CallingRule.AsksOnly (asked : Text × Text → Prop) (c : CallingRule) : Prop where
  handler : ∀ m region context, (c.handler m region context).AsksOnly asked
  trigger : ∀ program ∈ c.trigger, ∀ context, (program context).AsksOnly asked

def RuleBook.AsksOnly (asked : Text × Text → Prop) (book : RuleBook) : Prop :=
  ∀ n, (book.program n).AsksOnly asked

theorem RuleBook.asksAny (book : RuleBook) : book.AsksOnly fun _ => True := fun _ =>
  ⟨fun _ _ _ => Calls.asksAny _, fun _ _ _ => Calls.asksAny _⟩

namespace Bond
variable {α : Type} {rules : Nat → TokenRule} {cache other : Cache} {base : Edits} {asked : Text × Text → Prop}
variable {bond : Bond} {running : Bool}

theorem performAgrees {answer answer' : {β : Type} → Request β → Action β} {program : Calls α}
    (asks : program.AsksOnly asked)
    (agree : ∀ {β : Type} (request : Request β), (∀ key ∈ request.asks, asked key) →
      Agree bond running (answer request) (answer' request)) :
    Agree bond running (program.perform answer) (program.perform answer') := by
  induction program with
  | done result => exact agreeExcept result
  | ask request next ih =>
    intro s t holds
    obtain ⟨same, kept⟩ := agree request asks.1 s t holds
    have goesOn := ih (answer request s).1 (asks.2 _) _ _ kept
    simp only [Calls.perform]
    rw [← same]
    exact goesOn

theorem programInside (rules : Nat → TokenRule) {program : Calls α} (asks : program.AsksOnly asked)
    (agree : ∀ key, asked key → cache.lookup key = other.lookup key) :
    Agree (Parallel cache other base) true (program.run rules) (program.run rules) :=
  performAgrees asks fun request mem => insideAgrees rules request fun key asks => agree key (mem key asks)

theorem decideAgrees {one other : Action Bool} (agree : Agree bond true one other) :
    Agree bond true (fun s => (CallingRule.decision (one s).1, (one s).2))
      (fun s => (CallingRule.decision (other s).1, (other s).2)) := by
  intro s t holds
  obtain ⟨same, kept⟩ := agree s t holds
  exact ⟨congrArg CallingRule.decision same, kept⟩

theorem ruleInside {c : CallingRule} (asks : c.AsksOnly asked)
    (agree : ∀ key, asked key → cache.lookup key = other.lookup key) :
    Rules (Parallel cache other base) (c.rule (Request.run rules)) (c.rule (Request.run rules)) where
  find := rfl
  applies region context := by
    intro s t holds
    unfold TokenRule.applies CallingRule.rule
    cases c.regions.has region with
    | false => exact ⟨rfl, holds⟩
    | true =>
      cases gate : c.trigger with
      | none => exact ⟨rfl, holds⟩
      | some program => exact decideAgrees (programInside rules (asks.trigger program gate context) agree) s t holds
  handle m region context := programInside rules (asks.handler m region context) agree

theorem bookAgrees {book : RuleBook} (asks : book.AsksOnly asked)
    (agree : ∀ key, asked key → cache.lookup key = other.lookup key) (n : Nat) :
    Rules (Parallel cache other base) (book.rule n) (book.rule n) where
  find := rfl
  applies region context := by
    intro s t holds
    rw [(book.follows n).applies region context s holds.left, (book.follows n).applies region context t holds.right]
    exact (ruleInside (asks n) agree).applies region context s t holds
  handle m region context := by
    intro s t holds
    rw [(book.follows n).handle m region context s holds.left, (book.follows n).handle m region context t holds.right]
    exact (ruleInside (asks n) agree).handle m region context s t holds

end Bond
end ExtendedPattern
