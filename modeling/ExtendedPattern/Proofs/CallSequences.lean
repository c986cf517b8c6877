import ExtendedPattern.Proofs.Reentrance
import ExtendedPattern.Proofs.RuleBooks
import ExtendedPattern.Proofs.Slots

/-! Sequences of calls from outside token rules. They leave the guard clear. A call ends as it would in
any session with the same registries, as far as rules do not ask for patterns that have been cached since. -/
namespace ExtendedPattern

namespace RuleBook
variable {book : RuleBook} {s t : Session}

def Call (book : RuleBook) (s t : Session) : Prop :=
  ∃ (α : Type) (request : Request α), t = (request.run book.rule s).2

def Leads (book : RuleBook) : Session → Session → Prop := Relation.ReflTransGen book.Call

def Reached (book : RuleBook) (s : Session) : Prop := book.Leads {} s

def withFlags (book : RuleBook) (source letters : Text) : Action Pattern :=
  (Request.withFlags source letters).run book.rule

theorem programLeads {α : Type} (program : Calls α) (s : Session) : book.Leads s (program.run book.rule s).2 := by
  induction program generalizing s with
  | done result => exact .refl
  | ask request next ih => exact .head ⟨_, request, rfl⟩ (ih _ _)

theorem uncachedCall {α : Type} {act : Action α} (idle : s.inRules = false)
    (agrees : ∀ {cache : Cache} {base : Edits}, Bond.Agree (.Parallel cache cache base) false act act) :
    (act s).2.inRules = false ∧ s.edits <:+ (act s).2.edits ∧ (act s).2.cache = s.cache := by
  obtain ⟨_, kept⟩ := agrees s s ⟨idle, idle, rfl, rfl, rfl, List.suffix_refl _⟩
  exact ⟨kept.left, kept.memory.grown, kept.memory.cache⟩

theorem callCases {α : Type} (request : Request α) (idle : s.inRules = false) :
    let after := (request.run book.rule s).2
    after.inRules = false ∧ s.edits <:+ after.edits ∧
      (after.cache = s.cache ∨ ∃ source letters p, s.cached? source letters = none ∧
        (book.withFlags source letters s).1 = .ok p ∧ (∃ a, (request.run book.rule s).1 = .ok a) ∧
        after.cache = ((source, letters), p) :: s.cache) := by
  by_cases uncached : request.asks = none
  · obtain ⟨clear, grown, same⟩ := uncachedCall idle (Bond.callAgrees book.asksAny (fun _ _ => rfl) request uncached)
    exact ⟨clear, grown, .inl same⟩
  · cases request with
    | cached source letters =>
      have built := uncachedCall idle
        (Bond.withFlagsAgrees (Bond.builderAgrees book.asksAny (fun _ _ => rfl) .shared {}) source letters)
      dsimp only
      simp only [withFlags, Request.run, Pattern.cachedBy]
      cases missing : s.cached? source letters with
      | some p => exact ⟨idle, List.suffix_refl _, .inl rfl⟩
      | none =>
        dsimp only
        generalize made : Pattern.withFlagsBy _ source letters s = result at built ⊢
        obtain ⟨result, after⟩ := result
        obtain ⟨clear, grown, same⟩ := built
        cases result with
        | error e => exact ⟨clear, grown, .inl same⟩
        | ok p => exact ⟨clear, grown, .inr ⟨source, letters, p, missing, congrArg Prod.fst made, ⟨p, rfl⟩, congrArg _ same⟩⟩
    | _ => exact absurd rfl uncached

theorem leadsOn (idle : s.inRules = false) (leads : book.Leads s t) :
    t.inRules = false ∧ s.edits <:+ t.edits ∧
      ∀ source letters p, s.cached? source letters = some p → t.cached? source letters = some p := by
  induction leads with
  | refl => exact ⟨idle, List.suffix_refl _, fun _ _ _ held => held⟩
  | tail leads call ih =>
    obtain ⟨clear, grown, held⟩ := ih
    obtain ⟨α, request, rfl⟩ := call
    obtain ⟨after, further, cache⟩ := book.callCases request clear
    refine ⟨after, grown.trans further, fun source letters p found => ?_⟩
    have before := held source letters p found
    rcases cache with same | ⟨new, others, q, missing, _, _, same⟩
    · exact (congrArg (List.lookup _) same).trans before
    · refine (congrArg (List.lookup _) same).trans ?_
      rw [List.lookup_cons]
      split
      · rename_i key
        obtain ⟨rfl, rfl⟩ := Prod.mk.inj (eq_of_beq key)
        cases missing.symm.trans before
      · exact before

theorem Reached.idle (reached : book.Reached s) : s.inRules = false := (leadsOn rfl reached).1

theorem Reached.origin (reached : book.Reached s) {source letters : Text} {p : Pattern}
    (held : s.cached? source letters = some p) : ∃ first, book.Reached first ∧ book.Leads first s ∧
      first.cached? source letters = none ∧ (book.withFlags source letters first).1 = .ok p := by
  induction reached with
  | refl => cases held
  | @tail t u reached call ih =>
    obtain ⟨α, request, rfl⟩ := call
    obtain ⟨_, _, cache⟩ := book.callCases request (Reached.idle reached)
    have earlier (before : t.cached? source letters = some p) := ih before
    have step : book.Leads t (request.run book.rule t).2 := .single ⟨α, request, rfl⟩
    have onward (before : t.cached? source letters = some p) : ∃ first, book.Reached first ∧
        book.Leads first (request.run book.rule t).2 ∧ first.cached? source letters = none ∧
        (book.withFlags source letters first).1 = .ok p := by
      obtain ⟨first, start, leads, found⟩ := ih before
      exact ⟨first, start, leads.trans step, found⟩
    rcases cache with same | ⟨new, others, q, missing, built, _, same⟩
    · exact onward ((congrArg (List.lookup _) same).symm.trans held)
    · have held := (congrArg (List.lookup _) same).symm.trans held
      rw [List.lookup_cons] at held
      split at held
      · rename_i key
        obtain ⟨rfl, rfl⟩ := Prod.mk.inj (eq_of_beq key)
        cases held
        exact ⟨t, reached, step, missing, built⟩
      · exact onward held

theorem uneditedBuilds (book : RuleBook) (idle : s.inRules = false) (unedited : ∀ e ∈ s.edits, e.1 ≠ .shared)
    (source letters : Text) : ∃ t, book.withFlags source letters s = ((Pattern.withFlags source letters {}).1, t) ∧
      t.inRules = false ∧ t.cache = s.cache ∧ t.edits = s.edits := by
  obtain ⟨same, kept⟩ := Bond.withFlagsAgrees (Bond.uneditedBuilders book.rule unedited) source letters s {}
    ⟨idle, rfl, rfl⟩
  obtain ⟨clear, _, cache⟩ := uncachedCall idle
    (Bond.withFlagsAgrees (Bond.builderAgrees book.asksAny (fun _ _ => rfl) .shared {}) source letters)
  exact ⟨(book.withFlags source letters s).2, Prod.ext same rfl, clear, cache, kept.memory⟩

theorem uneditedWithFlags (idle : s.inRules = false) (unedited : ∀ e ∈ s.edits, e.1 ≠ .shared) (source letters : Text) :
    (book.withFlags source letters s).1 = (Pattern.withFlags source letters {}).1 := by
  obtain ⟨t, built, _⟩ := book.uneditedBuilds idle unedited source letters
  rw [built]

theorem uneditedBalanced (idle : s.inRules = false) (unedited : ∀ e ∈ s.edits, e.1 ≠ .shared)
    (subject left right letters : Text) (options : BalancedOptions) :
    ((Request.matchBalanced subject left right letters options).run book.rule s).1 =
      (matchBalanced subject left right letters options {}).1 :=
  (Bond.balancedAgrees (Bond.uneditedBuilders book.rule unedited) subject left right letters options s {} ⟨idle, rfl, rfl⟩).1

theorem cachedRuns {source letters : Text} {p : Pattern} (held : s.cached? source letters = some p) :
    (Request.cached source letters).run book.rule s = (.ok p, s) := by
  simp only [Request.run, Pattern.cachedBy, held]

theorem newCached {source letters : Text} {p : Pattern} (missing : s.cached? source letters = none)
    (built : book.withFlags source letters s = (.ok p, t)) :
    (Request.cached source letters).run book.rule s = (.ok p, { t with cache := ((source, letters), p) :: t.cache }) := by
  change Pattern.withFlagsBy _ source letters s = _ at built
  simp only [Request.run, Pattern.cachedBy, missing, built]

theorem newRuns {source letters : Text} (missing : s.cached? source letters = none) :
    ((Request.cached source letters).run book.rule s).1 = (book.withFlags source letters s).1 := by
  simp only [withFlags, Request.run, Pattern.cachedBy, missing]
  rcases Pattern.withFlagsBy _ source letters s with ⟨_ | p, t⟩ <;> rfl

theorem cachedHolds {source letters : Text} {p : Pattern}
    (answered : ((Request.cached source letters).run book.rule s).1 = .ok p) :
    ((Request.cached source letters).run book.rule s).2.cached? source letters = some p := by
  simp only [Request.run, Pattern.cachedBy] at answered ⊢
  cases held : s.cached? source letters with
  | some q =>
    rw [held] at answered
    cases answered
    exact held
  | none =>
    rw [held] at answered
    dsimp only at answered ⊢
    generalize Pattern.withFlagsBy _ source letters s = built at answered ⊢
    obtain ⟨result, t⟩ := built
    cases result with
    | error e => cases answered
    | ok q =>
      cases answered
      simp [Session.cached?]

theorem Reached.cachedOrigin (reached : book.Reached s) {source letters : Text} {p : Pattern}
    (answered : ((Request.cached source letters).run book.rule s).1 = .ok p) : ∃ first, book.Reached first ∧
      book.Leads first s ∧ first.cached? source letters = none ∧ (book.withFlags source letters first).1 = .ok p := by
  cases held : s.cached? source letters with
  | none => exact ⟨s, reached, .refl, held, (newRuns held).symm.trans answered⟩
  | some q =>
    rw [cachedRuns held] at answered
    cases answered
    exact reached.origin held

theorem Reached.uneditedCached (reached : book.Reached s) (unedited : ∀ e ∈ s.edits, e.1 ≠ .shared)
    (source letters : Text) : ((Request.cached source letters).run book.rule s).1 = (Pattern.withFlags source letters {}).1 := by
  cases held : s.cached? source letters with
  | none => rw [newRuns held, uneditedWithFlags reached.idle unedited]
  | some p =>
    obtain ⟨first, start, leads, _, built⟩ := reached.origin held
    have grown := (leadsOn start.idle leads).2.1
    rw [cachedRuns held, ← built, uneditedWithFlags start.idle fun e mem => unedited e (grown.mem mem)]

theorem withFlagsCursor {source letters : Text} {p : Pattern} (built : (book.withFlags source letters s).1 = .ok p) :
    p.cursor = 0 := by
  obtain ⟨flags, _, _, made⟩ := Action.andThenOk (Prod.ext built rfl)
  obtain ⟨done, _, _, assembled⟩ := Action.andThenOk made
  obtain ⟨assembled, _⟩ := Prod.mk.inj assembled
  unfold Pattern.assemble at assembled
  split at assembled
  · cases assembled
    rfl
  · cases assembled

end RuleBook

/-- Behind any calls from outside token rules the guard is clear. While rules run, every program does what
`Request.inside` says: no call compiles, and none changes the cache. Calls end as in any session with the same
registries, where the cache answers alike for the keys that are asked. A call that fails caches nothing. What is
cached stays, and it is what was built when it was first asked for; as long as the shared registry has not been
changed that is what is built now. -/
theorem callsLeaveNoTrace (book : RuleBook) {s : Session} (reached : book.Reached s) :
    s.inRules = false ∧
      (∀ {α : Type} (program : Calls α) (inner : Session), inner.inRules = true →
        program.run book.rule inner = program.perform (Request.inside book.rule) inner ∧
          (program.run book.rule inner).2.inRules = true ∧ (program.run book.rule inner).2.cache = inner.cache) ∧
      (∀ asked : Text × Text → Prop, book.AsksOnly asked → ∀ t : Session, t.inRules = false → t.edits = s.edits →
        (∀ key, asked key → t.cache.lookup key = s.cache.lookup key) →
          ∀ {α : Type} (program : Calls α), program.AsksOnly asked →
            (program.run book.rule t).1 = (program.run book.rule s).1) ∧
      (∀ {α : Type} (request : Request α) (e : Failure), (request.run book.rule s).1 = .error e →
        (request.run book.rule s).2.cache = s.cache) ∧
      (∀ source letters : Text,
        (s.cached? source letters = none →
          ((Request.cached source letters).run book.rule s).1 = (book.withFlags source letters s).1) ∧
        ∀ p, ((Request.cached source letters).run book.rule s).1 = .ok p →
          p.cursor = 0 ∧
          (∀ t, book.Leads ((Request.cached source letters).run book.rule s).2 t →
            (Request.cached source letters).run book.rule t = (.ok p, t)) ∧
          ∃ first, book.Reached first ∧ book.Leads first s ∧ first.cached? source letters = none ∧
            (book.withFlags source letters first).1 = .ok p) ∧
      ((∀ e ∈ s.edits, e.1 ≠ .shared) → ∀ source letters : Text,
        (book.withFlags source letters s).1 = (Pattern.withFlags source letters {}).1 ∧
          ((Request.cached source letters).run book.rule s).1 = (Pattern.withFlags source letters {}).1 ∧
          ∀ (subject left right : Text) (options : BalancedOptions),
            ((Request.matchBalanced subject left right letters options).run book.rule s).1 =
              (matchBalanced subject left right letters options {}).1) := by
  have idle := reached.idle
  refine ⟨idle, fun program inner running => ?_, fun asked asks t clear edits agree α program within => ?_,
    fun request e failed => ?_, fun source letters => ⟨RuleBook.newRuns, fun p answered => ?_⟩,
    fun unedited source letters => ⟨RuleBook.uneditedWithFlags idle unedited source letters,
      reached.uneditedCached unedited source letters,
      fun subject left right options => RuleBook.uneditedBalanced idle unedited subject left right letters options⟩⟩
  · have holds : Bond.Holds (.Parallel inner.cache inner.cache inner.edits) true inner inner :=
      ⟨running, running, rfl, rfl, rfl, List.suffix_refl _⟩
    obtain ⟨_, kept⟩ := Bond.programInside book.rule program.asksAny (fun _ _ => rfl) inner inner holds
    exact ⟨(program.performSame (fun _ => rfl) running).symm, kept.left, kept.memory.cache⟩
  · have agrees := Bond.performAgrees within fun request mem => Bond.requestAgrees asks request mem
    exact (agrees t s ⟨clear, idle, agree, edits⟩).1
  · obtain ⟨_, _, same | ⟨_, _, _, _, _, ⟨a, succeeded⟩, _⟩⟩ := book.callCases request idle
    · exact same
    · cases succeeded.symm.trans failed
  · obtain ⟨first, start, leads, missing, built⟩ := reached.cachedOrigin answered
    have after := (book.callCases (.cached source letters) idle).1
    refine ⟨RuleBook.withFlagsCursor built, fun t onward => ?_, first, start, leads, missing, built⟩
    exact RuleBook.cachedRuns ((RuleBook.leadsOn after onward).2.2 source letters p (RuleBook.cachedHolds answered))

def CallingRule.onSign (sign : Char) (written : Context → Calls (Text × Context)) : CallingRule where
  pattern := [sign]
  find := TokenRule.finderOf fun _ t => if t.head? = some sign then some [some ⟨0, sign.utf8Size⟩] else none
  handler _ _ := written

def RuleBook.twoSigns : RuleBook := .ofPrograms fun
  | 0 => .onSign '%' fun context =>
    .ask (.cached ['a'] []) fun answer => .done (answer.map fun p => (p.native, context))
  | _ => .onSign 'a' fun context => .done (.ok (['x'], context))

def RegistryName.first : RegistryName := .own 0 false

def Calls.registers {α : Type} (name : RegistryName) (rule : Nat) (request : Request α) : Calls α :=
  .ask (.edit name .enable) fun _ => .ask (.edit name (.register rule)) fun _ => .ask request .done

theorem refusedHandlerLeavesNoTrace :
    let program : Calls Compilation := .registers .first 0 (.compile ['%'] .empty .first)
    let s := (program.run RuleBook.twoSigns.rule {}).2
    RuleBook.twoSigns.Reached s ∧ (program.run RuleBook.twoSigns.rule {}).1 = .error .reentrantCompilation ∧
      s.inRules = false ∧
      ((Request.cached ['a'] []).run RuleBook.twoSigns.rule s).1 = (Pattern.withFlags ['a'] [] {}).1 := by
  intro program s
  have reached : RuleBook.twoSigns.Reached s := RuleBook.programLeads program {}
  obtain ⟨idle, _, _, _, _, unedited⟩ := callsLeaveNoTrace RuleBook.twoSigns reached
  have edits : s.edits = [(.first, .register 0), (.first, .enable)] := rfl
  refine ⟨reached, rfl, idle, (unedited ?_ ['a'] []).2.1⟩
  rw [edits]
  decide

namespace RuleBook

theorem letterBuilds : ∃ p t, Pattern.withFlags ['a'] [] {} = (.ok p, t) ∧ p.native = ['a'] := by
  have untouched : (compile ['a'] .empty .builtins {}).1 = .ok ⟨[⟨['a'], ['a'], false⟩], .start .empty⟩ := by cbv
  have assembled : (Pattern.assemble ['a'] ['a'] .empty none {}).toOption.isSome := by decide +kernel
  obtain ⟨p, assembled⟩ := okOfSome assembled
  rw [← compileUnnamed (by decide)] at untouched
  cases made : compile ['a'] .empty .global {} with
  | mk result t =>
    rw [made] at untouched
    cases untouched
    exact ⟨p, t, Pattern.withFlagsOf rfl made assembled, (Pattern.assembleParts assembled).1⟩

theorem letterCached : ∃ p events, ((Request.cached ['a'] []).run twoSigns.rule {}).2 =
    ⟨false, [((['a'], []), p)], events, []⟩ ∧ p.native = ['a'] := by
  obtain ⟨p, _, built, native⟩ := letterBuilds
  have idle : ({} : Session).inRules = false := rfl
  obtain ⟨⟨inRules, cache, events, edits⟩, made, clear, same, still⟩ :=
    twoSigns.uneditedBuilds idle (fun e mem => by cases mem) ['a'] []
  rw [built] at made
  cases clear
  cases same
  cases still
  exact ⟨p, events, by rw [newCached rfl made], native⟩

theorem runAsk {α β : Type} (book : RuleBook) (request : Request β) (next : Except Failure β → Calls α) (s : Session) :
    (Calls.ask request next).run book.rule s =
      (next (request.run book.rule s).1).run book.rule (request.run book.rule s).2 := rfl

theorem unflagged (build : Pattern.Builder) (source : Text) (s : Session) :
    Pattern.withFlagsBy build source [] s = build source .empty s := rfl

theorem signCompiles (p : Pattern) (events : List Event) :
    ((Calls.registers .first 0 (.compile ['%'] .empty .first)).run twoSigns.rule
      ⟨false, [((['a'], []), p)], events, []⟩).1.map Compilation.native = .ok (p.native ++ []) := rfl

theorem registersRun {α : Type} (book : RuleBook) (name : RegistryName) (n : Nat) (request : Request α) (cache : Cache)
    (events : List Event) : ∃ more, (Calls.registers name n request).run book.rule ⟨false, cache, events, []⟩ =
      request.run book.rule ⟨false, cache, more, [(name, .register n), (name, .enable)]⟩ := by
  simp [Calls.registers, Calls.run, Calls.perform, Request.run, Request.change, Session.registry, Registry.edited,
    RegistryEdit.call, Registry.Call.change, Registry.enable, Registry.register]
  exact ⟨_, rfl⟩

theorem registeredFirst (book : RuleBook) (name : RegistryName) (n : Nat) (cache : Cache) (events : List Event) :
    ∃ others, Session.ruleset book.rule ⟨false, cache, events, [(name, .register n), (name, .enable)]⟩ name =
      book.rule n :: others := by
  simp [Session.ruleset, Session.registry, Registry.edited, RegistryEdit.call, Registry.Call.change, Registry.enable,
    Registry.register, Registry.append]

theorem letterRewritten (others : List TokenRule) (s : Session) (idle : s.inRules = false) :
    (rewrite (twoSigns.rule 1 :: others) ['a'] .empty s).1 = .ok ⟨[⟨['a'], ['x'], true⟩], .start .empty⟩ := by
  obtain ⟨inRules, cache, events, edits⟩ := s
  cases idle
  rfl

end RuleBook

theorem cachedPatternReachesHandler :
    let compiling : Calls Compilation := .registers .first 0 (.compile ['%'] .empty .first)
    let building (request : Request Pattern) : Calls Pattern :=
      .ask (.cached ['a'] []) fun _ => .registers .shared 1 request
    (compiling.run RuleBook.twoSigns.rule {}).1 = .error .reentrantCompilation ∧
      ((Calls.ask (.cached ['a'] []) fun _ => compiling).run RuleBook.twoSigns.rule {}).1.map Compilation.native =
        .ok ['a'] ∧
      ((building (.cached ['a'] [])).run RuleBook.twoSigns.rule {}).1.map Pattern.native = .ok ['a'] ∧
      ((building (.withFlags ['a'] [])).run RuleBook.twoSigns.rule {}).1.map Pattern.native = .ok ['x'] := by
  intro compiling building
  obtain ⟨p, events, cached, native⟩ := RuleBook.letterCached
  have behind {α : Type} (program : Calls α) : (Calls.ask (.cached ['a'] []) fun _ => program).run RuleBook.twoSigns.rule {} =
      program.run RuleBook.twoSigns.rule ⟨false, [((['a'], []), p)], events, []⟩ := by
    rw [RuleBook.runAsk, cached]
  refine ⟨rfl, ?_, ?_, ?_⟩
  · rw [behind, RuleBook.signCompiles, native]
    rfl
  · obtain ⟨more, shared⟩ := RuleBook.registersRun .twoSigns .shared 1 (.cached ['a'] []) [((['a'], []), p)] events
    have held : Session.cached? ⟨false, [((['a'], []), p)], more, [(.shared, .register 1), (.shared, .enable)]⟩ ['a'] [] =
      some p := rfl
    rw [behind, shared, RuleBook.cachedRuns held, Except.map, native]
  · obtain ⟨more, shared⟩ := RuleBook.registersRun .twoSigns .shared 1 (.withFlags ['a'] []) [((['a'], []), p)] events
    obtain ⟨others, first⟩ := RuleBook.registeredFirst .twoSigns .shared 1 [((['a'], []), p)] more
    have assembled : (Pattern.assemble ['a'] ['x'] .empty none {}).map Pattern.native = .ok ['x'] := by decide +kernel
    have built := RuleBook.letterRewritten others
      ⟨false, [((['a'], []), p)], more, [(.shared, .register 1), (.shared, .enable)]⟩ rfl
    rw [← first] at built
    rw [behind, shared, Request.run, RuleBook.unflagged, Request.builder, Pattern.withRulesOf, built]
    exact assembled

end ExtendedPattern
