import ExtendedPattern.Calls
import Mathlib.Data.List.Forall2

/-! Two runs side by side, from sessions that belong together. Where the rules of both do the same in
such sessions, they make the same compilation, and the sessions behind it belong together again. -/
namespace ExtendedPattern

abbrev Cache := List ((Text × Text) × Pattern)

abbrev Edits := List (RegistryName × RegistryEdit)

abbrev Bond := Cache × Edits → Cache × Edits → Prop

def Session.memory (s : Session) : Cache × Edits := (s.cache, s.edits)

namespace Bond

structure Holds (bond : Bond) (running : Bool) (s t : Session) : Prop where
  left : s.inRules = running
  right : t.inRules = running
  memory : bond s.memory t.memory

def Agree {β : Type} (bond : Bond) (running : Bool) (one other : Session → β × Session) : Prop :=
  ∀ s t, bond.Holds running s t → (one s).1 = (other t).1 ∧ bond.Holds running (one s).2 (other t).2

variable {α β : Type} {bond : Bond} {running : Bool}

theorem agreeExcept (result : Except Failure α) :
    bond.Agree running (Action.ofExcept result) (Action.ofExcept result) :=
  fun _ _ holds => ⟨rfl, holds⟩

theorem agreeReporting (result : Except Failure α) (events more : List Event) :
    bond.Agree running (Action.reporting result events) (Action.reporting result more) :=
  fun _ _ holds => ⟨rfl, holds.left, holds.right, holds.memory⟩

theorem agreeBind {first first' : Action α} {next next' : α → Action β} (agree : bond.Agree running first first')
    (continues : ∀ a, bond.Agree running (next a) (next' a)) :
    bond.Agree running (first >>= next) (first' >>= next') := by
  intro s t holds
  obtain ⟨same, kept⟩ := agree s t holds
  change (first.andThen next s).1 = (first'.andThen next' t).1 ∧
    bond.Holds running (first.andThen next s).2 (first'.andThen next' t).2
  unfold Action.andThen
  generalize first s = one at same kept ⊢
  generalize first' t = other at same kept ⊢
  obtain ⟨result, s⟩ := one
  obtain ⟨_, t⟩ := other
  cases same
  cases result with
  | error e => exact ⟨rfl, kept⟩
  | ok a => exact continues a s t kept

theorem chainAgrees (subject : Text) (links : List ChainLink) :
    bond.Agree running (matchChain subject links) (matchChain subject links) := by
  suffices goes : ∀ level values, bond.Agree running (chainFrom level values links) (chainFrom level values links) from
    goes 0 [subject]
  induction links with
  | nil => exact fun _ values => agreeExcept (.ok values)
  | cons link rest ih =>
    intro level values
    refine agreeBind (agreeExcept _) fun found => ?_
    refine agreeBind (agreeReporting (.ok ()) [_] [_]) fun _ => ?_
    split
    · exact agreeExcept (.ok [])
    · exact ih _ _

structure Rules (bond : Bond) (one other : TokenRule) : Prop where
  find : one.find = other.find
  applies : ∀ region context, bond.Agree true (one.applies region context) (other.applies region context)
  handle : ∀ m region context, bond.Agree true (one.handle m region context) (other.handle m region context)

inductive Alike {α : Type} (related : α → α → Prop) : Except Failure α → Except Failure α → Prop where
  | fail (e : Failure) : Alike related (.error e) (.error e)
  | done {a b : α} (belong : related a b) : Alike related (.ok a) (.ok b)

def Watches (bond : Bond) (w w' : Rewrite.Watch) : Prop := bond.Rules w.1 w'.1 ∧ w.2 = w'.2

structure Progresses (bond : Bond) (p p' : Rewrite.Progress) : Prop where
  watches : List.Forall₂ bond.Watches p.watches p'.watches
  region : p.region = p'.region
  context : p.context = p'.context
  segments : p.segments = p'.segments

end Bond

namespace Rewrite
variable {bond : Bond} {s t : Session}

theorem runRulesAgree {watches watches' : List Watch} (same : List.Forall₂ bond.Watches watches watches')
    (input : Text) (pos : Nat) (region : Region) (context : Context) (holds : bond.Holds true s t) :
    let one := runRules input pos region context watches s
    let other := runRules input pos region context watches' t
    one.1.1 = other.1.1 ∧ List.Forall₂ bond.Watches one.1.2 other.1.2 ∧ bond.Holds true one.2 other.2 := by
  induction same generalizing s t with
  | nil => exact ⟨rfl, .nil, holds⟩
  | @cons w w' others others' watched tail ih =>
    obtain ⟨rule, ahead⟩ := w
    obtain ⟨rule', ahead'⟩ := w'
    obtain ⟨rules, rfl⟩ : bond.Rules rule rule' ∧ ahead = ahead' := watched
    have refreshed : ahead.refresh rule' input pos = ahead.refresh rule input pos := by
      simp only [Lookahead.refresh, TokenRule.find?, rules.find]
    obtain ⟨takesPart, asked⟩ := rules.applies region context s t holds
    simp only [runRules, refreshed]
    generalize rule.applies region context s = one at takesPart asked ⊢
    generalize rule'.applies region context t = other at takesPart asked ⊢
    obtain ⟨takes, s⟩ := one
    obtain ⟨_, t⟩ := other
    cases takesPart
    obtain ⟨result, watches, passed⟩ := ih asked
    have pass (now : Lookahead) : List.Forall₂ bond.Watches ((rule, now) :: _) ((rule', now) :: _) :=
      .cons ⟨rules, rfl⟩ watches
    cases takes with
    | false => exact ⟨result, pass ahead, passed⟩
    | true =>
      simp only [if_true]
      cases ahead.refresh rule input pos with
      | error e => exact ⟨rfl, .cons ⟨rules, rfl⟩ tail, asked⟩
      | ok now =>
        cases now with
        | unsearched => exact ⟨result, pass .unsearched, passed⟩
        | exhausted => exact ⟨result, pass .exhausted, passed⟩
        | found m =>
          dsimp only
          by_cases here : m.start = pos
          · rw [if_pos here, if_pos here]
            have told : bond.Holds true
                { s with events := .tokenMatched rule.pattern m.text pos :: s.events }
                { t with events := .tokenMatched rule'.pattern m.text pos :: t.events } :=
              ⟨asked.left, asked.right, asked.memory⟩
            obtain ⟨answer, handled⟩ := rules.handle m region context _ _ told
            generalize rule.handle m region context _ = one at answer handled ⊢
            generalize rule'.handle m region context _ = other at answer handled ⊢
            obtain ⟨answer, s⟩ := one
            obtain ⟨_, t⟩ := other
            cases answer
            cases answer <;> exact ⟨rfl, .cons ⟨rules, rfl⟩ tail, handled⟩
          · rw [if_neg here, if_neg here]
            exact ⟨result, pass (.found m), passed⟩

theorem stepAgrees {p p' : Progress} (same : bond.Progresses p p') (input : Text) (c : Char) (rest : Text) (pos : Nat)
    (holds : bond.Holds false s t) :
    let one := step input c rest pos p s
    let other := step input c rest pos p' t
    Bond.Alike (fun a b => bond.Progresses a.1 b.1 ∧ a.2 = b.2) one.1 other.1 ∧ bond.Holds false one.2 other.2 := by
  obtain ⟨watches, region, context, segments⟩ := p
  obtain ⟨watches', region', context', segments'⟩ := p'
  obtain ⟨watched, rfl, rfl, rfl⟩ := same
  have entered : bond.Holds true { s with inRules := true } { t with inRules := true } := ⟨rfl, rfl, holds.memory⟩
  have ran := runRulesAgree watched input pos region context entered
  simp only [step, Session.whileInRules]
  generalize runRules input pos region context watches _ = one at ran ⊢
  generalize runRules input pos region context watches' _ = other at ran ⊢
  obtain ⟨⟨result, watches⟩, s⟩ := one
  obtain ⟨⟨_, watches'⟩, t⟩ := other
  obtain ⟨same, watched, inside⟩ := ran
  cases same
  have left : bond.Holds false { s with inRules := false } { t with inRules := false } := ⟨rfl, rfl, inside.memory⟩
  cases result with
  | error e => exact ⟨.fail e, left⟩
  | ok fired =>
    cases fired with
    | some fired => exact ⟨.done ⟨⟨watched, rfl, rfl, rfl⟩, rfl⟩, left⟩
    | none =>
      dsimp only
      cases NativeToken.length? region (c :: rest) with
      | some length => exact ⟨.done ⟨⟨watched, rfl, rfl, rfl⟩, rfl⟩, left⟩
      | none => exact ⟨.done ⟨⟨watched, rfl, rfl, rfl⟩, rfl⟩, left⟩

theorem scanAgrees (input rest : Text) (pos next : Nat) {p p' : Progress} (same : bond.Progresses p p')
    (holds : bond.Holds false s t) :
    let one := scan input rest pos next p s
    let other := scan input rest pos next p' t
    Bond.Alike bond.Progresses one.1 other.1 ∧ bond.Holds false one.2 other.2 := by
  induction rest generalizing pos next p p' s t with
  | nil => exact ⟨.done same, holds⟩
  | cons c rest ih =>
    simp only [scan]
    by_cases skip : pos < next
    · rw [if_pos skip, if_pos skip]
      exact ih _ _ same holds
    · rw [if_neg skip, if_neg skip]
      have stepped := stepAgrees same input c rest pos holds
      generalize step input c rest pos p s = one at stepped ⊢
      generalize step input c rest pos p' t = other at stepped ⊢
      obtain ⟨result, s⟩ := one
      obtain ⟨result', t⟩ := other
      obtain ⟨alike, after⟩ := stepped
      cases alike with
      | fail e => exact ⟨.fail e, after⟩
      | @done a b belong =>
        obtain ⟨p, next⟩ := a
        obtain ⟨p', next'⟩ := b
        obtain ⟨same, rfl⟩ := belong
        exact ih _ _ same after

end Rewrite

namespace Bond
variable {bond : Bond} {running : Bool}

theorem rewriteAgrees {rules rules' : List TokenRule} (same : List.Forall₂ bond.Rules rules rules') (pattern : Text)
    (flags : FlagSet) : bond.Agree running (rewrite rules pattern flags) (rewrite rules' pattern flags) := by
  intro s t holds
  unfold rewrite
  cases running with
  | true =>
    rw [if_pos holds.left, if_pos holds.right]
    exact ⟨rfl, holds⟩
  | false =>
    rw [if_neg (by simp [holds.left]), if_neg (by simp [holds.right])]
    have watched : List.Forall₂ bond.Watches (rules.map (·, .unsearched)) (rules'.map (·, .unsearched)) := by
      rw [List.forall₂_map_left_iff, List.forall₂_map_right_iff]
      exact same.imp fun _ _ rules => ⟨rules, rfl⟩
    have start : bond.Progresses { watches := rules.map (·, .unsearched), context := .start flags }
        { watches := rules'.map (·, .unsearched), context := .start flags } := ⟨watched, rfl, rfl, rfl⟩
    have scanned := Rewrite.scanAgrees pattern pattern 0 0 start holds
    dsimp only at scanned ⊢
    generalize Rewrite.scan pattern pattern 0 0 _ s = one at scanned ⊢
    generalize Rewrite.scan pattern pattern 0 0 _ t = other at scanned ⊢
    obtain ⟨result, s⟩ := one
    obtain ⟨result', t⟩ := other
    obtain ⟨alike, after⟩ := scanned
    cases alike with
    | fail e => exact ⟨rfl, after⟩
    | @done p p' same =>
      dsimp only
      rw [same.segments, same.context]
      exact ⟨rfl, after.left, after.right, after.memory⟩

theorem withRulesAgrees {rules rules' : List TokenRule} (same : List.Forall₂ bond.Rules rules rules') (source : Text)
    (flags : FlagSet) (limits : Engine.Limits) :
    bond.Agree running (Pattern.withRules rules source flags limits) (Pattern.withRules rules' source flags limits) :=
  agreeBind (rewriteAgrees same source flags) fun _ => agreeExcept _

def Builders (bond : Bond) (running : Bool) (build build' : Pattern.Builder) : Prop :=
  ∀ source flags, bond.Agree running (build source flags) (build' source flags)

variable {build build' : Pattern.Builder}

theorem withFlagsAgrees (same : bond.Builders running build build') (source letters : Text) :
    bond.Agree running (Pattern.withFlagsBy build source letters) (Pattern.withFlagsBy build' source letters) :=
  agreeBind (agreeExcept _) fun flags => same source flags

theorem balancedAgrees (same : bond.Builders running build build') (subject left right letters : Text)
    (options : BalancedOptions) :
    bond.Agree running (matchBalancedBy build subject left right letters options)
      (matchBalancedBy build' subject left right letters options) := by
  refine agreeBind (agreeExcept _) fun flags => ?_
  refine agreeBind (same left _) fun left => agreeBind (same right _) fun right => ?_
  dsimp only
  cases options.escape with
  | none => exact agreeBind (agreeExcept (.ok none)) fun escape => agreeReporting _ _ _
  | some letter =>
    refine agreeBind (agreeExcept _) fun p => ?_
    exact agreeBind (agreeExcept (.ok (some p))) fun escape => agreeReporting _ _ _

structure Silent (rule : TokenRule) : Prop where
  applies : ∀ region context s, rule.applies region context s = ((rule.applies region context {}).1, s)
  handle : ∀ m region context s, rule.handle m region context s = ((rule.handle m region context {}).1, s)

theorem Silent.rules {rule : TokenRule} (silent : Silent rule) : bond.Rules rule rule where
  find := rfl
  applies region context s t holds := by
    rw [silent.applies region context s, silent.applies region context t]
    exact ⟨rfl, holds⟩
  handle m region context s t holds := by
    rw [silent.handle m region context s, silent.handle m region context t]
    exact ⟨rfl, holds⟩

end Bond
end ExtendedPattern
