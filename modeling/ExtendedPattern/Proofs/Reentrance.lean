import ExtendedPattern.Proofs.LibraryCalls
import ExtendedPattern.Proofs.RegistryRuns
import ExtendedPattern.Proofs.StandardRules

/-! Calls from outside token rules. Registries hold the built-in rules, the one for names and those of the
rule book, so a call hangs on nothing but its registries and the cached patterns that rules ask for. -/
namespace ExtendedPattern

namespace Bond

theorem silentApplies {rule : TokenRule} (free : ∀ trigger ∈ rule.trigger, ∃ flag, trigger = BuiltinRules.onFlag flag)
    (region : Region) (context : Context) (s : Session) :
    rule.applies region context s = ((rule.applies region context {}).1, s) := by
  unfold TokenRule.applies
  cases rule.regions.has region with
  | false => rfl
  | true =>
    cases gate : rule.trigger with
    | none => rfl
    | some trigger =>
      obtain ⟨flag, rfl⟩ := free trigger gate
      rfl

theorem builtinsSilent : ∀ rule ∈ BuiltinRules.all, Silent rule := by
  have ungated {rule : TokenRule} (free : rule.trigger = none) :
      ∀ trigger ∈ rule.trigger, ∃ flag, trigger = BuiltinRules.onFlag flag := by simp [free]
  have gated {rule : TokenRule} {flag : Flag} (gate : rule.trigger = some (BuiltinRules.onFlag flag)) :
      ∀ trigger ∈ rule.trigger, ∃ flag, trigger = BuiltinRules.onFlag flag := by simp [gate]
  have modes (m : TokenMatch) (region : Region) (context : Context) (s : Session) :
      BuiltinRules.leadingModesRule.handle m region context s =
        ((BuiltinRules.leadingModesRule.handle m region context {}).1, s) := by
    dsimp only [BuiltinRules.leadingModesRule]
    split <;> rfl
  have named (m : TokenMatch) (region : Region) (context : Context) (s : Session) :
      BuiltinRules.namedOpenerRule.handle m region context s =
        ((BuiltinRules.namedOpenerRule.handle m region context {}).1, s) := by
    dsimp only [BuiltinRules.namedOpenerRule]
    split <;> rfl
  have plain (m : TokenMatch) (region : Region) (context : Context) (s : Session) :
      BuiltinRules.plainOpenerRule.handle m region context s =
        ((BuiltinRules.plainOpenerRule.handle m region context {}).1, s) := by
    dsimp only [BuiltinRules.plainOpenerRule]
    split <;> rfl
  simp only [BuiltinRules.all, List.forall_mem_cons]
  exact ⟨⟨silentApplies (ungated rfl), fun _ _ _ _ => rfl⟩, ⟨silentApplies (ungated rfl), fun _ _ _ _ => rfl⟩,
    ⟨silentApplies (ungated rfl), fun _ _ _ _ => rfl⟩, ⟨silentApplies (ungated rfl), modes⟩,
    ⟨silentApplies (ungated rfl), fun _ _ _ _ => rfl⟩, ⟨silentApplies (gated rfl), fun _ _ _ _ => rfl⟩,
    ⟨silentApplies (gated rfl), fun _ _ _ _ => rfl⟩, ⟨silentApplies (ungated rfl), named⟩,
    ⟨silentApplies (ungated rfl), plain⟩, by simp⟩

theorem namesHandle (names : UnicodeNames) (m : TokenMatch) (region : Region) (context : Context) (s : Session) :
    names.handle m region context s = ((names.handle m region context {}).1, s) := by
  unfold UnicodeNames.handle
  split
  · rfl
  · cases names.find? ((m.group? 3).getD []) <;> rfl

variable {rules : Nat → TokenRule} {name : RegistryName} {cache other : Cache} {base : Edits} {running : Bool}

theorem unicodeAgrees : Rules (Parallel cache other base) (Session.unicodeRule rules name) (Session.unicodeRule rules name) where
  find := rfl
  applies region context s t holds := by
    have free : ∀ trigger ∈ (Session.unicodeRule rules name).trigger, ∃ flag, trigger = BuiltinRules.onFlag flag := nofun
    rw [silentApplies free region context s, silentApplies free region context t]
    exact ⟨rfl, holds⟩
  handle m region context s t holds := by
    simp only [Session.unicodeRule]
    rw [holds.registries, namesHandle _ m region context s, namesHandle _ m region context t]
    exact ⟨rfl, holds⟩

end Bond

namespace Registry

theorem initialRegistrations (name : RegistryName) : ∀ entry ∈ name.initial.registrations,
    entry = .unicodeNames ∨ ∃ rule ∈ BuiltinRules.all, entry = .rule rule := by
  have builtins : ∀ entry ∈ Registry.builtins.registrations, ∃ rule ∈ BuiltinRules.all, entry = .rule rule := by
    intro entry mem
    rw [builtinRegistrations] at mem
    obtain ⟨rule, inside, rfl⟩ := List.mem_map.mp mem
    exact ⟨rule, inside, rfl⟩
  intro entry mem
  cases name with
  | shared =>
    rw [RegistryName.initial, globalRegistrations, List.mem_append] at mem
    exact mem.symm.imp List.mem_singleton.mp (builtins entry)
  | own n withBuiltins =>
    cases withBuiltins with
    | false => cases mem
    | true => exact .inr (builtins entry mem)

inductive Known (rules : Nat → TokenRule) : Registration → Prop where
  | unicodeNames : Known rules .unicodeNames
  | builtin {rule : TokenRule} (mem : rule ∈ BuiltinRules.all) : Known rules (.rule rule)
  | numbered (n : Nat) : Known rules (.rule (rules n))

variable {rules : Nat → TokenRule}

theorem effectKnown {r : Registry} (known : ∀ entry ∈ r.registrations, Known rules entry) (e : RegistryEdit) :
    ∀ entry ∈ ((e.call rules).effect r).registrations, Known rules entry := by
  have gains (acts : List UnicodeNames.Naming) : ∀ entry ∈ (r.gain acts).registrations, Known rules entry := by
    intro entry mem
    rcases List.mem_append.mp mem with mem | mem
    · exact known entry mem
    · split at mem
      · cases mem
      · rw [List.mem_singleton.mp mem]
        exact .unicodeNames
  cases e with
  | enable | disable => exact known
  | register n =>
    intro entry mem
    rcases List.mem_append.mp mem with mem | mem
    · exact known entry mem
    · rw [List.mem_singleton.mp mem]
      exact .numbered n
  | addNames | installCategories | installScripts | installBlocks | installAll => exact gains _

theorem editedKnown (rules : Nat → TokenRule) (name : RegistryName) (edits : Edits) :
    ∀ entry ∈ (edited rules name edits).registrations, Known rules entry := by
  induction edits with
  | nil =>
    intro entry mem
    rcases initialRegistrations name entry mem with rfl | ⟨rule, builtin, rfl⟩
    · exact .unicodeNames
    · exact .builtin builtin
  | cons first earlier ih =>
    obtain ⟨other, e⟩ := first
    unfold edited
    dsimp only
    split
    · obtain ⟨_, _, failed⟩ | ⟨_, _, changed⟩ := changeCases (e.call rules) (edited rules name earlier)
      · rw [failed]
        exact ih
      · rw [changed]
        exact effectKnown ih e
    · exact ih

end Registry

namespace Bond
variable {book : RuleBook} {name : RegistryName} {cache other : Cache} {base : Edits} {running : Bool}
variable {asked : Text × Text → Prop}

theorem rulesetAgrees (asks : book.AsksOnly asked) (agree : ∀ key, asked key → cache.lookup key = other.lookup key)
    (s : Session) : ∀ rule ∈ s.ruleset book.rule name, Rules (Parallel cache other base) rule rule := by
  intro rule mem
  obtain ⟨entry, inside, rfl⟩ := List.mem_map.mp mem
  have known := Registry.editedKnown book.rule name s.edits entry (List.mem_reverse.mp inside)
  cases known with
  | unicodeNames => exact unicodeAgrees
  | builtin builtin => exact (builtinsSilent _ builtin).rules
  | numbered n => exact bookAgrees asks agree n

theorem Holds.rulesets {rules : Nat → TokenRule} {s t : Session} (holds : Holds (Parallel cache other base) running s t) :
    s.ruleset rules name = t.ruleset rules name := by
  unfold Session.ruleset
  rw [holds.registries]

theorem compileAgrees (asks : book.AsksOnly asked) (agree : ∀ key, asked key → cache.lookup key = other.lookup key)
    (source : Text) (flags : FlagSet) :
    Agree (Parallel cache other base) running (fun s => rewrite (s.ruleset book.rule name) source flags s)
      (fun s => rewrite (s.ruleset book.rule name) source flags s) := by
  intro s t holds
  have same : List.Forall₂ (Rules (Parallel cache other base)) (t.ruleset book.rule name) (t.ruleset book.rule name) :=
    List.forall₂_same.mpr (rulesetAgrees asks agree t)
  simp only [holds.rulesets]
  exact rewriteAgrees same source flags s t holds

theorem builderAgrees (asks : book.AsksOnly asked) (agree : ∀ key, asked key → cache.lookup key = other.lookup key)
    (name : RegistryName) (limits : Engine.Limits) : Builders (Parallel cache other base) running (Request.builder book.rule name limits)
      (Request.builder book.rule name limits) := by
  intro source flags s t holds
  have same : List.Forall₂ (Rules (Parallel cache other base)) (t.ruleset book.rule name) (t.ruleset book.rule name) :=
    List.forall₂_same.mpr (rulesetAgrees asks agree t)
  unfold Request.builder
  rw [holds.rulesets]
  exact withRulesAgrees same source flags limits s t holds

theorem callAgrees {α : Type} (asks : book.AsksOnly asked)
    (agree : ∀ key, asked key → cache.lookup key = other.lookup key) (request : Request α) (uncached : request.asks = none) :
    Agree (Parallel cache other base) running (request.run book.rule) (request.run book.rule) := by
  cases request with
  | compile source flags name => exact compileAgrees asks agree source flags
  | withLimits source flags name limits => exact builderAgrees asks agree name limits source flags
  | withFlags source letters => exact withFlagsAgrees (builderAgrees asks agree .shared {}) source letters
  | cached source letters => cases uncached
  | matchBalanced subject left right letters options =>
    exact balancedAgrees (builderAgrees asks agree .shared {}) subject left right letters options
  | matchChain subject links => exact chainAgrees subject links
  | edit name e => exact changeAgrees e
  | view name => exact lookAgrees
  | report events => exact agreeReporting (.ok ()) events events

structure Recall (asked : Text × Text → Prop) (a b : Cache × Edits) : Prop where
  lookups : ∀ key, asked key → a.1.lookup key = b.1.lookup key
  edits : a.2 = b.2

theorem Holds.parallel {s t : Session} (holds : Holds (Recall asked) running s t) :
    Holds (Parallel s.cache t.cache s.edits) running s t :=
  ⟨holds.left, holds.right, rfl, rfl, holds.memory.edits, List.suffix_refl _⟩

theorem cachedAgrees (asks : book.AsksOnly asked) {source letters : Text} (mem : asked (source, letters)) :
    Agree (Recall asked) false ((Request.cached source letters).run book.rule)
      ((Request.cached source letters).run book.rule) := by
  intro s t holds
  have found : s.cached? source letters = t.cached? source letters := holds.memory.lookups _ mem
  have built := withFlagsAgrees (builderAgrees asks holds.memory.lookups .shared {}) source letters s t holds.parallel
  simp only [Request.run, Pattern.cachedBy, found]
  cases t.cached? source letters with
  | some p => exact ⟨rfl, holds⟩
  | none =>
    dsimp only
    generalize Pattern.withFlagsBy _ source letters s = one at built ⊢
    generalize Pattern.withFlagsBy _ source letters t = other at built ⊢
    obtain ⟨result, s'⟩ := one
    obtain ⟨_, t'⟩ := other
    obtain ⟨same, kept⟩ := built
    cases same
    have cache : s'.cache = s.cache := kept.memory.cache
    have other : t'.cache = t.cache := kept.memory.other
    cases result with
    | error e =>
      refine ⟨rfl, kept.left, kept.right, fun key asked => ?_, kept.memory.edits⟩
      simpa only [Session.memory, cache, other] using holds.memory.lookups key asked
    | ok p =>
      refine ⟨rfl, kept.left, kept.right, fun key asked => ?_, kept.memory.edits⟩
      have later := holds.memory.lookups key asked
      simp only [Session.memory, cache, other] at later ⊢
      rw [List.lookup_cons, List.lookup_cons, later]

theorem requestAgrees {α : Type} (asks : book.AsksOnly asked) (request : Request α) (mem : ∀ key ∈ request.asks, asked key) :
    Agree (Recall asked) false (request.run book.rule) (request.run book.rule) := by
  by_cases uncached : request.asks = none
  · intro s t holds
    obtain ⟨same, kept⟩ := callAgrees asks holds.memory.lookups request uncached s t holds.parallel
    refine ⟨same, kept.left, kept.right, fun key asked => ?_, kept.memory.edits⟩
    rw [kept.memory.cache, kept.memory.other]
    exact holds.memory.lookups key asked
  · cases request with
    | cached source letters => exact cachedAgrees asks (mem _ rfl)
    | _ => exact absurd rfl uncached

end Bond

namespace Bond

def Keeping (edits : Edits) : Bond := fun a _ => a.2 = edits

variable {rules : Nat → TokenRule} {running : Bool} {edits : Edits}

theorem uneditedRegistry (unedited : ∀ e ∈ edits, e.1 ≠ .shared) : Registry.edited rules .shared edits = .global := by
  induction edits with
  | nil => rfl
  | cons first earlier ih =>
    obtain ⟨head, tail⟩ := List.forall_mem_cons.mp unedited
    rw [Registry.edited, if_neg head, ih tail]

theorem uneditedUnicode (unedited : ∀ e ∈ edits, e.1 ≠ .shared) {names : UnicodeNames}
    (same : names = Registry.names .global) :
    Rules (Keeping edits) (Session.unicodeRule rules .shared) names.rule where
  find := rfl
  applies region context s t holds := by
    rw [LocalRule.ungated rfl, LocalRule.ungated rfl]
    exact ⟨rfl, holds⟩
  handle m region context s t holds := by
    have held : s.edits = edits := holds.memory
    have known : s.registry rules .shared = .global := uneditedRegistry (held ▸ unedited)
    have left : (Session.unicodeRule rules .shared).handle m region context s =
        (s.registry rules .shared).names.handle m region context s := rfl
    have right : names.rule.handle m region context t = names.handle m region context t := rfl
    rw [left, right, known, ← same, namesHandle _ m region context s, namesHandle _ m region context t]
    exact ⟨rfl, holds⟩

theorem uneditedRuleset (unedited : ∀ e ∈ edits, e.1 ≠ .shared) {s : Session} (held : s.edits = edits) :
    List.Forall₂ (Rules (Keeping edits)) (s.ruleset rules .shared) (Registry.rules .global) := by
  unfold Session.ruleset Session.registry Registry.rules
  rw [held, uneditedRegistry unedited, List.forall₂_map_left_iff, List.forall₂_map_right_iff, List.forall₂_same]
  intro entry mem
  rcases Registry.initialRegistrations .shared entry (List.mem_reverse.mp mem) with rfl | ⟨rule, builtin, rfl⟩
  · exact uneditedUnicode unedited rfl
  · exact (builtinsSilent rule builtin).rules

theorem uneditedBuilders (rules : Nat → TokenRule) (unedited : ∀ e ∈ edits, e.1 ≠ .shared) :
    Builders (Keeping edits) running (Request.builder rules .shared {}) Pattern.byGlobal :=
  fun source flags s t holds => withRulesAgrees (uneditedRuleset unedited holds.memory) source flags {} s t holds

end Bond
end ExtendedPattern
