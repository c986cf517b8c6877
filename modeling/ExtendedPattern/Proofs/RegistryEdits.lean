import ExtendedPattern.RegistryCall
import ExtendedPattern.Proofs.GlobalRegistry

/-! How calls work on a registry in place: rules, names and the enabled state are
written at different moments of one call, and what is written before a failure stays. None fails
once it has written anything, so in place a call does what it does as a change of values. -/
namespace ExtendedPattern
namespace UnicodeNames

namespace Package

def categories : Package :=
  ⟨Unicode.categories.texts, Unicode.categoryAliases.map fun (known, new) => (known.toList, new.toList)⟩

def scripts : Package := ⟨Unicode.scripts.texts, []⟩

def blocks : Package := ⟨Unicode.blocks.texts, []⟩

def bundled : List Package := [categories, scripts, blocks]

def Parses (p : Package) : Prop := ∃ parsed, parseMapping p.mapping = .ok parsed

theorem bundledParses {p : Package} (bundle : p ∈ bundled) : p.Parses := by
  obtain ⟨inCategories, inScripts, inBlocks⟩ := Unicode.bundledReadable
  simp only [bundled, List.mem_cons, List.not_mem_nil, or_false] at bundle
  rcases bundle with rfl | rfl | rfl
  · exact mappingParses inCategories
  · exact mappingParses inScripts
  · exact mappingParses inBlocks

end Package
end UnicodeNames

namespace Registry
open UnicodeNames (Package)

structure Desk where
  registry : Registry
  events : List Event := []

abbrev InPlace := ExceptT Failure (StateM Desk)

namespace InPlace

variable {α β : Type}

def on (work : InPlace α) (d : Desk) : Except Failure α × Desk := work.run.run d

theorem onBind (work : InPlace α) (next : α → InPlace β) (d : Desk) :
    (work >>= next).on d = match work.on d with
      | (.ok a, d) => (next a).on d
      | (.error e, d) => (.error e, d) := by
  simp only [on, ExceptT.run_bind, StateT.run_bind]
  rcases StateT.run (ExceptT.run work) d with ⟨_ | _, _⟩ <;> rfl

theorem onPure (a : α) (d : Desk) : (pure a : InPlace α).on d = (.ok a, d) := rfl

theorem onExcept (result : Except Failure α) (d : Desk) :
    (MonadExcept.ofExcept result : InPlace α).on d = (result, d) := by
  cases result <;> rfl

def registry : InPlace Registry := do return (← get).registry

def write (change : Registry → Registry) : InPlace Unit :=
  modify fun d => { d with registry := change d.registry }

def report (e : Event) : InPlace Unit := modify fun d => { d with events := d.events ++ [e] }

def settle (work : InPlace α) : InPlace (Except Failure α) := ExceptT.lift work.run

theorem onRegistry (d : Desk) : registry.on d = (.ok d.registry, d) := rfl

theorem onWrite (change : Registry → Registry) (d : Desk) :
    (write change).on d = (.ok (), ⟨change d.registry, d.events⟩) := rfl

theorem onReport (e : Event) (d : Desk) : (report e).on d = (.ok (), ⟨d.registry, d.events ++ [e]⟩) := rfl

theorem onSettle (work : InPlace α) (d : Desk) :
    (settle work).on d = (.ok (work.on d).1, (work.on d).2) := rfl

/-! The calls, step by step. -/

def setEnabled (enabled : Bool) : InPlace Unit := do
  write fun r => { r with enabled }
  report (if enabled then .extensibilityEnabled else .extensibilityDisabled)

def checkEnabled : InPlace Unit := do
  unless (← registry).enabled do throw .extensibilityDisabled

def register (entry : Registration) (pattern : Text) : InPlace Unit := do
  checkEnabled
  report (.ruleRegistered pattern)
  write (·.append entry)

def define (name : Text) (s : CodePointSet) : InPlace Unit :=
  write fun r => { r with names := r.names.define name s }

def defineAll : List (Text × CodePointSet) → InPlace Unit
  | [] => pure ()
  | (name, s) :: rest => do
    define name s
    defineAll rest

def pointAliases : List (Text × Text) → InPlace Unit
  | [] => pure ()
  | (known, new) :: rest => do
    match (← registry).names.find? known with
    | some s => define new s
    | none => report (.aliasOfUnknown new known)
    pointAliases rest

def installRule : InPlace Unit := do
  unless (← registry).hasUnicodeRule do
    register .unicodeNames (UnicodeNames.rule .empty).pattern
    write fun r => { r with hasUnicodeRule := true }

def addNames (p : Package) : InPlace Unit := do
  checkEnabled
  let parsed ← MonadExcept.ofExcept (UnicodeNames.parseMapping p.mapping)
  defineAll parsed
  pointAliases p.aliases
  installRule
  report (.namesRegistered p.mapping.length p.aliases.length)

def whileEnabled (work : InPlace Unit) : InPlace Unit := do
  let before ← registry
  unless before.enabled do setEnabled true
  let result ← settle work
  unless before.enabled do setEnabled false
  MonadExcept.ofExcept result

def install (p : Package) : InPlace Unit := whileEnabled (addNames p)

end InPlace

def Call.perform : Call → InPlace Unit
  | enable => .setEnabled true
  | disable => .setEnabled false
  | register rule => .register (.rule rule) rule.pattern
  | addNames p => .addNames p
  | installCategories => .install .categories
  | installScripts => .install .scripts
  | installBlocks => .install .blocks
  | installAll => do
    InPlace.install .categories
    InPlace.install .scripts
    InPlace.install .blocks

def Desk.take (d : Desk) : Change → Except Failure Unit × Desk
  | .ok (r, events) => (.ok (), ⟨r, d.events ++ events⟩)
  | .error e => (.error e, d)

namespace InPlace

theorem onEnabled (enabled : Bool) (d : Desk) : (setEnabled enabled).on d = (.ok (),
    ⟨{ d.registry with enabled },
      d.events ++ [if enabled then .extensibilityEnabled else .extensibilityDisabled]⟩) := rfl

theorem onCheck (d : Desk) : checkEnabled.on d =
    if d.registry.enabled then (.ok (), d) else (.error .extensibilityDisabled, d) := by
  simp only [checkEnabled, onBind, onRegistry]
  cases d.registry.enabled <;> rfl

theorem onRegister (rule : TokenRule) (d : Desk) :
    (register (.rule rule) rule.pattern).on d = d.take (d.registry.register rule) := by
  simp only [register, onBind, onCheck, Registry.register]
  cases d.registry.enabled <;> rfl

theorem onDefineAll (parsed : List (Text × CodePointSet)) (d : Desk) :
    (defineAll parsed).on d = (.ok (), ⟨{ d.registry with
      names := parsed.foldl (fun names (name, s) => names.define name s) d.registry.names },
      d.events⟩) := by
  induction parsed generalizing d with
  | nil => rfl
  | cons first rest ih => simp only [defineAll, define, onBind, onWrite, ih, List.foldl_cons]

theorem onPointAliases (aliases : List (Text × Text)) (d : Desk) :
    (pointAliases aliases).on d = (.ok (), ⟨{ d.registry with
      names := (d.registry.names.addAliases aliases).1 },
      d.events ++ (d.registry.names.addAliases aliases).2⟩) := by
  induction aliases generalizing d with
  | nil => simp [pointAliases, onPure, UnicodeNames.addAliases]
  | cons first rest ih =>
    obtain ⟨known, new⟩ := first
    simp only [pointAliases, onBind, onRegistry, UnicodeNames.addAliases, UnicodeNames.addAlias]
    cases d.registry.names.find? known with
    | none => simp [onBind, onReport, ih]
    | some s => simp [define, onBind, onWrite, ih]

theorem onInstallRule {d : Desk} (takes : d.registry.enabled = true) : installRule.on d = (.ok (),
    ⟨d.registry.addUnicodeRule.1, d.events ++ d.registry.addUnicodeRule.2⟩) := by
  simp only [installRule, onBind, onRegistry, addUnicodeRule]
  cases d.registry.hasUnicodeRule with
  | true => simp [onPure]
  | false => simp [register, onBind, onCheck, onReport, onWrite, takes]

theorem onAddNames (p : Package) (d : Desk) :
    (addNames p).on d = d.take (d.registry.addPackage p) := by
  simp only [addNames, onBind, onCheck, addPackage, addUnicodeNames, UnicodeNames.add]
  obtain ⟨⟨registrations, enabled, names, hasRule⟩, earlier⟩ := d
  cases enabled with
  | false => rfl
  | true =>
    simp only [if_true, onExcept]
    cases UnicodeNames.parseMapping p.mapping with
    | error e => rfl
    | ok parsed =>
      simp only [onDefineAll, onPointAliases, bind, Except.bind]
      rw [onInstallRule rfl]
      simp [onReport, Desk.take]

theorem onWhileEnabled {work : InPlace Unit} {change : Registry → Change}
    (same : ∀ d, work.on d = d.take (change d.registry)) {d : Desk}
    (succeeds : ∃ done, change { d.registry with enabled := true } = .ok done) :
    (whileEnabled work).on d = d.take (d.registry.whileEnabled change) := by
  obtain ⟨⟨after, events⟩, changed⟩ := succeeds
  obtain ⟨⟨registrations, enabled, names, hasRule⟩, earlier⟩ := d
  simp only [whileEnabled, onBind, onRegistry, Registry.whileEnabled, Registry.enable]
  cases enabled with
  | true => simp [onBind, onSettle, onExcept, same, changed, Desk.take]
  | false =>
    simp only [Bool.false_eq_true, if_true, if_false, onBind, onEnabled, onSettle,
      onExcept, same, changed, Desk.take, Registry.disable]
    simp [bind, Except.bind]

end InPlace

theorem addsParsed {p : Package} (parses : p.Parses) {r : Registry} (takes : r.enabled = true) :
    ∃ done, r.addPackage p = .ok done := by
  obtain ⟨parsed, parses⟩ := parses
  simp only [addPackage, addUnicodeNames, UnicodeNames.add, takes, parses, bind, Except.bind, if_true]
  exact ⟨_, rfl⟩

theorem InPlace.onInstall {p : Package} (parses : p.Parses) (d : Desk) :
    (install p).on d = d.take (d.registry.whileEnabled (addPackage p)) :=
  onWhileEnabled (onAddNames p) (addsParsed parses rfl)

theorem installsParsed {p : Package} (parses : p.Parses) (r : Registry) :
    ∃ done, r.whileEnabled (addPackage p) = .ok done := by
  unfold whileEnabled
  split
  · exact addsParsed parses ‹_›
  · obtain ⟨done, added⟩ := addsParsed parses (r := r.enable.1) rfl
    simp [added, bind, Except.bind]

theorem Call.performsChange (call : Call) (d : Desk) :
    call.perform.on d = d.take (call.change d.registry) := by
  have install {p : Package} (bundle : p ∈ Package.bundled) (d : Desk) :=
    InPlace.onInstall (Package.bundledParses bundle) d
  cases call with
  | enable => rfl
  | disable => rfl
  | register rule => exact InPlace.onRegister rule d
  | addNames p => exact InPlace.onAddNames p d
  | installCategories => exact install (.head _) d
  | installScripts => exact install (.tail _ (.head _)) d
  | installBlocks => exact install (.tail _ (.tail _ (.head _))) d
  | installAll =>
    obtain ⟨⟨a, e₁⟩, first⟩ :=
      installsParsed (Package.bundledParses (.head _)) d.registry
    obtain ⟨⟨b, e₂⟩, second⟩ :=
      installsParsed (Package.bundledParses (.tail _ (.head _))) a
    obtain ⟨⟨c, e₃⟩, third⟩ :=
      installsParsed (Package.bundledParses (.tail _ (.tail _ (.head _)))) b
    have all : d.registry.installAll = .ok (c, e₁ ++ e₂ ++ e₃) := by
      change (d.registry.whileEnabled (addPackage .categories) >>= fun a =>
        a.1.whileEnabled (addPackage .scripts) >>= fun b =>
        b.1.whileEnabled (addPackage .blocks) >>= fun c => .ok (c.1, a.2 ++ b.2 ++ c.2)) = _
      simp only [first, second, third, bind, Except.bind]
    simp only [perform, change, all, InPlace.onBind]
    rw [install (.head _), first]
    simp only [Desk.take]
    rw [install (.tail _ (.head _)), second]
    simp only [Desk.take]
    rw [install (.tail _ (.tail _ (.head _))), third]
    simp [Desk.take]

end Registry
end ExtendedPattern
