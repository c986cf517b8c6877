import ExtendedPattern.Proofs.RegistryEdits
import Mathlib.Data.List.Basic
import Mathlib.Data.List.Induction

/-! Runs of calls on one registry, in any order. Rules and names are only added, the rule for
Unicode tokens once, and a name has the data that it was given last. -/
namespace ExtendedPattern
namespace UnicodeNames

inductive Naming where
  | mapping (name data : Text)
  | aliasOf (known new : Text)

namespace Naming

def gives (names : UnicodeNames) (name : Text) : Naming → Option CodePointSet
  | mapping new data =>
    if slug new = slug name then (CodePointSet.items? data).map CodePointSet.ofRanges else none
  | aliasOf known new => if slug new = slug name then names.find? known else none

def apply (names : UnicodeNames) : Naming → UnicodeNames
  | mapping name data =>
    match CodePointSet.items? data with
    | some items => names.define name (.ofRanges items)
    | none => names
  | aliasOf known new => (names.addAlias known new).1

end Naming

def after (names : UnicodeNames) (acts : List Naming) : UnicodeNames := acts.foldl Naming.apply names

def Package.namings (p : Package) : List Naming :=
  p.mapping.map (fun (name, data) => .mapping name data) ++
    p.aliases.map fun (known, new) => .aliasOf known new

def LastGiven (acts : List Naming) (name : Text) (s : CodePointSet) : Prop :=
  ∃ before act later, acts = before ++ act :: later ∧ act.gives (empty.after before) name = some s ∧
    ∀ passed other rest, later = passed ++ other :: rest →
      other.gives (empty.after (before ++ act :: passed)) name = none

theorem afterAppend (names : UnicodeNames) (front back : List Naming) :
    names.after (front ++ back) = (names.after front).after back := List.foldl_append

theorem defineFind (names : UnicodeNames) (new name : Text) (s : CodePointSet) :
    (names.define new s).find? name = if slug new = slug name then some s else names.find? name := by
  simp only [define, find?, List.lookup_cons]
  by_cases same : slug new = slug name
  · simp [same]
  · have other : (slug name == slug new) = false := by simpa using Ne.symm same
    simp [same, other]

theorem applyFind (names : UnicodeNames) (act : Naming) (name : Text) :
    (act.apply names).find? name = (act.gives names name).or (names.find? name) := by
  cases act with
  | mapping new data =>
    cases read : CodePointSet.items? data with
    | none => simp [Naming.apply, Naming.gives, read]
    | some items =>
      simp only [Naming.apply, Naming.gives, read, defineFind, Option.map_some]
      split <;> rfl
  | aliasOf known new =>
    cases target : names.find? known with
    | none => simp [Naming.apply, Naming.gives, addAlias, target]
    | some s =>
      simp only [Naming.apply, Naming.gives, addAlias, target, defineFind]
      split <;> rfl

theorem lastGivenAppend {acts : List Naming} {act : Naming} {name : Text} {s : CodePointSet} :
    LastGiven (acts ++ [act]) name s ↔ act.gives (empty.after acts) name = some s ∨
      act.gives (empty.after acts) name = none ∧ LastGiven acts name s := by
  constructor
  · rintro ⟨before, chosen, later, parts, given, silent⟩
    rcases List.eq_nil_or_concat' later with rfl | ⟨passed, last, rfl⟩
    · obtain ⟨rfl, same⟩ := List.append_inj' parts rfl
      cases same
      exact .inl given
    · have parts : acts ++ [act] = (before ++ chosen :: passed) ++ [last] := by simp [parts]
      obtain ⟨rfl, same⟩ := List.append_inj' parts rfl
      cases same
      refine .inr ⟨silent passed act [] rfl, before, chosen, passed, rfl, given, ?_⟩
      rintro front other rest rfl
      exact silent front other (rest ++ [act]) (by simp)
  · rintro (given | ⟨none, before, chosen, later, rfl, given, silent⟩)
    · exact ⟨acts, act, [], rfl, given, by simp⟩
    · refine ⟨before, chosen, later ++ [act], by simp, given, ?_⟩
      intro passed other rest parts
      rcases List.eq_nil_or_concat' rest with rfl | ⟨rest, last, rfl⟩
      · obtain ⟨rfl, same⟩ := List.append_inj' parts rfl
        cases same
        exact none
      · have parts : later ++ [act] = (passed ++ other :: rest) ++ [last] := by simp [parts]
        exact silent passed other rest (List.append_inj' parts rfl).1

theorem afterFind (acts : List Naming) (name : Text) (s : CodePointSet) :
    (empty.after acts).find? name = some s ↔ LastGiven acts name s := by
  induction acts using List.reverseRecOn with
  | nil =>
    refine ⟨nofun, ?_⟩
    rintro ⟨before, act, later, parts, _⟩
    simp at parts
  | append_singleton acts act ih =>
    rw [lastGivenAppend, afterAppend]
    change (act.apply (empty.after acts)).find? name = some s ↔ _
    rw [applyFind, ← ih]
    cases act.gives (empty.after acts) name <;> simp

theorem afterKeeps (acts : List Naming) {names : UnicodeNames} {name : Text}
    (known : (names.find? name).isSome) : ((names.after acts).find? name).isSome := by
  induction acts generalizing names with
  | nil => exact known
  | cons act rest ih =>
    refine ih ?_
    rw [applyFind, Option.isSome_or, known, Bool.or_true]

def Package.Unreadable (p : Package) (e : Failure) : Prop :=
  ∃ read bad rest, p.mapping = read ++ bad :: rest ∧
    (∀ entry ∈ read, (CodePointSet.items? entry.2).isSome) ∧ CodePointSet.items? bad.2 = none ∧
    e = .malformedToken ("bad code point data: ".toList ++ Quoted.ofText bad.2)

theorem mappingFails {mapping : List (Text × Text)} {e : Failure} :
    parseMapping mapping = .error e ↔ Package.Unreadable ⟨mapping, []⟩ e := by
  induction mapping with
  | nil => simp [parseMapping, Package.Unreadable]
  | cons entry rest ih =>
    simp only [parseMapping, bind, Except.bind, CodePointSet.parse]
    cases items : CodePointSet.items? entry.2 with
    | none =>
      constructor
      · rintro ⟨⟩
        exact ⟨[], entry, rest, rfl, by simp, items, rfl⟩
      · rintro ⟨_ | ⟨first, read⟩, bad, later, parts, good, _, rfl⟩
        · cases parts
          rfl
        · cases parts
          simpa [items] using good entry (by simp)
    | some rs =>
      have step : Package.Unreadable ⟨entry :: rest, []⟩ e ↔ Package.Unreadable ⟨rest, []⟩ e := by
        constructor
        · rintro ⟨_ | ⟨first, read⟩, bad, later, parts, good, none, same⟩
          · cases parts
            simp [items] at none
          · cases parts
            exact ⟨read, bad, later, rfl, fun x inside => good x (by simp [inside]), none, same⟩
        · rintro ⟨read, bad, later, parts, good, none, same⟩
          refine ⟨entry :: read, bad, later, congrArg (entry :: ·) parts, ?_, none, same⟩
          simpa [items] using good
      rw [step, ← ih]
      cases parseMapping rest <;> simp

theorem mappingReads {entry : Text × Text} {rest : List (Text × Text)} {parsed : List (Text × CodePointSet)}
    (parses : parseMapping (entry :: rest) = .ok parsed) : ∃ items more, CodePointSet.items? entry.2 = some items ∧
      parseMapping rest = .ok more ∧ parsed = (entry.1, CodePointSet.ofRanges items) :: more := by
  obtain ⟨set, read, goesOn⟩ := bindOk parses
  obtain ⟨more, others, same⟩ := bindOk goesOn
  rw [CodePointSet.parse] at read
  split at read <;> cases read
  rename_i items listed
  exact ⟨items, more, listed, others, (Except.ok.inj same).symm⟩

theorem mappingDefines {mapping : List (Text × Text)} {parsed : List (Text × CodePointSet)}
    (parses : parseMapping mapping = .ok parsed) (names : UnicodeNames) :
    parsed.foldl (fun names (name, s) => names.define name s) names =
      names.after (mapping.map fun (name, data) => .mapping name data) := by
  induction mapping generalizing parsed names with
  | nil =>
    cases parses
    rfl
  | cons entry rest ih =>
    obtain ⟨items, more, listed, others, rfl⟩ := mappingReads parses
    rw [List.foldl_cons, ih others]
    simp [after, Naming.apply, listed]

theorem aliasesDefine (aliases : List (Text × Text)) (names : UnicodeNames) :
    (names.addAliases aliases).1 = names.after (aliases.map fun (known, new) => .aliasOf known new) := by
  induction aliases generalizing names with
  | nil => rfl
  | cons first rest ih => exact ih _

end UnicodeNames

def Registration.isUnicodeNames : Registration → Bool
  | .unicodeNames => true
  | .rule _ => false

namespace Registry
open UnicodeNames (Package Naming LastGiven)

def gain (r : Registry) (acts : List Naming) : Registry :=
  { r with
    names := r.names.after acts
    hasUnicodeRule := true
    registrations := r.registrations ++ if r.hasUnicodeRule then [] else [.unicodeNames] }

namespace Call

def packages : Call → List Package
  | addNames p => [p]
  | installCategories => [.categories]
  | installScripts => [.scripts]
  | installBlocks => [.blocks]
  | installAll => Package.bundled
  | _ => []

def namings (call : Call) : List Naming := call.packages.flatMap Package.namings

def bringsNames (call : Call) : Bool := !call.packages.isEmpty

def enabledAfter (before : Bool) : Call → Bool
  | enable => true
  | disable => false
  | _ => before

def effect (r : Registry) : Call → Registry
  | enable => { r with enabled := true }
  | disable => { r with enabled := false }
  | register rule => r.append (.rule rule)
  | call => r.gain call.namings

def Refused (r : Registry) (e : Failure) : Call → Prop
  | register _ => r.enabled = false ∧ e = .extensibilityDisabled
  | addNames p => if r.enabled then p.Unreadable e else e = .extensibilityDisabled
  | _ => False

def additions (history : List Call) : Call → List Registration
  | register rule => [.rule rule]
  | call => if call.bringsNames && !history.any bringsNames then [.unicodeNames] else []

end Call

theorem addPackageCases (p : Package) (r : Registry) :
    (∃ e, Call.Refused r e (.addNames p) ∧ r.addPackage p = .error e) ∨
      (∀ e, ¬ Call.Refused r e (.addNames p)) ∧
        ∃ events, r.addPackage p = .ok (r.gain p.namings, events) := by
  simp only [addPackage, addUnicodeNames, UnicodeNames.add, Call.Refused]
  obtain ⟨registrations, enabled, names, hasRule⟩ := r
  cases enabled with
  | false => exact .inl ⟨_, rfl, rfl⟩
  | true =>
    cases parses : UnicodeNames.parseMapping p.mapping with
    | error e => exact .inl ⟨e, UnicodeNames.mappingFails.mp parses, rfl⟩
    | ok parsed =>
      refine .inr ⟨fun e bad => ?_, ?_⟩
      · cases (UnicodeNames.mappingFails.mpr bad).symm.trans parses
      · have table := UnicodeNames.mappingDefines parses names
        simp only [bind, Except.bind, if_true, table, UnicodeNames.aliasesDefine, ← UnicodeNames.afterAppend]
        cases hasRule <;> exact ⟨_, by simp [addUnicodeRule, gain, append, Package.namings]; rfl⟩

theorem whileEnabledGains {p : Package} (parses : p.Parses) (r : Registry) :
    ∃ events, r.whileEnabled (addPackage p) = .ok (r.gain p.namings, events) := by
  have taken {r : Registry} (takes : r.enabled = true) :
      ∃ events, r.addPackage p = .ok (r.gain p.namings, events) := by
    obtain ⟨e, _, failed⟩ | ⟨_, done⟩ := addPackageCases p r
    · obtain ⟨_, added⟩ := addsParsed parses takes
      cases failed.symm.trans added
    · exact done
  obtain ⟨registrations, enabled, names, hasRule⟩ := r
  cases enabled with
  | true => exact taken (r := ⟨registrations, true, names, hasRule⟩) rfl
  | false =>
    obtain ⟨events, added⟩ := taken (r := ⟨registrations, true, names, hasRule⟩) rfl
    simp only [whileEnabled, enable, added, bind, Except.bind]
    exact ⟨_, rfl⟩

theorem gainTwice (r : Registry) (front back : List Naming) :
    (r.gain front).gain back = r.gain (front ++ back) := by
  simp [gain, UnicodeNames.afterAppend]

theorem installAllGains (r : Registry) :
    ∃ events, r.installAll = .ok (r.gain Call.installAll.namings, events) := by
  have gains {p : Package} (bundle : p ∈ Package.bundled) (r : Registry) :=
    whileEnabledGains (Package.bundledParses bundle) r
  obtain ⟨first, categories⟩ := gains (.head _) r
  obtain ⟨second, scripts⟩ := gains (.tail _ (.head _)) (r.gain Package.categories.namings)
  obtain ⟨third, blocks⟩ := gains (.tail _ (.tail _ (.head _)))
    (r.gain (Package.categories.namings ++ Package.scripts.namings))
  refine ⟨first ++ second ++ third, ?_⟩
  change (r.whileEnabled (addPackage .categories) >>= fun a => a.1.whileEnabled (addPackage .scripts) >>= fun b =>
    b.1.whileEnabled (addPackage .blocks) >>= fun c => .ok (c.1, a.2 ++ b.2 ++ c.2)) = _
  simp only [categories, scripts, blocks, bind, Except.bind, gainTwice]
  simp [Call.namings, Call.packages, Package.bundled]

theorem changeCases (call : Call) (r : Registry) :
    (∃ e, call.Refused r e ∧ call.change r = .error e) ∨
      (∀ e, ¬ call.Refused r e) ∧ ∃ events, call.change r = .ok (call.effect r, events) := by
  have gains {p : Package} (bundle : p ∈ Package.bundled) :
      ∃ events, r.whileEnabled (addPackage p) = .ok (r.gain ([p].flatMap Package.namings), events) := by
    simpa using whileEnabledGains (Package.bundledParses bundle) r
  cases call with
  | enable | disable => exact .inr ⟨fun _ => id, _, rfl⟩
  | register rule =>
    cases takes : r.enabled with
    | false => exact .inl ⟨_, ⟨takes, rfl⟩, by simp [Call.change, Registry.register, takes]⟩
    | true =>
      exact .inr ⟨fun e refused => by simp [Call.Refused, takes] at refused, _,
        by simp [Call.change, Registry.register, takes, Call.effect]; rfl⟩
  | addNames p => simpa [Call.change, Call.effect, Call.namings, Call.packages] using addPackageCases p r
  | installCategories => exact .inr ⟨fun _ => id, gains (p := .categories) (.head _)⟩
  | installScripts => exact .inr ⟨fun _ => id, gains (p := .scripts) (.tail _ (.head _))⟩
  | installBlocks => exact .inr ⟨fun _ => id, gains (p := .blocks) (.tail _ (.tail _ (.head _)))⟩
  | installAll => exact .inr ⟨fun _ => id, installAllGains r⟩

/-! Runs: a call that is turned down does not end them. -/

def Desk.after (d : Desk) (calls : List Call) : Desk :=
  calls.foldl (fun d call => (call.perform.on d).2) d

def Desk.accepted (d : Desk) : List Call → List Call
  | [] => []
  | call :: rest =>
    match call.perform.on d with
    | (.ok (), d) => call :: d.accepted rest
    | (.error _, d) => d.accepted rest

inductive Maker where
  | empty
  | builtins
  | global

namespace Maker

def registry : Maker → Registry
  | empty => .empty
  | builtins => .builtins
  | global => .global

def history : Maker → List Call
  | empty | builtins => []
  | global => [.installAll]

end Maker

structure Remembers (history : List Call) (r : Registry) : Prop where
  names : r.names = UnicodeNames.empty.after (history.flatMap Call.namings)
  rule : r.hasUnicodeRule = history.any Call.bringsNames
  single : r.registrations.countP Registration.isUnicodeNames =
    if history.any Call.bringsNames then 1 else 0

def taken (history : List Call) (call : Call) : Except Failure Unit → List Call
  | .ok () => history ++ [call]
  | .error _ => history

/-- What is true of every call on a registry that took the calls of `history`. -/
structure Lawful (history : List Call) (call : Call) (before : Desk)
    (result : Except Failure Unit) (after : Desk) : Prop where
  asValues : (result, after) = before.take (call.change before.registry)
  refused (e : Failure) : result = .error e ↔ call.Refused before.registry e
  untouched (e : Failure) : result = .error e → after = before
  rules : result = .ok () →
    after.registry.registrations = before.registry.registrations ++ call.additions history
  single : after.registry.registrations.countP Registration.isUnicodeNames =
    if (taken history call result).any Call.bringsNames then 1 else 0
  enabled : after.registry.enabled = call.enabledAfter before.registry.enabled
  kept (name : Text) : before.registry.hasUnicodeName name → after.registry.hasUnicodeName name
  latest (name : Text) (s : CodePointSet) : after.registry.names.find? name = some s ↔
    LastGiven ((taken history call result).flatMap Call.namings) name s

theorem effectNames (call : Call) (r : Registry) :
    (call.effect r).names = r.names.after call.namings := by
  cases call with
  | enable | disable | register => rfl
  | _ => simp only [Call.effect, gain]

theorem effectEnabled (call : Call) (r : Registry) :
    (call.effect r).enabled = call.enabledAfter r.enabled := by
  cases call <;> rfl

theorem effectRule (call : Call) (r : Registry) :
    (call.effect r).hasUnicodeRule = (r.hasUnicodeRule || call.bringsNames) := by
  cases call <;> simp [Call.effect, gain, append, Call.bringsNames, Call.packages, Package.bundled]

theorem effectRegistrations {history : List Call} {r : Registry}
    (rule : r.hasUnicodeRule = history.any Call.bringsNames) (call : Call) :
    (call.effect r).registrations = r.registrations ++ call.additions history := by
  cases call <;>
    simp [Call.effect, gain, append, Call.additions, Call.bringsNames, Call.packages, Package.bundled, ← rule]
  all_goals cases r.hasUnicodeRule <;> rfl

theorem additionsCount (history : List Call) (call : Call) :
    (call.additions history).countP Registration.isUnicodeNames =
      if call.bringsNames && !history.any Call.bringsNames then 1 else 0 := by
  cases call with
  | register rule => rfl
  | _ =>
    simp only [Call.additions]
    split <;> rfl

theorem effectRemembers {history : List Call} {r : Registry} (remembers : Remembers history r)
    (call : Call) : Remembers (history ++ [call]) (call.effect r) where
  names := by
    simp [effectNames, remembers.names, UnicodeNames.afterAppend]
  rule := by
    simp [effectRule, remembers.rule]
  single := by
    rw [effectRegistrations remembers.rule, List.countP_append, remembers.single, additionsCount,
      List.any_append, List.any_cons, List.any_nil, Bool.or_false]
    cases history.any Call.bringsNames <;> cases call.bringsNames <;> rfl

theorem installAllEffect (r : Registry) : Call.installAll.effect r = r.gain Call.installAll.namings := by
  simp only [Call.effect]

theorem makerRemembers (maker : Maker) : Remembers maker.history maker.registry := by
  have builtins : Remembers [] .builtins := ⟨rfl, rfl, rfl⟩
  cases maker with
  | empty => exact ⟨rfl, rfl, rfl⟩
  | builtins => exact builtins
  | global =>
    obtain ⟨events, all⟩ := installAllGains .builtins
    have made : Registry.global = Registry.builtins.gain Call.installAll.namings := by
      rw [global, all, orEmpty]
    have remembers := effectRemembers builtins .installAll
    rwa [installAllEffect, ← made] at remembers

theorem afterAppend (d : Desk) (calls : List Call) (call : Call) :
    d.after (calls ++ [call]) = (call.perform.on (d.after calls)).2 := List.foldl_append

theorem acceptedAppend (d : Desk) (calls : List Call) (call : Call) :
    d.accepted (calls ++ [call]) = d.accepted calls ++ (d.after calls).accepted [call] := by
  induction calls generalizing d with
  | nil => rfl
  | cons first rest ih =>
    simp only [List.cons_append, Desk.accepted, Desk.after, List.foldl_cons]
    rcases first.perform.on d with ⟨_ | _, next⟩
    · exact ih next
    · exact congrArg _ (ih next)

theorem performCases (call : Call) (d : Desk) :
    (∃ e, call.Refused d.registry e ∧ call.perform.on d = (.error e, d)) ∨
      (∀ e, ¬ call.Refused d.registry e) ∧
        ∃ events, call.perform.on d = (.ok (), ⟨call.effect d.registry, d.events ++ events⟩) := by
  rw [call.performsChange]
  obtain ⟨e, refused, failed⟩ | ⟨never, events, done⟩ := changeCases call d.registry
  · exact .inl ⟨e, refused, by rw [failed]; rfl⟩
  · exact .inr ⟨never, events, by rw [done]; rfl⟩

theorem runRemembers (maker : Maker) (calls : List Call) :
    Remembers (maker.history ++ Desk.accepted ⟨maker.registry, []⟩ calls)
      (Desk.after ⟨maker.registry, []⟩ calls).registry := by
  induction calls using List.reverseRecOn with
  | nil => simpa [Desk.accepted, Desk.after] using makerRemembers maker
  | append_singleton calls call ih =>
    rw [acceptedAppend, ← List.append_assoc, afterAppend]
    obtain ⟨e, _, failed⟩ | ⟨_, events, done⟩ := performCases call (Desk.after ⟨maker.registry, []⟩ calls)
    · simpa [Desk.accepted, failed] using ih
    · simpa [Desk.accepted, done] using effectRemembers ih call

theorem effectKeeps (call : Call) {r : Registry} {name : Text} (known : r.hasUnicodeName name) :
    (call.effect r).hasUnicodeName name := by
  simp only [hasUnicodeName, UnicodeNames.contains, effectNames] at known ⊢
  exact UnicodeNames.afterKeeps call.namings known

theorem refusedOnce {call : Call} {r : Registry} {e other : Failure} (refused : call.Refused r e)
    (also : call.Refused r other) : e = other := by
  cases call with
  | register rule => exact refused.2.trans also.2.symm
  | addNames p =>
    simp only [Call.Refused] at refused also
    split at refused
    · rw [if_pos ‹_›] at also
      exact Except.error.inj
        ((UnicodeNames.mappingFails.mpr refused).symm.trans (UnicodeNames.mappingFails.mpr also))
    · rw [if_neg ‹_›] at also
      exact refused.trans also.symm
  | _ => exact refused.elim

theorem refusedLawful {history : List Call} {call : Call} {before : Desk} {e : Failure}
    (remembers : Remembers history before.registry) (refused : call.Refused before.registry e)
    (failed : call.perform.on before = (.error e, before)) :
    Lawful history call before (.error e) before where
  asValues := failed ▸ call.performsChange before
  refused other :=
    ⟨fun same => Except.error.inj same ▸ refused, fun also => congrArg _ (refusedOnce refused also)⟩
  untouched _ _ := rfl
  rules := nofun
  single := remembers.single
  enabled := by
    cases call <;> first | rfl | exact refused.elim
  kept _ := id
  latest name s := by
    rw [remembers.names, UnicodeNames.afterFind, taken]

theorem takenLawful {history : List Call} {call : Call} {before : Desk} {events : List Event}
    (remembers : Remembers history before.registry) (never : ∀ e, ¬ call.Refused before.registry e)
    (done : call.perform.on before = (.ok (), ⟨call.effect before.registry, before.events ++ events⟩)) :
    Lawful history call before (.ok ()) ⟨call.effect before.registry, before.events ++ events⟩ where
  asValues := done ▸ call.performsChange before
  refused e := ⟨nofun, fun refused => absurd refused (never e)⟩
  untouched := nofun
  rules _ := effectRegistrations remembers.rule call
  single := (effectRemembers remembers call).single
  enabled := effectEnabled call before.registry
  kept _ := effectKeeps call
  latest name s := by
    rw [(effectRemembers remembers call).names, UnicodeNames.afterFind, taken]

/-- Every call of every run on a new registry is lawful. -/
theorem everyCallLawful (maker : Maker) (calls : List Call) (call : Call) :
    Lawful (maker.history ++ Desk.accepted ⟨maker.registry, []⟩ calls) call
      (Desk.after ⟨maker.registry, []⟩ calls)
      (call.perform.on (Desk.after ⟨maker.registry, []⟩ calls)).1
      (call.perform.on (Desk.after ⟨maker.registry, []⟩ calls)).2 := by
  have remembers := runRemembers maker calls
  obtain ⟨e, refused, failed⟩ | ⟨never, events, done⟩ :=
    performCases call (Desk.after ⟨maker.registry, []⟩ calls)
  · rw [failed]
    exact refusedLawful remembers refused failed
  · rw [done]
    exact takenLawful remembers never done

example :
    let calls : List Call := [.enable,
      .addNames ⟨[("Vowel".toList, "0041".toList)], [("vowel".toList, "First".toList)]⟩,
      .addNames ⟨[("VOWEL".toList, "0045".toList)], [("none".toList, "first".toList)]⟩]
    (Desk.after ⟨.empty, []⟩ calls).registry.names.find? "first".toList = some ⟨[(0x41, 0x41)]⟩ := by
  decide +kernel

end Registry
end ExtendedPattern
