import ExtendedPattern.Proofs.RegistryRuns
import ExtendedPattern.Proofs.CodePointData
import ExtendedPattern.Proofs.BundledRules

/-! The data behind names. A registry keeps sets, its calls give data: the set of a name is always the one that its
current data lists. The rules of a registry to which none was added are the bundled ones. -/
namespace ExtendedPattern

namespace UnicodeNames
open CodePointSet (Lists)
variable {names : UnicodeNames} {known : Text → Option Text} {act : Naming} {acts : List Naming}

namespace Naming

def note (known : Text → Option Text) : Naming → Text → Option Text
  | mapping name data, key => if slug name = key then some data else known key
  | aliasOf target new, key => if slug new = key then (known (slug target)).or (known key) else known key

def Readable : Naming → Prop
  | mapping _ data => ∃ items, Lists data items
  | aliasOf _ _ => True

end Naming

def dataAfter (acts : List Naming) : Text → Option Text := acts.foldl Naming.note fun _ => none

inductive Gives : Option Text → Option CodePointSet → Prop where
  | data {data : Text} {items : List (Nat × Nat)} (lists : Lists data items) : Gives (some data) (some (.ofRanges items))
  | nothing : Gives none none

theorem Gives.or {data? data?' : Option Text} {set? set?' : Option CodePointSet} (first : Gives data? set?)
    (second : Gives data?' set?') : Gives (data?.or data?') (set?.or set?') := by
  cases first with
  | data lists => exact .data lists
  | nothing => exact second

def Backed (names : UnicodeNames) (known : Text → Option Text) : Prop := ∀ name, Gives (known (slug name)) (names.find? name)

theorem Gives.ascends {data? : Option Text} {s : CodePointSet} (gives : Gives data? (some s)) : CodePointSet.Ascend 0 s.ranges := by
  cases gives with
  | data lists => exact (CodePointSet.ofRangesKeeps (CodePointSet.listedInside lists)).1.ascends

theorem noteBacks (backed : Backed names known) (readable : act.Readable) : Backed (act.apply names) (act.note known) := by
  intro name
  have before := backed name
  rw [applyFind]
  cases act with
  | mapping new data =>
    obtain ⟨items, lists⟩ := readable
    simp only [Naming.note, Naming.gives, CodePointSet.itemsRead.mpr lists, Option.map_some]
    split
    · exact .data lists
    · exact before
  | aliasOf target new =>
    simp only [Naming.note, Naming.gives]
    split
    · exact (backed target).or before
    · exact before

theorem afterBacked (readable : ∀ act ∈ acts, act.Readable) (backed : Backed names known) :
    Backed (names.after acts) (acts.foldl Naming.note known) := by
  induction acts generalizing names known with
  | nil => exact backed
  | cons act acts ih =>
    obtain ⟨first, others⟩ := List.forall_mem_cons.mp readable
    exact ih others (noteBacks backed first)

theorem dataBacks (readable : ∀ act ∈ acts, act.Readable) : Backed (empty.after acts) (dataAfter acts) :=
  afterBacked readable fun _ => .nothing

namespace Package

theorem Parses.readable {p : Package} (parses : p.Parses) : ∀ act ∈ p.namings, act.Readable := by
  obtain ⟨parsed, parses⟩ := parses
  have each : ∀ entry ∈ p.mapping, ∃ items, Lists entry.2 items := by
    generalize p.mapping = mapping at parses
    induction mapping generalizing parsed with
    | nil => exact nofun
    | cons entry rest ih =>
      obtain ⟨items, more, listed, others, _⟩ := mappingReads parses
      exact List.forall_mem_cons.mpr ⟨⟨items, CodePointSet.itemsRead.mp listed⟩, ih more others⟩
  intro act mem
  rcases List.mem_append.mp mem with mapped | aliased
  · obtain ⟨entry, inside, rfl⟩ := List.mem_map.mp mapped
    exact each entry inside
  · obtain ⟨_, _, rfl⟩ := List.mem_map.mp aliased
    trivial

end Package
end UnicodeNames

namespace Registry
open UnicodeNames (Package Naming Backed dataAfter)
variable {r : Registry} {call : Call}

theorem takenParses (never : ∀ e, ¬ call.Refused r e) : ∀ p ∈ call.packages, p.Parses := by
  have bundled : ∀ p ∈ Package.bundled, p.Parses := fun p => Package.bundledParses
  simp only [Package.bundled, List.forall_mem_cons] at bundled
  cases call with
  | enable | disable | register => exact List.forall_mem_nil _
  | addNames p =>
    refine List.forall_mem_singleton.mpr ?_
    simp only [Call.Refused] at never
    split at never
    · cases parses : UnicodeNames.parseMapping p.mapping with
      | ok parsed => exact ⟨parsed, parses⟩
      | error e => exact absurd (UnicodeNames.mappingFails.mp parses) (never e)
    · exact absurd rfl (never _)
  | installCategories => exact List.forall_mem_singleton.mpr bundled.1
  | installScripts => exact List.forall_mem_singleton.mpr bundled.2.1
  | installBlocks => exact List.forall_mem_singleton.mpr bundled.2.2.1
  | installAll => simpa [Call.packages, Package.bundled] using bundled

def Maker.taken (maker : Maker) (calls : List Call) : List Call :=
  maker.history ++ Desk.accepted ⟨maker.registry, []⟩ calls

def Maker.after (maker : Maker) (calls : List Call) : Registry := (Desk.after ⟨maker.registry, []⟩ calls).registry

variable {maker : Maker} {calls : List Call}

theorem afterCases (maker : Maker) (calls : List Call) (call : Call) :
    (maker.taken (calls ++ [call]) = maker.taken calls ∧ maker.after (calls ++ [call]) = maker.after calls) ∨
      (∀ e, ¬ call.Refused (maker.after calls) e) ∧ maker.taken (calls ++ [call]) = maker.taken calls ++ [call] ∧
        maker.after (calls ++ [call]) = call.effect (maker.after calls) := by
  simp only [Maker.taken, Maker.after, acceptedAppend, afterAppend, Desk.accepted]
  obtain ⟨e, _, failed⟩ | ⟨never, events, done⟩ := performCases call (Desk.after ⟨maker.registry, []⟩ calls)
  · exact .inl (by simp [failed])
  · exact .inr (by simp [done, never])

theorem takenReadable (maker : Maker) (calls : List Call) :
    ∀ act ∈ (maker.taken calls).flatMap Call.namings, act.Readable := by
  have each {call : Call} (parses : ∀ p ∈ call.packages, p.Parses) : ∀ act ∈ call.namings, act.Readable := by
    intro act mem
    obtain ⟨p, packed, inside⟩ := List.mem_flatMap.mp mem
    exact (parses p packed).readable act inside
  induction calls using List.reverseRecOn with
  | nil =>
    cases maker with
    | empty | builtins => exact nofun
    | global =>
      have all : ∀ p ∈ Call.installAll.packages, p.Parses := fun p => Package.bundledParses
      simpa [Maker.taken, Maker.history, Desk.accepted] using each all
  | append_singleton calls call ih =>
    obtain ⟨same, _⟩ | ⟨never, more, _⟩ := afterCases maker calls call
    · rwa [same]
    · rw [more, List.flatMap_append]
      refine List.forall_mem_append.mpr ⟨ih, ?_⟩
      simpa using each (takenParses never)

theorem namesBacked (maker : Maker) (calls : List Call) :
    Backed (maker.after calls).names (dataAfter ((maker.taken calls).flatMap Call.namings)) := by
  rw [Maker.after, (runRemembers maker calls).names]
  exact UnicodeNames.dataBacks (takenReadable maker calls)

theorem broughtNames {name : Text} (known : (maker.after calls).hasUnicodeName name) : (maker.taken calls).any Call.bringsNames := by
  by_contra nothing
  have silent : (maker.taken calls).flatMap Call.namings = [] := by
    simp only [List.any_eq_true, not_exists, not_and, Call.bringsNames] at nothing
    refine List.flatMap_eq_nil_iff.mpr fun call mem => ?_
    have none : call.packages = [] := by simpa using nothing call mem
    rw [Call.namings, none]
    rfl
  have none : (maker.after calls).names.find? name = none := by
    rw [Maker.after, (runRemembers maker calls).names, ← Maker.taken, silent]
    rfl
  rw [hasUnicodeName, UnicodeNames.contains, none] at known
  cases known

def Maker.locals : Maker → List LocalRule
  | empty => []
  | builtins | global => LocalRule.builtins

def Maker.registrations (maker : Maker) : List Registration := (maker.locals.map fun l => .rule l.rule).reverse

theorem keptRegistrations (own : ∀ rule, Call.register rule ∉ calls) : (maker.after calls).registrations =
    maker.registrations ++ if (maker.taken calls).any Call.bringsNames then [.unicodeNames] else [] := by
  induction calls using List.reverseRecOn with
  | nil =>
    cases maker with
    | empty | builtins => rfl
    | global =>
      have brought : (Maker.global.taken []).any Call.bringsNames = true := rfl
      rw [if_pos brought]
      exact globalRegistrations
  | append_singleton calls call ih =>
    have rule : (maker.after calls).hasUnicodeRule = (maker.taken calls).any Call.bringsNames := (runRemembers maker calls).rule
    have before := ih fun rule mem => own rule (List.mem_append_left [call] mem)
    obtain ⟨same, same'⟩ | ⟨_, more, effect⟩ := afterCases maker calls call
    · rwa [same, same']
    · have additions : call.additions (maker.taken calls) =
          if call.bringsNames && !(maker.taken calls).any Call.bringsNames then [.unicodeNames] else [] := by
        cases call with
        | register rule => exact absurd (List.mem_append_right calls (List.mem_singleton_self _)) (own rule)
        | _ => rfl
      rw [more, effect, effectRegistrations rule, additions, before]
      cases found : (maker.taken calls).any Call.bringsNames <;> cases brings : call.bringsNames <;>
        simp [found, brings]

/-- The rule for names stands before all others, none of which was added, and what it reads is in order. -/
structure ReadsNames (r : Registry) (others : List LocalRule) : Prop where
  rules : r.rules = (LocalRule.unicode r.names :: others).map LocalRule.rule
  bundled : ∀ l ∈ others, l.Bundled
  ascends : ∀ name set, r.names.find? name = some set → CodePointSet.Ascend 0 set.ranges

theorem ReadsNames.shortStarts {r : Registry} {others : List LocalRule} (reads : r.ReadsNames others) {pattern : Text}
    (short : pattern.length < 1000000) : r.StartsSearched pattern := by
  rw [StartsSearched, reads.rules, List.forall_mem_map]
  intro l mem
  have bundled : l.Bundled := by
    rcases List.mem_cons.mp mem with rfl | mem
    · exact .unicode r.names
    · exact reads.bundled l mem
  refine LocalRule.shortSearches (fun n limit => ?_) ⟨[], pattern, rfl, rfl⟩
  obtain rfl := bundled.limited limit
  obtain rfl : 1000000 = n := Option.some.inj limit
  exact short

theorem readsNames (own : ∀ rule, Call.register rule ∉ calls) (brought : (maker.taken calls).any Call.bringsNames) :
    (maker.after calls).ReadsNames maker.locals where
  rules := by
    rw [rules, keptRegistrations own, if_pos brought, Maker.registrations]
    simp only [List.reverse_append, List.reverse_reverse, List.map_append, List.map_map]
    rfl
  bundled := by
    cases maker with
    | empty => exact List.forall_mem_nil _
    | builtins | global => exact fun l mem => .builtin mem
  ascends name set found := by
    have gives := namesBacked maker calls name
    rw [found] at gives
    exact gives.ascends

end Registry
end ExtendedPattern
