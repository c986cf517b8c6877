import ExtendedPattern.Proofs.ExplicitCapture
import ExtendedPattern.Proofs.ExpressionReading

/-! Slots and groups. Slot `k` stands for group `k + 1` just where the groups of the native program open at the
parentheses that the rules wrote. The text of an expression is such a pattern. -/
namespace ExtendedPattern
open Text (size)

namespace Match
variable {m : Match} {c : Context}

theorem indexOfSlots (names : m.names = c.names) (name : Text) : m.nameIndex? name = (c.index? name).map (· + 1) := by
  rw [nameIndex?, names, Context.names]
  split
  · rfl
  · rename_i unnamed
    have none : c.index? name = none := by
      rw [Context.index?, List.findIdx?_eq_none_iff]
      intro slot mem
      simp only [Context.hasNamed, List.any_eq_true, not_exists, not_and, Bool.not_eq_true, Option.isSome_eq_false_iff,
        Option.isNone_iff_eq_none] at unnamed
      rw [unnamed slot mem]
      rfl
    rw [none]
    rfl

theorem memNamed (names : m.names = c.names) {name : Text} {value : Option Text} :
    (name, value) ∈ m.named ↔ ∃ k, c.slots[k]? = some (some name) ∧ value = m.group? (k + 1) := by
  have listed : m.names.getD [] = if c.hasNamed then c.slots else [] := by
    rw [names, Context.names]
    split <;> rfl
  have given {k : Nat} (slot : c.slots[k]? = some (some name)) : c.hasNamed :=
    List.any_eq_true.mpr ⟨_, List.mem_of_getElem? slot, rfl⟩
  simp only [named, List.mem_filterMap, Prod.exists, List.mem_zipIdx_iff_getElem?, Option.map_eq_some_iff, Prod.mk.injEq, listed]
  constructor
  · rintro ⟨slot, k, found, _, rfl, rfl, rfl⟩
    split at found
    · exact ⟨k, found, rfl⟩
    · cases found
  · rintro ⟨k, slot, rfl⟩
    refine ⟨some name, k, ?_, name, rfl, rfl, rfl⟩
    rw [if_pos (given slot)]
    exact slot

end Match

namespace Compilation
variable {c : Compilation} {opened : List (Nat × Nat)} {groups : Nat}

/-- Slot `k` stands for group `k + 1`, which opens at the parenthesis that the slot was kept for. -/
structure Aligned (c : Compilation) (opened : List (Nat × Nat)) (groups : Nat) : Prop where
  count : c.context.slots.length = groups
  places : ∀ k < groups, ∃ x, c.parentheses[k]? = some x ∧ (k + 1, x) ∈ opened

theorem memNumbered (numbers : opened.map Prod.fst = List.range' 1 opened.length) {k x : Nat} :
    (k + 1, x) ∈ opened ↔ (opened.map Prod.snd)[k]? = some x := by
  have number {i : Nat} {pair : Nat × Nat} (found : opened[i]? = some pair) : pair.1 = i + 1 := by
    have first : (opened.map Prod.fst)[i]? = some pair.1 := by rw [List.getElem?_map, found, Option.map_some]
    rw [numbers] at first
    obtain ⟨_, same⟩ := List.getElem?_eq_some_iff.mp first
    rw [← same, List.getElem_range', Nat.one_mul, Nat.add_comm]
  rw [List.getElem?_map, Option.map_eq_some_iff, List.mem_iff_getElem?]
  constructor
  · rintro ⟨i, found⟩
    obtain rfl : k = i := Nat.succ.inj (number found)
    exact ⟨_, found, rfl⟩
  · rintro ⟨⟨g, x⟩, found, rfl⟩
    obtain rfl : g = k + 1 := number found
    exact ⟨k, found⟩

theorem alignedTaken (slots : c.context.slots.length = c.parentheses.length)
    (numbers : opened.map Prod.fst = List.range' 1 opened.length) (within : groups ≤ opened.length) :
    c.Aligned opened groups ↔ c.parentheses = (opened.map Prod.snd).take groups := by
  have count : ((opened.map Prod.snd).take groups).length = groups := by simpa using within
  constructor
  · intro aligned
    refine List.ext_getElem? fun k => ?_
    by_cases inside : k < groups
    · obtain ⟨x, place, mem⟩ := aligned.places k inside
      rw [place, List.getElem?_take_of_lt inside, (memNumbered numbers).mp mem]
    · have beyond : c.parentheses.length ≤ k := by
        rw [← slots, aligned.count]
        exact Nat.le_of_not_lt inside
      rw [List.getElem?_eq_none beyond, List.getElem?_eq_none (Nat.le_trans (Nat.le_of_eq count) (Nat.le_of_not_lt inside))]
  · intro same
    refine ⟨by rw [slots, same, count], fun k inside => ?_⟩
    have present : k < (opened.map Prod.snd).length := by
      rw [List.length_map]
      exact Nat.lt_of_lt_of_le inside within
    refine ⟨(opened.map Prod.snd)[k], ?_, (memNumbered numbers).mpr (List.getElem?_eq_getElem present)⟩
    rw [same, List.getElem?_take_of_lt inside, List.getElem?_eq_getElem present]

theorem alignedWhere (slots : c.context.slots.length = c.parentheses.length)
    (numbers : opened.map Prod.fst = List.range' 1 opened.length) (descend : (opened.map Prod.snd).Pairwise (· > ·))
    (within : groups ≤ opened.length) :
    c.Aligned opened groups ↔ ∀ x, x ∈ c.parentheses ↔ ∃ k < groups, (k + 1, x) ∈ opened := by
  have taken (x : Nat) : x ∈ (opened.map Prod.snd).take groups ↔ ∃ k < groups, (k + 1, x) ∈ opened := by
    simp only [List.mem_iff_getElem?, memNumbered numbers]
    constructor
    · rintro ⟨k, found⟩
      have inside : k < groups := by
        refine Nat.lt_of_not_le fun beyond => ?_
        rw [List.getElem?_take, if_neg (Nat.not_lt_of_le beyond)] at found
        cases found
      rw [List.getElem?_take_of_lt inside] at found
      exact ⟨k, inside, found⟩
    · rintro ⟨k, inside, found⟩
      exact ⟨k, by rw [List.getElem?_take_of_lt inside, found]⟩
  rw [alignedTaken slots numbers within]
  simp only [← taken]
  constructor
  · rintro same x
    rw [same]
  · exact fun alike => (placesDescend c.segments).1.eq_of_mem_iff (descend.sublist (List.take_sublist _ _)) alike

end Compilation

structure Compilation.Describes (done : Compilation) (p : Pattern) : Prop where
  native : done.native = p.native
  openers : List.Forall₂ (fun g name => GroupOpener g.source name) done.writtenGroups done.context.slots
  references : ∀ g ∈ done.segments, g.IsNumber → g.Numbers done.context.slots
  named : ∀ m : Match, m.names = p.names → ∀ name,
    m.named? name = (done.context.index? name).bind fun k => m.group? (k + 1)
  listed : ∀ m : Match, m.names = p.names → ∀ name value,
    (name, value) ∈ m.named ↔ ∃ k, done.context.slots[k]? = some (some name) ∧ value = m.group? (k + 1)

theorem compilationDescribes {source : Text} {flags : FlagSet} {s t : Session} {done : Compilation} {p : Pattern}
    (compiled : compile source flags .global s = (.ok done, t)) (native : p.native = done.native)
    (names : p.names = done.context.names) : done.Describes p where
  native := native.symm
  openers := slotsOfWrittenGroups .global compiled
  references := compileNumbers .global compiled
  named m same name := by
    rw [Match.named?, Match.indexOfSlots (same.trans names)]
    cases done.context.index? name <;> rfl
  listed m same name value := Match.memNamed (same.trans names)

/-- The slots of every accepted pattern stand for its groups just where the parentheses that the rules wrote are
the places of the program's groups; then a name reads the group of its slot. Where the pattern is an expression, every slot
stands for a group, and the program has them all unless one is repeated no times. -/
theorem slotsStandForGroups {source letters : Text} {p : Pattern} {s t : Session}
    (built : Pattern.withFlags source letters s = (.ok p, t)) :
    ∃ (flags : FlagSet) (done : Compilation) (opened : List (Nat × Nat)),
      FlagSet.ofLetters letters = .ok flags ∧ compile source flags .global s = (.ok done, t) ∧ done.Describes p ∧
      Engine.Reader.Opens (p.flags.openNative p.native) opened ∧ p.groupCount ≤ opened.length ∧
      (done.Aligned opened p.groupCount ↔ ∀ x, x ∈ done.parentheses ↔ ∃ k < p.groupCount, (k + 1, x) ∈ opened) ∧
      ∀ e : Extended, source = e.print → done.Aligned opened opened.length ∧ (e.Positive → done.Aligned opened p.groupCount) := by
  obtain ⟨flags, done, known, compiled, assembled⟩ := Pattern.withFlagsParts built
  obtain ⟨native, _, names, program⟩ := Pattern.assembleParts assembled
  obtain ⟨opened, opens, within⟩ := Engine.Program.buildCounts program
  have openers := slotsOfWrittenGroups .global compiled
  have slots : done.context.slots.length = done.parentheses.length := by
    rw [Compilation.parentheses, Compilation.placesCount]
    exact openers.length_eq.symm
  have numbers := opens.numbers
  refine ⟨flags, done, opened, known, compiled, compilationDescribes compiled native names, opens, within,
    Compilation.alignedWhere slots numbers opens.descend within, ?_⟩
  rintro e rfl
  obtain ⟨tree, q, reads⟩ := opens
  obtain ⟨translated, parentheses⟩ := expressionParentheses .global e compiled
  have spelled : p.native = (e.translate flags [] []).print := native.trans translated
  have onward := reads
  rw [spelled] at onward
  obtain ⟨places, reaches⟩ := Engine.Reader.opensExpression onward
  have all : done.parentheses = opened.map Prod.snd := parentheses.trans places.symm
  have whole : done.Aligned opened opened.length := by
    rw [Compilation.alignedTaken slots numbers (Nat.le_refl _), all, List.take_of_length_le (by simp)]
  refine ⟨whole, fun positive => ?_⟩
  have count : p.groupCount = opened.length :=
    Nat.le_antisymm within (Engine.Program.buildReaches program reads (reaches positive))
  rwa [count]

theorem namedGroupHasItsSlot :
    ∃ (p : Pattern) (t : Session), Pattern.withFlags "(?<y>b)".toList [] {} = (.ok p, t) ∧
      ∃ (done : Compilation) (opened : List (Nat × Nat)), done.Describes p ∧
        Engine.Reader.Opens (p.flags.openNative p.native) opened ∧ done.Aligned opened p.groupCount ∧
        done.context.slots = [some ['y']] := by
  let y : GroupName := ⟨['y'], by decide, by simp; decide⟩
  let e : Extended := .group (.named y ⟨'y', by decide, by decide⟩)
    (.atom (.literal ⟨'b', by decide, by decide⟩) none) none
  have writes : Scanning.Writes _ e.print [] e.print [] ⟨.outside, .start .empty⟩ ⟨.outside, _⟩ _ :=
    Scanning.ofExpression .global e (by simp)
  have idle : ({} : Session).inRules = false := rfl
  obtain ⟨done, t, compiled, native, context⟩ := Scanning.compiled .global (Registry.Standard.global.shortSearches (by decide)) writes idle
  have assembled : (Pattern.assemble "(?<y>b)".toList "(b)".toList .empty
      (some [some ['y']]) {}).toOption.isSome := by
    decide +kernel
  obtain ⟨p, assembled⟩ := okOfSome assembled
  have built : Pattern.withFlags "(?<y>b)".toList [] {} = (.ok p, t) :=
    Pattern.withFlagsOf rfl compiled (by rw [native, context]; exact assembled)
  obtain ⟨flags, found, opened, known, again, describes, opens, _, _, expression⟩ := slotsStandForGroups built
  cases known
  have same : (done, t) = (found, t) := by
    have both := compiled.symm.trans again
    cases both
    rfl
  cases same
  have positive : e.Positive := ⟨trivial, by simp⟩
  exact ⟨p, t, built, done, opened, describes, opens, (expression e rfl).2 positive, by rw [context]; rfl⟩

theorem commentHidesQuestionMark :
    ∃ (p : Pattern) (t : Session), Pattern.withFlags "((?#)?:a)(?<y>b)".toList [] {} = (.ok p, t) ∧
      p.names = some [none, some ['y']] ∧ p.groupCount = 1 ∧
      (p.find ['a', 'b']).map (·.map Match.named) = .ok (some [(['y'], none)]) := by
  let y : GroupName := ⟨['y'], by decide, by simp; decide⟩
  let body : Extended := .seq (.atom (.literal ⟨':', by decide, by decide⟩) none)
    (.atom (.literal ⟨'a', by decide, by decide⟩) none)
  let tail : Extended := .group (.named y ⟨'y', by decide, by decide⟩)
    (.atom (.literal ⟨'b', by decide, by decide⟩) none) none
  let source : Text :=
    ['('] ++ (['(', '?', '#', ')'] ++ (['?'] ++ (body.print ++ ([')'] ++ tail.print))))
  have standard := Registry.Standard.global
  have writes : Scanning.Writes (.unicode Registry.global.names :: LocalRule.builtins) source [] source []
      ⟨.outside, .start .empty⟩ ⟨.outside, ⟨[none, some ['y']], .empty⟩⟩ "(?:a)(b)".toList := by
    refine Scanning.andThen (Scanning.ofPlainOpener standard (by decide)) ?_
    refine Scanning.andThen (Scanning.ofComment standard (List.forall_mem_nil _)) ?_
    refine Scanning.andThen (Scanning.ofMark standard (by decide) false (by decide)) ?_
    refine Scanning.andThen (Scanning.ofExpression standard body (by decide)) ?_
    refine Scanning.andThen (Scanning.ofLone standard (by decide) (by decide) (by decide) rfl) ?_
    exact Scanning.ofExpression standard tail (by decide)
  have idle : ({} : Session).inRules = false := rfl
  obtain ⟨done, t, compiled, native, context⟩ := Scanning.compiled standard (standard.shortSearches (by decide)) writes idle
  have facts : (Engine.Program.build? {} "(?:a)(b)".toList).map
      (fun program => (program.groups, (program.search ['a', 'b'] 0).toOption)) =
        some (2, some (some [some ⟨0, 2⟩, some ⟨1, 2⟩])) := by
    decide +kernel
  obtain ⟨program, builds, facts⟩ := Option.map_eq_some_iff.mp facts
  obtain ⟨count, found⟩ := Prod.mk.inj facts
  have search := okOfToOption found
  let p : Pattern :=
    { source, native := "(?:a)(b)".toList, flags := .empty, program, names := some [none, some ['y']],
      limits := {}, cursor := 0 }
  have assembled : Pattern.assemble source done.native done.context.flags done.context.names {} = .ok p := by
    rw [native, context]
    unfold Pattern.assemble
    have builds : Engine.Program.build? {} (FlagSet.empty.openNative "(?:a)(b)".toList) = some program := builds
    rw [builds]
    rfl
  refine ⟨p, t, Pattern.withFlagsOf rfl compiled assembled, rfl, ?_, ?_⟩
  · simp [Pattern.groupCount, p, count]
  · have native : p.nativeSearch ['a', 'b'] 0 = .ok (some [some ⟨0, 2⟩, some ⟨1, 2⟩]) := by
      rw [Pattern.nativeSearch, search]
      rfl
    have boundary : Text.boundary ['a', 'b'] 0 = 0 := rfl
    have inside : ¬ size ['a', 'b'] < 0 := Nat.not_lt_zero _
    rw [Pattern.find, Pattern.execAt, if_neg inside, boundary]
    dsimp only
    rw [native]
    rfl

end ExtendedPattern
