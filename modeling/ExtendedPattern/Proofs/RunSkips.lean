import ExtendedPattern.Proofs.BalancedCall
import ExtendedPattern.Proofs.RunSearch

/-! What the pattern for a run passes over. Delimiters that need no backtracking, or are tame, mean the same in it as
they do alone, so a run ends at or in front of the first of them. -/
namespace ExtendedPattern
open Text (size)

namespace Pattern
variable {p : Pattern} {flags : FlagSet}

theorem builtOf {source : Text} {r : Registry} {s t : Session} (compiled : withRegistry source flags r s = (.ok p, t)) :
    Engine.Program.build? {} (p.flags.openNative p.native) = some p.program := by
  obtain ⟨c, u, _, assembled⟩ := Action.andThenOk compiled
  have assembled := congrArg Prod.fst assembled
  change assemble _ _ _ _ _ = _ at assembled
  unfold assemble at assembled
  split at assembled <;> cases assembled
  assumption

def lastModes (p : Pattern) : Option Engine.Reader.Modes :=
  (Engine.Reader.tree? (p.flags.openNative p.native)).map (·.2.modes)

theorem characterModes (c : Char) {flags : FlagSet} (plain : flags.nativeOpener = []) :
    (ofCharacter c flags).lastModes = some {} := by
  have native : (ofCharacter c flags).flags.openNative (ofCharacter c flags).native = escapeChar c := by
    rw [FlagSet.openNative]
    exact (congrArg (· ++ _) plain).trans (List.nil_append _)
  rw [lastModes, native, Engine.Program.treeSpelling (spelled c)]
  rfl

/-- Matched without backtracking, or by trial from a tame tree wherever the search starts; and read under the modes
of the call from its start on. -/
structure Plain (p : Pattern) (flags : FlagSet) : Prop where
  told : (∃ code, p.program.body = .lockstep code) ∨ p.program.isSteady ∧
    ∃ n q, Engine.Reader.tree? (p.flags.openNative p.native) = some (n, q) ∧ n.isTame true
  flags : p.flags.inter .native = flags.inter .native

structure MatchedBy (p : Pattern) (flags : FlagSet) (last : Engine.Reader.Modes) (n : Engine.Node) : Prop where
  alone : Engine.Reader.ReadsAlone flags.modes last p.native n
  tame : n.isTame false
  steady : p.program.isSteady
  finds : p.program.Finds n

theorem Plain.tree (plain : p.Plain flags)
    (built : Engine.Program.build? {} (p.flags.openNative p.native) = some p.program) :
    ∃ last n, p.lastModes = some last ∧ p.MatchedBy flags last n := by
  have known : ∃ n q, Engine.Reader.tree? (p.flags.openNative p.native) = some (n, q) ∧ n.isTame false ∧
      p.program.isSteady ∧ p.program.Finds n := by
    cases body : p.program.body with
    | lockstep code => exact Engine.Program.lockstepTree built body
    | trial plan guards =>
      obtain ⟨code, same⟩ | ⟨steady, n, q, read, tame⟩ := plain.told
      · rw [body] at same
        cases same
      · exact ⟨n, q, read, Engine.Node.tameSoft n tame, steady, Engine.Program.trialFinds built read tame body⟩
  obtain ⟨n, q, read, tame, steady, finds⟩ := known
  have alone := Engine.Reader.treeAlone read
  rw [FlagSet.modesOfNative plain.flags] at alone
  exact ⟨q.modes, n, by rw [lastModes, read]; rfl, alone, tame, steady, finds⟩

namespace MatchedBy
variable {last : Engine.Reader.Modes} {n : Engine.Node}

theorem matchesAt (matched : p.MatchedBy flags last n) {before after : Text}
    (stands : p.MatchesAt (before ++ after) (size before)) : ∃ d, n.Matches ⟨before.reverse, after, size before⟩ d := by
  obtain ⟨place, m, pinned⟩ := stands
  obtain ⟨_, groups, rfl, searched, start⟩ := execAtFound pinned
  rw [Text.boundaryOfPlace place] at searched start
  obtain ⟨c, ahead, found⟩ := Engine.Program.searchFound (searchedBy searched)
  obtain ⟨d, more, _, same⟩ := found.span (Bool.and_eq_true_iff.mp matched.steady).1
  have here : c.offset = size before := by
    rw [← start rfl, same]
    rfl
  obtain rfl := ahead.still here.symm
  exact matched.finds (.between before after) found

end MatchedBy
end Pattern

namespace Balanced
variable {flags native : FlagSet} {e : Char} {subject : Text}
variable {left right run : Pattern} {last : Engine.Reader.Modes} {n m : Engine.Node} {start stop : Nat}

theorem escapeBuilds (built : escapePattern [e] left right native = .ok run) :
    Engine.Program.build? {} (native.openNative (escapeText (escapeChar e) left.native right.native)) =
      some run.program := by
  have sign : ExtendedPattern.escape [e] = escapeChar e := by simp [ExtendedPattern.escape]
  unfold escapePattern at built
  split at built
  · cases built
  split at built
  · cases built
  rw [sign, Pattern.ofNative, Pattern.assemble, FlagSet.openNative, FlagSet.openerKept] at built
  split at built <;> cases built
  assumption

/-- No character of the subject is the escape character, under the modes of the call. -/
structure Unseen (e : Char) (flags : FlagSet) (subject : Text) : Prop where
  absent : e ∉ subject
  caseless : flags.has .ignoreCase → ∀ x ∈ subject, ((Engine.CharSet.single e).underCase true).has x = false

theorem Unseen.escapes (unseen : Unseen e flags subject) (foldable : Bool) {x : Char} (mem : x ∈ subject) :
    ((Engine.CharSet.single e).underCase (foldable && flags.has .ignoreCase)).has x = false := by
  cases both : foldable && flags.has .ignoreCase with
  | true => exact unseen.caseless (Bool.and_eq_true_iff.mp both).2 x mem
  | false =>
    have apart : x ≠ e := by
      rintro rfl
      exact unseen.absent mem
    simp [Engine.CharSet.underCase, Engine.CharSet.singleHas, apart]

structure Skips (left right : Pattern) (subject : Text) (start stop : Nat) : Prop where
  ordered : start ≤ stop
  place : subject.IsPlace stop
  left : ∀ {q}, start ≤ q → q < stop → ¬ left.MatchesAt subject q
  right : ∀ {q}, start ≤ q → q < stop → ¬ right.MatchesAt subject q

theorem runSkips (leftMatched : left.MatchedBy flags flags.modes n) (rightMatched : right.MatchedBy flags last m)
    (solid : last.freeSpacing = false) (same : native.inter .native = flags.inter .native)
    (built : escapePattern [e] left right native = .ok run) (unseen : Unseen e flags subject)
    (place : subject.IsPlace start)
    (found : escapeSearch (some run) subject start = .ok (some stop)) : Skips left right subject start stop := by
  have builds := escapeBuilds built
  rw [FlagSet.openNative, FlagSet.openerOfNative same] at builds
  obtain ⟨present, foldable, everything, other, delimiters, inner, guards, tells, delimit, runs⟩ :=
    Engine.Program.runBuilt (spelled e) leftMatched.alone rightMatched.alone solid leftMatched.tame rightMatched.tame builds
  obtain ⟨_, searched, rfl⟩ := escapeSearchFound found
  obtain ⟨_, _, rfl, searched, pinned⟩ := Pattern.execAtFound searched
  obtain ⟨before, after, rfl, rfl⟩ := place
  rw [Text.boundaryOfPlace ⟨before, after, rfl, rfl⟩] at searched pinned
  obtain ⟨s, u, more, here, passes, rfl⟩ :=
    Engine.Program.searchPasses present tells runs (Pattern.searchedBy searched) (pinned rfl)
  have on : Engine.Cursor.On (before ++ after) s.here := here ▸ .between before after
  have passed := passes.free on fun x mem => unseen.escapes foldable (List.mem_append_right before (by rwa [here] at mem))
  rw [here] at passed
  obtain ⟨ordered, stops⟩ := passed.ahead.place
  have apart {q : Nat} (behind : size before ≤ q) (within : q < u.here.offset) {p : Pattern}
      {last : Engine.Reader.Modes} {n : Engine.Node} (matched : p.MatchedBy flags last n)
      (among : ∀ {c d}, n.Matches c d → delimiters.Matches c d) : ¬ p.MatchesAt (before ++ after) q := by
    intro stands
    obtain ⟨front, rest, whole, rfl, free⟩ := passed.atPlace stands.1 behind within
    rw [whole] at stands
    obtain ⟨d, taken⟩ := matched.matchesAt stands
    exact free ⟨d, among taken⟩
  exact ⟨ordered, stops, fun behind within => apart behind within leftMatched fun taken => (delimit _ _).mpr (.inl taken),
    fun behind within => apart behind within rightMatched fun taken => (delimit _ _).mpr (.inr taken)⟩

end Balanced
end ExtendedPattern
