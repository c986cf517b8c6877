import ExtendedPattern.Balanced
import ExtendedPattern.Proofs.Spelling

/-! Searching for one character. What is spelled for it becomes code of one step, so a search
from any place finds the first such character that follows. -/
namespace ExtendedPattern
open Text (size)

namespace Rewrite

theorem stepIdles (input rest : Text) (c : Char) (pos : Nat) (p : Progress) (s : Session) :
    (step input c rest pos p s).2.inRules = false := by
  unfold step
  have idle : (s.whileInRules (runRules input pos p.region p.context p.watches)).2.inRules = false := rfl
  split
  · rename_i same
    rw [same] at idle
    exact idle
  · rename_i same
    rw [same] at idle
    exact idle
  · rename_i same
    rw [same] at idle
    dsimp only
    split <;> exact idle

theorem scanIdles {input : Text} {t : Text} {pos next : Nat} {p : Progress} {s : Session}
    (idle : s.inRules = false) : (scan input t pos next p s).2.inRules = false := by
  induction t generalizing pos next p s with
  | nil => exact idle
  | cons c rest ih =>
    unfold scan
    split
    · exact ih idle
    · have stepped := stepIdles input rest c pos p s
      split
      · rename_i same
        rw [same] at stepped
        exact ih stepped
      · rename_i same
        rw [same] at stepped
        exact stepped

end Rewrite

theorem compileIdles (pattern : Text) (flags : FlagSet) (r : Registry) {s : Session}
    (idle : s.inRules = false) :
    (compile pattern flags r s).2.inRules = false := by
  rw [compile, rewrite, if_neg (by simp [idle])]
  let start : Rewrite.Progress := { watches := r.rules.map (·, .unsearched), context := .start flags }
  have scanned : (Rewrite.scan pattern pattern 0 0 start s).2.inRules = false := Rewrite.scanIdles idle
  dsimp only
  split
  · rename_i same
    rw [same] at scanned
    exact scanned
  · rename_i same
    rw [same] at scanned
    exact scanned

namespace Text

end Text

namespace Engine

namespace Program

def ofCharacter (c : Char) : Program := ⟨1, .lockstep #[.one (.single c)], 1000000⟩

theorem treeSpelling {c : Char} {spelling : Text} (spells : Spelling c spelling) :
    Reader.tree? spelling = some (.char (.single c), {}) := by
  obtain ⟨first, tail, same, _⟩ := spellingStarts spells
  have read : Reader.read? (size spelling / 2) (tail.length + 2) (spelling ++ []) {}
      { opening := .modes {} } [] = some (.char (.single c), {}) := by
    rw [Reader.spellingRead spells rfl rfl]
    rfl
  rw [List.append_nil] at read
  rw [Reader.tree?, ← read, same]
  rfl

theorem buildSpelling {c : Char} {spelling : Text} (spells : Spelling c spelling) :
    build? {} spelling = some (ofCharacter c) := by
  have light : Code.weight (.char (.single c)) ≤ defaultCodeLimit := by
    simp only [Code.weight, CharSet.single, CharSet.weight, defaultCodeLimit]
    split <;> omega
  have code : Plan.Setting.code? ⟨[], defaultCodeLimit⟩ (.char (.single c)) = some #[.one (.single c)] := by
    simp [Plan.Setting.code?, Code.isBounded, light, Code.ofNode]
  have easy : Plan.Setting.isEasy ⟨[], defaultCodeLimit⟩ (.char (.single c)) = true := rfl
  simp only [build?, treeSpelling spells, Option.bind_eq_bind, Option.bind_some, Option.getD_none, easy, if_true, code]
  rfl

end Program
end Engine

namespace Pattern

def ofCharacter (c : Char) (flags : FlagSet) : Pattern :=
  { source := escapeChar c, native := escapeChar c, flags, program := .ofCharacter c, names := none,
    limits := {}, cursor := 0 }

theorem withRegistryCompiled {source : Text} {flags : FlagSet} {r : Registry} {s t : Session} {done : Compilation}
    (compiled : compile source flags r s = (.ok done, t)) :
    withRegistry source flags r s = (assemble source done.native done.context.flags done.context.names {}, t) := by
  change Action.andThen (compile source flags r) _ s = _
  simp only [Action.andThen, compiled]
  rfl

theorem withRegistryFailed {source : Text} {flags : FlagSet} {r : Registry} {s : Session} {e : Failure}
    (failed : (compile source flags r s).1 = .error e) : (withRegistry source flags r s).1 = .error e := by
  change (Action.andThen (compile source flags r) _ s).1 = _
  simp only [Action.andThen]
  cases compiled : compile source flags r s with
  | mk result t =>
    rw [compiled] at failed
    obtain rfl : result = .error e := failed
    rfl

section
variable {locals : List LocalRule} {source out : Text} {flags : FlagSet} {context : Context} {s : Session}

theorem compilesOrTooFar (standard : Registry.global.Standard locals)
    (writes : Scanning.Writes locals source [] source [] ⟨.outside, .start flags⟩ ⟨.outside, context⟩ out)
    (idle : s.inRules = false) :
    (∃ t : Session, Pattern.withRegistry source flags .global s =
      (Pattern.assemble source out context.flags context.names {}, t) ∧ t.inRules = false) ∨
      (compile source flags .global s).1 = .error .backtrackLimit ∧ LocalRule.GroupTooFar source := by
  refine (Scanning.compiledOrTooFar standard writes idle).imp_left fun ⟨done, t, compiled, native, same⟩ => ⟨t, ?_, ?_⟩
  · rw [withRegistryCompiled compiled, native, same]
  · have still := compileIdles source flags .global idle
    rwa [compiled] at still

theorem compilesTo (standard : Registry.global.Standard locals) (searches : Registry.global.Searches source)
    (writes : Scanning.Writes locals source [] source [] ⟨.outside, .start flags⟩ ⟨.outside, context⟩ out)
    (idle : s.inRules = false) :
    ∃ t : Session, Pattern.withRegistry source flags .global s =
      (Pattern.assemble source out context.flags context.names {}, t) ∧ t.inRules = false :=
  (compilesOrTooFar standard writes idle).resolve_right fun exceeded => standard.searchesNear.mp searches exceeded.2

end

theorem compilesCharacter (c : Char) {flags : FlagSet} (plain : flags.nativeOpener = []) {s : Session}
    (idle : s.inRules = false) :
    ∃ t : Session, Pattern.withRegistry (escape [c]) flags .global s = (.ok (.ofCharacter c flags), t) ∧
      t.inRules = false := by
  have spells := spelled c
  have source : escape [c] = escapeChar c := by simp [escape]
  have written : Scanning.Writes _ (escapeChar c) [] (escapeChar c) [] ⟨.outside, .start flags⟩ ⟨.outside, .start flags⟩
      (escapeChar c) := Scanning.ofSpelling .global spells
  have searches : Registry.global.Searches (escapeChar c) :=
    Registry.Standard.global.shortSearches (Nat.lt_of_le_of_lt (spellingShort spells) (by decide))
  obtain ⟨t, compiled, still⟩ := compilesTo .global searches written idle
  have program : Engine.Program.build? {} (flags.openNative (escapeChar c)) = some (.ofCharacter c) := by
    rw [FlagSet.openNative, plain, List.nil_append]
    exact Engine.Program.buildSpelling spells
  refine ⟨t, ?_, still⟩
  rw [source, compiled]
  simp only [assemble, Context.start, program]
  rfl

end Pattern
end ExtendedPattern
