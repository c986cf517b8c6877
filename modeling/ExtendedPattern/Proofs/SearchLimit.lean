import ExtendedPattern.Proofs.Recognition
import Mathlib

/-! The search for a plain opening parenthesis. Its pattern looks ahead, so the engine searches
by trial: every character passed over is one step back, and so is the trial of what must not
follow. The search gives up in front of as many characters as there are steps. -/
namespace ExtendedPattern
open Text (size)

namespace Engine

theorem CharSet.singleHas (c d : Char) : (single c).has d = decide (d = c) := by
  rw [Bool.eq_iff_iff]
  simp only [single, has, Bool.and_eq_true, decide_eq_true_eq]
  constructor
  · rintro ⟨low, high⟩
    exact Char.le_antisymm high low
  · rintro rfl
    exact ⟨Char.le_refl d, Char.le_refl d⟩

theorem Cursor.seekSize (front rest before : Text) (offset : Nat) :
    seek (offset + size front) before (front ++ rest) offset =
      ⟨front.reverse ++ before, rest, offset + size front⟩ := by
  induction front generalizing before offset with
  | nil => cases rest <;> simp [seek, size]
  | cons d front ih =>
    have positive := d.utf8Size_pos
    have ahead : ¬ offset + size (d :: front) ≤ offset := by simp only [size]; omega
    have moved : offset + size (d :: front) = offset + d.utf8Size + size front := by simp only [size]; omega
    rw [List.cons_append, seek, if_neg ahead, moved, ih]
    simp

theorem Cursor.ofOffsetSize (front rest : Text) :
    ofOffset (front ++ rest) (size front) = ⟨front.reverse, rest, size front⟩ := by
  simpa [ofOffset] using seekSize front rest [] 0

theorem Lockstep.runOne (s : CharSet) (groups : Nat) (before after : Text) (offset : Nat) :
    run #[.one s] groups ⟨before, after, offset⟩ =
      match after with
      | [] => none
      | d :: rest =>
        if s.has d then some ⟨Slots.blank groups, ⟨d :: before, rest, offset + d.utf8Size⟩⟩ else none := by
  cases after with
  | nil => simp [run, settle, follow, race]
  | cons d rest =>
    cases takes : s.has d <;> cases rest <;>
      simp [run, settle, follow, race, Thread.take?, Thread.move, takes]

end Engine

namespace BuiltinRules
open Engine TokenRule

def plainOpener : Text → Option Groups
  | '(' :: '?' :: _ => none
  | '(' :: _ => some (token 1)
  | _ => none

theorem plainOpenerAnchored : Anchored fun _ => plainOpener := by
  intro _ t found seen
  dsimp only at seen
  unfold plainOpener at seen
  split at seen <;> try contradiction
  cases seen; exact ⟨_, _, rfl⟩

def openerPlan : Plan :=
  .seq [.delegate #[.one (.single '(')] [], .look 0 true (.delegate #[.one (.single '?')] [])]

def openerProgram : Program := ⟨1, .trial openerPlan 0, 1000000⟩

theorem openerBuilt : Program.build? {} "\\((?!\\?)".toList = some openerProgram := by cbv

def openerFound (before after : Text) (offset : Nat) : Backtrack.State :=
  ⟨⟨'(' :: before, after, offset + 1⟩, [some offset, some (offset + 1)], []⟩

theorem openerTried (f : Backtrack.Frame) (before after : Text) (offset budget : Nat) :
    Backtrack.run f (.capture 0 openerPlan) ⟨⟨before, after, offset⟩, Slots.blank 1, []⟩ budget .found =
      match plainOpener after with
      | none => .failed budget
      | some _ => Backtrack.Outcome.orElse (.failed budget) (.found (openerFound before after.tail offset)) := by
  rw [openerPlan, Backtrack.runCapture, Backtrack.runPair]
  cases after with
  | nil => simp [Backtrack.run, Lockstep.runOne, plainOpener, Backtrack.State.mark]
  | cons d rest =>
    by_cases opens : d = '('
    · subst opens
      cases rest with
      | nil =>
        simp [Backtrack.run, Lockstep.runOne, plainOpener, Backtrack.State.mark, CharSet.singleHas, Cursor.back?,
          Backtrack.adopt, Slots.blank, openerFound]
        rfl
      | cons e rest =>
        by_cases asks : e = '?'
        · subst asks
          simp [Backtrack.run, Lockstep.runOne, plainOpener, Backtrack.State.mark, CharSet.singleHas, Cursor.back?]
        · have opener : plainOpener ('(' :: e :: rest) = some (token 1) := by
            unfold plainOpener; split <;> simp_all
          simp [Backtrack.run, Lockstep.runOne, opener, Backtrack.State.mark, CharSet.singleHas, Cursor.back?, asks,
            Backtrack.adopt, Slots.blank, openerFound]
          rfl
    · have other : plainOpener (d :: rest) = none := by
        unfold plainOpener; split <;> simp_all
      simp [Backtrack.run, Lockstep.runOne, other, Backtrack.State.mark, CharSet.singleHas, opens]

theorem openerAnswered (before after : Text) (offset budget : Nat) :
    openerProgram.answer (.found (openerFound before after offset) budget) =
      .ok (some ((token 1).map (·.map (Span.shift offset)))) := by
  simp [Program.answer, Program.groupsOf, openerProgram, openerFound, Slots.span?, Slots.get, Program.startCapped, token,
    Span.shift]

theorem openerShape {t : Text} {groups : Groups} (seen : plainOpener t = some groups) : groups = token 1 := by
  unfold plainOpener at seen
  split at seen <;> cases seen
  rfl

theorem openerSearched (f : Backtrack.Frame) (before after : Text) (offset budget : Nat) :
    openerProgram.answer (Backtrack.search f openerPlan (fun c => ⟨c, Slots.blank 1, []⟩) after before offset budget) =
      if budget ≤ gap (fun _ => plainOpener) after offset then .error ()
      else .ok (seek (fun _ => plainOpener) after offset) := by
  induction after generalizing before offset budget with
  | nil =>
    rw [Backtrack.search, openerTried]
    cases budget <;> simp [plainOpener, Backtrack.Outcome.orElse, gap, seek, Program.answer]
  | cons c rest ih =>
    rw [Backtrack.search, openerTried, gap, seek]
    cases seen : plainOpener (c :: rest) with
    | some groups =>
      obtain rfl := openerShape seen
      cases budget with
      | zero => simp [Backtrack.Outcome.orElse, Program.answer]
      | succ budget => simp [Backtrack.Outcome.orElse, openerAnswered]
    | none =>
      cases budget with
      | zero => simp [Backtrack.Outcome.orElse, Program.answer]
      | succ budget => simpa [Backtrack.Outcome.orElse] using ih (c :: before) (offset + c.utf8Size) budget

theorem finderBuilt {pattern : Text} {program : Program} (built : Program.build? {} pattern = some program) :
    nativeFinder pattern = finderBy program := by
  rw [nativeFinder, built]

theorem plainOpenerFinds : FindsBy plainOpenerRule.find (some 1000000) fun _ => plainOpener := by
  intro before after
  have searched := openerSearched ⟨before ++ after, size before⟩ before.reverse after (size before) 1000000
  have search : openerProgram.search (before ++ after) (size before) =
      if 1000000 ≤ gap (fun _ => plainOpener) after (size before) then .error ()
      else .ok (seek (fun _ => plainOpener) after (size before)) := by
    rw [← searched, Program.search, Cursor.ofOffsetSize]
    rfl
  change nativeFinder _ (before ++ after) (size before) = _
  rw [finderBuilt openerBuilt, finderBy, search, limited]
  simp only [Option.any_some, decide_eq_true_eq]
  split <;> rfl

end BuiltinRules
end ExtendedPattern
