import ExtendedPattern.Proofs.CanonicalSets

/-! The complement of a set in the basic plane. The gaps of a canonical set are canonical again, their ends are found with
numbers of 32 bits, and the gaps between the gaps are the ranges of the set. -/
namespace ExtendedPattern.CodePointSet

def sum? (a b : Nat) : Option Nat := if a + b < 2 ^ 32 then some (a + b) else none

def difference? (a b : Nat) : Option Nat := if b ≤ a then some (a - b) else none

def checkedGaps (next : Nat) : List (Nat × Nat) → Option (List (Nat × Nat))
  | [] => some (if next ≤ lastCodePoint then [(next, lastCodePoint)] else [])
  | r :: rest => do
    let before ← if next < r.1 then (difference? r.1 1).map fun last => [(next, last)] else some []
    let next ← sum? r.2 1
    let behind ← checkedGaps next rest
    some (before ++ behind)

def checkedInvert (s : CodePointSet) : Option CodePointSet := (checkedGaps 0 s.ranges).map mk

variable {n low : Nat} {rs : List (Nat × Nat)} {s : CodePointSet}

theorem gapsChecked (ascend : Ascend low rs) : checkedGaps low rs = some (gaps low rs) := by
  induction rs generalizing low with
  | nil => rfl
  | cons r rest ih =>
    obtain ⟨order, inner, outer, later⟩ := ascend
    have step : sum? r.2 1 = some (r.2 + 1) := by
      have small : r.2 + 1 < 2 ^ 32 := Nat.lt_of_le_of_lt (Nat.succ_le_succ outer) (by decide)
      exact if_pos small
    rw [checkedGaps, gaps]
    split
    · rename_i apart
      have back : difference? r.1 1 = some (r.1 - 1) := if_pos (Nat.lt_of_le_of_lt (Nat.zero_le low) apart)
      simp [back, step, ih later]
    · simp [step, ih later]

theorem invertChecked (canonical : s.Canonical) : s.checkedInvert = some s.invert :=
  congrArg (Option.map mk) (gapsChecked canonical.ascends)

example : checkedInvert ⟨[]⟩ = some ⟨[(0, 0xFFFF)]⟩ ∧ checkedInvert ⟨[(0, 0xFFFF)]⟩ = some ⟨[]⟩ := by decide

theorem Canonical.invert (canonical : s.Canonical) : s.invert.Canonical := canonicalIff.mpr (gapsSpaced canonical.ascends)

theorem Canonical.inverted (canonical : s.Canonical) : Within s.invert.ranges n ↔ n ≤ lastCodePoint ∧ ¬ Within s.ranges n :=
  (invertKeeps canonical.ascends).2 n

theorem Canonical.plane (canonical : s.Canonical) (within : Within s.ranges n) : n ≤ lastCodePoint := by
  obtain ⟨r, mem, _, behind⟩ := within
  exact Nat.le_trans behind (canonical.inside r mem).2

theorem Canonical.invertedTwice (canonical : s.Canonical) : s.invert.invert = s := by
  refine canonical.invert.invert.unique canonical fun n => ?_
  calc Within s.invert.invert.ranges n
    _ ↔ n ≤ lastCodePoint ∧ ¬ (n ≤ lastCodePoint ∧ ¬ Within s.ranges n) := by rw [canonical.invert.inverted, canonical.inverted]
    _ ↔ n ≤ lastCodePoint ∧ Within s.ranges n := by
      rw [not_and, not_not]
      exact and_congr_right fun inside => forall_prop_of_true inside
    _ ↔ Within s.ranges n := and_iff_right_of_imp canonical.plane

/-- The complement of a set that was read has the other code points of the basic plane, in canonical ranges. No number
leaves the 32 bits, there or on the way back, and the way back leads to the set. -/
theorem complementOfParsed {data : Text} (read : parse data = .ok s) :
    (∀ n, Within s.invert.ranges n ↔ n ≤ 0xFFFF ∧ ¬ Within s.ranges n) ∧
      s.invert.Canonical ∧
      s.checkedInvert = some s.invert ∧ s.invert.checkedInvert = some s.invert.invert ∧
      s.invert.invert = s := by
  have canonical := parsedCanonical read
  exact ⟨fun n => canonical.inverted, canonical.invert, invertChecked canonical, invertChecked canonical.invert,
    canonical.invertedTwice⟩

theorem complementBetweenEnds :
    parse "FFFF0041-005A00000040".toList = .ok ⟨[(0, 0), (0x40, 0x5A), (0xFFFF, 0xFFFF)]⟩ ∧
      invert ⟨[(0, 0), (0x40, 0x5A), (0xFFFF, 0xFFFF)]⟩ = ⟨[(1, 0x3F), (0x5B, 0xFFFE)]⟩ ∧
      invert ⟨[(1, 0x3F), (0x5B, 0xFFFE)]⟩ = ⟨[(0, 0), (0x40, 0x5A), (0xFFFF, 0xFFFF)]⟩ ∧
      checkedInvert ⟨[(1, 0x3F), (0x5B, 0xFFFE)]⟩ = some ⟨[(0, 0), (0x40, 0x5A), (0xFFFF, 0xFFFF)]⟩ := by
  have read : parse "FFFF0041-005A00000040".toList = .ok ⟨[(0, 0), (0x40, 0x5A), (0xFFFF, 0xFFFF)]⟩ := by decide
  obtain ⟨_, _, _, checked, twice⟩ := complementOfParsed read
  have inverted : invert ⟨[(0, 0), (0x40, 0x5A), (0xFFFF, 0xFFFF)]⟩ = ⟨[(1, 0x3F), (0x5B, 0xFFFE)]⟩ := by decide
  rw [inverted] at checked twice
  exact ⟨read, inverted, twice, checked.trans (congrArg some twice)⟩

end ExtendedPattern.CodePointSet
