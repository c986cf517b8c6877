/-! Tables of character properties: sorted disjoint ranges for a set, runs of equal
distance for a map from characters to characters. -/
namespace ExtendedPattern.Unicode

abbrev RangeTable := Array (Nat × Nat)

def searchRanges (ranges : RangeTable) (c : Nat) : Nat → Nat → Nat → Bool
  | 0, _, _ => false
  | depth + 1, low, high =>
    if low < high then
      let middle := (low + high) / 2
      match ranges[middle]? with
      | none => false
      | some (first, last) =>
        if c < first then searchRanges ranges c depth low middle
        else if last < c then searchRanges ranges c depth (middle + 1) high
        else true
    else false

def inRanges (ranges : RangeTable) (c : Char) : Bool :=
  searchRanges ranges c.toNat (ranges.size.log2 + 1) 0 ranges.size

structure MappingRun where
  first : Nat
  last : Nat
  step : Nat
  target : Nat

namespace MappingRun

def image? (run : MappingRun) (c : Char) : Option Char :=
  if run.first ≤ c.toNat ∧ c.toNat ≤ run.last ∧ (c.toNat - run.first) % run.step = 0 then
    some (Char.ofNat (run.target + (c.toNat - run.first)))
  else none

def source? (run : MappingRun) (image : Char) : Option Char :=
  if run.target ≤ image.toNat ∧ image.toNat - run.target ≤ run.last - run.first ∧
      (image.toNat - run.target) % run.step = 0 then
    some (Char.ofNat (run.first + (image.toNat - run.target)))
  else none

end MappingRun

def mapBy (runs : List MappingRun) (c : Char) : Char := (runs.findSome? (·.image? c)).getD c

end ExtendedPattern.Unicode
