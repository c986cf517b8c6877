/-! Where in a pattern the rewriting stands: inside a character class or outside. -/
namespace ExtendedPattern

inductive Region where
  | inside
  | outside
  deriving DecidableEq, Repr

def Region.bit : Region → Nat
  | .inside => 1
  | .outside => 2

structure RegionSet where
  inside : Bool
  outside : Bool
  deriving DecidableEq, Repr

namespace RegionSet

def outsideOnly : RegionSet := ⟨false, true⟩

def both : RegionSet := ⟨true, true⟩

def ofBits (bits : Nat) : RegionSet := ⟨bits.testBit 0, bits.testBit 1⟩

def has (s : RegionSet) : Region → Bool
  | .inside => s.inside
  | .outside => s.outside

end RegionSet
end ExtendedPattern
