import ExtendedPattern.Balanced

/-! Delimiters of one character. The reference for balance reads a text once, from left to right,
and counts; a search goes from one stretch without delimiters to the next. -/
namespace ExtendedPattern.Balanced
open Text (size)

structure Signs where
  left : Char
  right : Char
  escape : Option Char
  sides : left ≠ right
  leftFree : escape ≠ some left
  rightFree : escape ≠ some right

namespace Signs

variable {m : Signs} {front rest : Text}

variable {c : Char} (depth : Nat) (inside : Text)

end Signs
end ExtendedPattern.Balanced
