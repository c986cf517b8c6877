import ExtendedPattern.Failure

/-! Sets of code points of the basic plane, written as a run of items `XXXX` or
`XXXX-YYYY` and kept as ascending ranges with a gap between any two. -/
namespace ExtendedPattern

structure CodePointSet where
  ranges : List (Nat × Nat)
  deriving DecidableEq, Repr

namespace CodePointSet

def hexValue? (c : Char) : Option Nat :=
  if '0' ≤ c ∧ c ≤ '9' then some (c.toNat - '0'.toNat)
  else if 'a' ≤ c ∧ c ≤ 'f' then some (c.toNat - 'a'.toNat + 10)
  else if 'A' ≤ c ∧ c ≤ 'F' then some (c.toNat - 'A'.toNat + 10)
  else none

def hexNumber? (digits : List Char) : Option Nat :=
  digits.foldlM (fun n c => (hexValue? c).map (16 * n + ·)) 0

def field? (a b c d : Char) : Option Nat :=
  if a = '+' then hexNumber? [b, c, d] else hexNumber? [a, b, c, d]

def items? : Text → Option (List (Nat × Nat))
  | a :: b :: c :: d :: '-' :: e :: f :: g :: h :: rest => do
    let first ← field? a b c d
    let last ← field? e f g h
    if first ≤ last then
      let more ← items? rest
      some ((first, last) :: more)
    else none
  | a :: b :: c :: d :: rest => do
    let one ← field? a b c d
    let more ← items? rest
    some ((one, one) :: more)
  | [] => some []
  | _ => none

def join (acc : List (Nat × Nat)) (r : Nat × Nat) : List (Nat × Nat) :=
  match acc with
  | [] => [r]
  | last :: before =>
    if r.1 ≤ last.2 + 1 then (last.1, max last.2 r.2) :: before else r :: last :: before

def byStart (a b : Nat × Nat) : Bool := a.1 < b.1 || (a.1 == b.1 && a.2 ≤ b.2)

def insertRange (r : Nat × Nat) : List (Nat × Nat) → List (Nat × Nat)
  | [] => [r]
  | s :: rest => if byStart r s then r :: s :: rest else s :: insertRange r rest

def ofRanges (rs : List (Nat × Nat)) : CodePointSet :=
  ⟨((rs.foldr insertRange []).foldl join []).reverse⟩

def parse (data : Text) : Except Failure CodePointSet :=
  match items? data with
  | some rs => .ok (ofRanges rs)
  | none => .error (.malformedToken ("bad code point data: ".toList ++ Quoted.ofText data))

def has (s : CodePointSet) (n : Nat) : Bool := s.ranges.any (fun r => r.1 ≤ n && n ≤ r.2)

def lastCodePoint : Nat := 0xFFFF

def gaps (next : Nat) : List (Nat × Nat) → List (Nat × Nat)
  | [] => if next ≤ lastCodePoint then [(next, lastCodePoint)] else []
  | r :: rest =>
    if next < r.1 then (next, r.1 - 1) :: gaps (r.2 + 1) rest else gaps (r.2 + 1) rest

def invert (s : CodePointSet) : CodePointSet := ⟨gaps 0 s.ranges⟩

def withoutSurrogates (r : Nat × Nat) : List (Nat × Nat) :=
  if r.2 < 0xD800 || 0xDFFF < r.1 then [r]
  else (if r.1 < 0xD800 then [(r.1, 0xD7FF)] else []) ++
    (if 0xDFFF < r.2 then [(0xE000, r.2)] else [])

def unit (n : Nat) : Text := ['\\', 'u'] ++ Text.hex true 4 n

def renderRange (r : Nat × Nat) : Text :=
  if r.1 = r.2 then unit r.1 else unit r.1 ++ '-' :: unit r.2

def classBody (s : CodePointSet) : Text := (s.ranges.flatMap withoutSurrogates).flatMap renderRange

end CodePointSet
end ExtendedPattern
