/-! Text is a list of characters. Every offset into it counts UTF-8 bytes, and an
offset inside a character stands for the boundary behind it. -/
namespace ExtendedPattern

abbrev Text := List Char

structure Span where
  start : Nat
  stop : Nat
  deriving DecidableEq, Repr

def Span.isEmpty (s : Span) : Bool := s.start == s.stop

def Span.shift (offset : Nat) (s : Span) : Span := ⟨offset + s.start, offset + s.stop⟩

namespace Text

def size : Text → Nat
  | [] => 0
  | c :: rest => c.utf8Size + size rest

def dropBytes : Text → Nat → Text
  | [], _ => []
  | c :: rest, n => if n = 0 then c :: rest else dropBytes rest (n - c.utf8Size)

def takeBytes : Text → Nat → Text
  | [], _ => []
  | c :: rest, n => if n = 0 then [] else c :: takeBytes rest (n - c.utf8Size)

def slice (t : Text) (s : Span) : Text := takeBytes (dropBytes t s.start) (s.stop - s.start)

def boundary (t : Text) (n : Nat) : Nat := size (takeBytes t n)

def stepFrom (t : Text) (n : Nat) : Nat :=
  match dropBytes t n with
  | [] => n + 1
  | c :: _ => n + c.utf8Size

theorem takeBytesDropBytes (t : Text) (n : Nat) : takeBytes t n ++ dropBytes t n = t := by
  induction t generalizing n with
  | nil => rfl
  | cons c rest ih =>
    unfold takeBytes dropBytes
    split
    · rfl
    · simp [ih]

theorem sizeAppend (a b : Text) : size (a ++ b) = size a + size b := by
  induction a with
  | nil => simp [size]
  | cons c rest ih => simp [size, ih, Nat.add_assoc]

theorem dropBytesSize (a b : Text) : dropBytes (a ++ b) (size a) = b := by
  induction a with
  | nil => cases b <;> simp [size, dropBytes]
  | cons c rest ih =>
    have pos : c.utf8Size ≠ 0 := Nat.pos_iff_ne_zero.mp c.utf8Size_pos
    simp [size, dropBytes, pos, ih]

theorem takeBytesSize (a b : Text) : takeBytes (a ++ b) (size a) = a := by
  induction a with
  | nil => cases b <;> simp [size, takeBytes]
  | cons c rest ih =>
    have pos : c.utf8Size ≠ 0 := Nat.pos_iff_ne_zero.mp c.utf8Size_pos
    simp [size, takeBytes, pos, ih]

theorem takeBytesFront (c : Char) (front rest : Text) : takeBytes (c :: (front ++ rest)) (size (c :: front)) = c :: front :=
  takeBytesSize (c :: front) rest

theorem takeBytesHead (c : Char) (rest : Text) : takeBytes (c :: rest) c.utf8Size = [c] :=
  takeBytesFront c [] rest

def hex (upper : Bool) (width n : Nat) : Text :=
  let digits := Nat.toDigits 16 n
  let digits := if upper then digits.map Char.toUpper else digits
  List.replicate (width - digits.length) '0' ++ digits

def decimal (n : Nat) : Text := Nat.toDigits 10 n

end Text
end ExtendedPattern
