import ExtendedPattern.Failure

/-! Flags of a pattern, one letter each. -/
namespace ExtendedPattern

inductive Flag where
  | global
  | ignoreCase
  | multiline
  | explicitCapture
  | dotAll
  | extended
  | sticky
  deriving DecidableEq, Repr

namespace Flag

def all : List Flag := [global, ignoreCase, multiline, explicitCapture, dotAll, extended, sticky]

def letter : Flag → Char
  | global => 'g'
  | ignoreCase => 'i'
  | multiline => 'm'
  | explicitCapture => 'n'
  | dotAll => 's'
  | extended => 'x'
  | sticky => 'y'

def ofLetter? (c : Char) : Option Flag := all.find? (·.letter == c)

def bit : Flag → BitVec 7
  | global => 1
  | ignoreCase => 2
  | multiline => 4
  | explicitCapture => 8
  | dotAll => 16
  | extended => 32
  | sticky => 64

theorem ofLetterLetter (f : Flag) : ofLetter? f.letter = some f := by cases f <;> rfl

end Flag

structure FlagSet where
  bits : BitVec 7
  deriving DecidableEq, Repr

namespace FlagSet

def empty : FlagSet := ⟨0⟩

def single (f : Flag) : FlagSet := ⟨f.bit⟩

def union (a b : FlagSet) : FlagSet := ⟨a.bits ||| b.bits⟩

def inter (a b : FlagSet) : FlagSet := ⟨a.bits &&& b.bits⟩

def diff (a b : FlagSet) : FlagSet := ⟨a.bits &&& ~~~b.bits⟩

def has (s : FlagSet) (f : Flag) : Bool := s.bits &&& f.bit != 0

def includes (a b : FlagSet) : Bool := a.inter b == b

def intersects (a b : FlagSet) : Bool := a.inter b != empty

def ofList (fs : List Flag) : FlagSet := fs.foldl (fun s f => s.union (single f)) empty

def toList (s : FlagSet) : List Flag := Flag.all.filter s.has

def letters (s : FlagSet) : Text := s.toList.map Flag.letter

def ofLetters (letters : Text) : Except Failure FlagSet :=
  letters.foldlM (fun s c =>
    match Flag.ofLetter? c with
    | some f => .ok (s.union (single f))
    | none => .error (.unknownFlag c)) empty

def native : FlagSet := ofList [.ignoreCase, .multiline]

def nativeOpener (s : FlagSet) : Text :=
  let known := s.inter native
  if known = empty then [] else ['(', '?'] ++ known.letters ++ [')']

def openNative (s : FlagSet) (pattern : Text) : Text := s.nativeOpener ++ pattern

end FlagSet
end ExtendedPattern
