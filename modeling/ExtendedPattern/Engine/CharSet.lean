import ExtendedPattern.Unicode.CharClasses
import ExtendedPattern.Unicode.WordChars
import ExtendedPattern.Unicode.CaseFolding

/-! Sets of characters, as the native engine tests one character of a subject. -/
namespace ExtendedPattern.Engine

inductive CharSet where
  | empty
  | range (first last : Char)
  | digit
  | space
  | word
  | complement (s : CharSet)
  | union (a b : CharSet)
  | inter (a b : CharSet)
  | caseless (s : CharSet)
  deriving DecidableEq, Repr

namespace CharSet

def has : CharSet → Char → Bool
  | empty, _ => false
  | range first last, c => first ≤ c && c ≤ last
  | digit, c => Unicode.isDigit c
  | space, c => Unicode.isSpace c
  | word, c => Unicode.isWord c
  | complement s, c => !s.has c
  | union a b, c => a.has c || b.has c
  | inter a b, c => a.has c && b.has c
  | caseless s, c => (Unicode.caseOrbit c).any (fun d => s.has d)

def single (c : Char) : CharSet := range c c

def diff (a b : CharSet) : CharSet := inter a (complement b)

def symmDiff (a b : CharSet) : CharSet := union (diff a b) (diff b a)

def underCase (ignore : Bool) (s : CharSet) : CharSet := if ignore then caseless s else s

def underNegation (negated : Bool) (s : CharSet) : CharSet := if negated then complement s else s

def ofRanges : List (Char × Char) → CharSet
  | [] => empty
  | r :: rest => union (range r.1 r.2) (ofRanges rest)

def notLineFeed : CharSet := complement (single '\n')

def anything : CharSet := complement empty

def hexDigits : CharSet := ofRanges [('0', '9'), ('A', 'F'), ('a', 'f')]

def weight : CharSet → Nat
  | empty => 32
  | range _ last => if last.toNat < 0x80 then 32 else 64
  | digit => 32 * Unicode.digitRanges.size
  | space => 32 * Unicode.spaceRanges.size
  | word => 64 * Unicode.wordRanges.size
  | complement s => s.weight + 64
  | union a b => a.weight + b.weight
  | inter a b => a.weight + b.weight
  | caseless s => 2 * s.weight

end CharSet
end ExtendedPattern.Engine
