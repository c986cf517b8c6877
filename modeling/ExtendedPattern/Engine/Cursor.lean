import ExtendedPattern.Engine.Tree

/-! Positions in a subject: what stands before, nearest first, and what follows. -/
namespace ExtendedPattern.Engine

structure Cursor where
  before : Text
  after : Text
  offset : Nat
  deriving DecidableEq, Repr

namespace Cursor

def start (subject : Text) : Cursor := ⟨[], subject, 0⟩

def next? (c : Cursor) : Option (Char × Cursor) :=
  match c.after with
  | [] => none
  | d :: rest => some (d, ⟨d :: c.before, rest, c.offset + d.utf8Size⟩)

def back? : Nat → Cursor → Option Cursor
  | 0, c => some c
  | n + 1, c =>
    match c.before with
    | [] => none
    | d :: rest => back? n ⟨rest, d :: c.after, c.offset - d.utf8Size⟩

def seek (n : Nat) : Text → Text → Nat → Cursor
  | before, [], offset => ⟨before, [], offset⟩
  | before, d :: rest, offset =>
    if n ≤ offset then ⟨before, d :: rest, offset⟩
    else seek n (d :: before) rest (offset + d.utf8Size)

def ofOffset (subject : Text) (n : Nat) : Cursor := seek n [] subject 0

def wordBefore (c : Cursor) : Bool := (c.before.head?.map Unicode.isWord).getD false

def wordAfter (c : Cursor) : Bool := (c.after.head?.map Unicode.isWord).getD false

def satisfies (c : Cursor) : Assertion → Bool
  | .startText => c.before.isEmpty
  | .endText => c.after.isEmpty
  | .startLine => c.before.isEmpty || c.before.head? == some '\n'
  | .endLine => c.after.isEmpty || c.after.head? == some '\n'
  | .wordBoundary => c.wordBefore != c.wordAfter
  | .notWordBoundary => c.wordBefore == c.wordAfter
  | .wordStart => !c.wordBefore && c.wordAfter
  | .wordEnd => c.wordBefore && !c.wordAfter

end Cursor

abbrev Slots := List (Option Nat)

namespace Slots

def blank (groups : Nat) : Slots := List.replicate (2 * groups) none

def get (s : Slots) (i : Nat) : Option Nat := (s[i]?).getD none

def span? (s : Slots) (group : Nat) : Option Span :=
  match s.get (2 * group), s.get (2 * group + 1) with
  | some start, some stop => some ⟨start, stop⟩
  | _, _ => none

end Slots
end ExtendedPattern.Engine
