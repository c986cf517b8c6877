import ExtendedPattern.Failure

/-! One match: the searched text, the span of every group, and the names of the pattern
that found it. -/
namespace ExtendedPattern

structure Match where
  input : Text
  groups : List (Option Span)
  names : Option (List (Option Text))
  deriving DecidableEq, Repr

namespace Match

def groupSpan? (m : Match) (index : Nat) : Option Span := (m.groups[index]?).join

def range (m : Match) : Span := (m.groupSpan? 0).getD ⟨0, 0⟩

def start (m : Match) : Nat := m.range.start

def stop (m : Match) : Nat := m.range.stop

def isEmpty (m : Match) : Bool := m.range.isEmpty

def text (m : Match) : Text := m.input.slice m.range

def group? (m : Match) (index : Nat) : Option Text := (m.groupSpan? index).map m.input.slice

def nameIndex? (m : Match) (name : Text) : Option Nat :=
  m.names.bind fun names => (names.findIdx? (· == some name)).map (· + 1)

def named? (m : Match) (name : Text) : Option Text := (m.nameIndex? name).bind m.group?

def named (m : Match) : List (Text × Option Text) :=
  (m.names.getD []).zipIdx.filterMap fun (name, slot) => name.map (·, m.group? (slot + 1))

def groupCount (m : Match) : Nat := m.groups.length

def texts (m : Match) : List (Option Text) := m.groups.map (·.map m.input.slice)

def before (m : Match) : Text := m.input.takeBytes m.start

def after (m : Match) : Text := m.input.dropBytes m.stop

def groupOrFail (m : Match) (index : Nat) : Except Failure Text :=
  match m.group? index with
  | some t => .ok t
  | none => .error (.absentIndex (.group index))

def namedOrFail (m : Match) (name : Text) : Except Failure Text :=
  match m.named? name with
  | some t => .ok t
  | none => .error (.absentName name)

end Match
end ExtendedPattern
