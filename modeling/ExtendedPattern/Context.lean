import ExtendedPattern.Flags

/-! What a compilation has gathered so far: one slot for every capturing group, in the
order of the opening parentheses, and the flags in effect. -/
namespace ExtendedPattern

structure Context where
  slots : List (Option Text) := []
  flags : FlagSet := .empty
  deriving DecidableEq, Repr

namespace Context

def start (flags : FlagSet) : Context := ⟨[], flags⟩

def hasNamed (c : Context) : Bool := c.slots.any Option.isSome

def has (c : Context) (flag : Flag) : Bool := c.flags.has flag

def setFlags (c : Context) (flags : FlagSet) : Context := { c with flags := c.flags.union flags }

def push (c : Context) (name : Option Text) : Context := { c with slots := c.slots ++ [name] }

def index? (c : Context) (name : Text) : Option Nat := c.slots.findIdx? (· == some name)

def names (c : Context) : Option (List (Option Text)) := if c.hasNamed then some c.slots else none

end Context
end ExtendedPattern
