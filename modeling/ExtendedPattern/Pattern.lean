import ExtendedPattern.Engine.Program
import ExtendedPattern.Flags
import ExtendedPattern.Match

/-! Compiled patterns: the text as written, the native text it was rewritten to, the native
program, the names of its groups and a cursor for searches that go on. -/
namespace ExtendedPattern

structure Pattern where
  source : Text
  native : Text
  flags : FlagSet
  program : Engine.Program
  names : Option (List (Option Text))
  limits : Engine.Limits
  cursor : Nat

namespace Pattern

def assemble (source native : Text) (flags : FlagSet) (names : Option (List (Option Text)))
    (limits : Engine.Limits) : Except Failure Pattern :=
  match Engine.Program.build? limits (flags.openNative native) with
  | some program => .ok { source, native, flags, program, names, limits, cursor := 0 }
  | none => .error .nativeRefusal

def ofNative (native : Text) (flags : FlagSet) : Except Failure Pattern :=
  assemble native native flags none {}

/-- A copy with other flags, built from the native text: the flags that work on the rewriting
keep the effect they had. -/
def copyWith (p : Pattern) (add remove : FlagSet) : Except Failure Pattern :=
  if add.intersects remove then
    .error (.flagConflict ((add.inter remove).letters ++ " both added and removed".toList))
  else assemble p.source p.native ((p.flags.union add).diff remove) p.names p.limits

def isGlobal (p : Pattern) : Bool := p.flags.has .global

def isSticky (p : Pattern) : Bool := p.flags.has .sticky

def groupCount (p : Pattern) : Nat := p.program.groups - 1

def moveTo (p : Pattern) (cursor : Nat) : Pattern := { p with cursor }

end Pattern
end ExtendedPattern
