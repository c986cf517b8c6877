import ExtendedPattern.Context
import ExtendedPattern.Region
import ExtendedPattern.Session

/-! Token rules. A rule finds its token in the pattern that is being rewritten, and its
handler gives the native text for it. -/
namespace ExtendedPattern

abbrev Groups := List (Option Span)

structure TokenMatch where
  input : Text
  groups : Groups
  deriving DecidableEq, Repr

namespace TokenMatch

def groupSpan? (m : TokenMatch) (index : Nat) : Option Span := (m.groups[index]?).join

def group? (m : TokenMatch) (index : Nat) : Option Text := (m.groupSpan? index).map m.input.slice

def text (m : TokenMatch) : Text := (m.group? 0).getD []

def start (m : TokenMatch) : Nat := ((m.groupSpan? 0).map Span.start).getD 0

def stop (m : TokenMatch) : Nat := ((m.groupSpan? 0).map Span.stop).getD 0

def rest (m : TokenMatch) : Text := m.input.dropBytes m.stop

end TokenMatch

abbrev Finder := Text → Nat → Except Failure (Option Groups)

structure TokenRule where
  pattern : Text
  find : Finder
  handle : TokenMatch → Region → Context → Action (Text × Context)
  regions : RegionSet := .outsideOnly
  trigger : Option (Context → Session → Bool × Session) := none

namespace TokenRule

def finderBy (program : Engine.Program) : Finder := fun input start =>
  (program.search input start).mapError fun _ => .backtrackLimit

def nativeFinder (pattern : Text) : Finder :=
  match Engine.Program.build? {} pattern with
  | none => fun _ _ => .error .nativeRefusal
  | some program => finderBy program

def ofNative (pattern : Text) (handle : TokenMatch → Region → Context → Action (Text × Context)) :
    Except Failure TokenRule :=
  match Engine.Program.build? {} pattern with
  | none => .error .nativeRefusal
  | some program => .ok { pattern, find := finderBy program, handle }

def seek (recognize : Nat → Text → Option Groups) : Text → Nat → Option Groups
  | [], _ => none
  | c :: rest, offset =>
    match recognize offset (c :: rest) with
    | some groups => some (groups.map (·.map (Span.shift offset)))
    | none => seek recognize rest (offset + c.utf8Size)

def finderOf (recognize : Nat → Text → Option Groups) : Finder :=
  fun input start => .ok (seek recognize (input.dropBytes start) (input.boundary start))

def applies (rule : TokenRule) (region : Region) (context : Context) (s : Session) : Bool × Session :=
  if rule.regions.has region then
    match rule.trigger with
    | some trigger => trigger context s
    | none => (true, s)
  else (false, s)

def find? (rule : TokenRule) (input : Text) (start : Nat) : Except Failure (Option TokenMatch) :=
  (rule.find input start).map (·.map fun groups => ⟨input, groups⟩)

def regionNames (s : RegionSet) : Text :=
  match s.inside, s.outside with
  | true, true => "INSIDE_CLASS | OUTSIDE_CLASS".toList
  | true, false => "INSIDE_CLASS".toList
  | false, true => "OUTSIDE_CLASS".toList
  | false, false => "0x0".toList

def describe (rule : TokenRule) : Text :=
  let flag := if rule.trigger.isSome then "true".toList else "false".toList
  "TokenRule ".toList ++ ['{', ' '] ++ "pattern: ".toList ++ Quoted.ofText rule.pattern ++
    ", scope: Scope(".toList ++ regionNames rule.regions ++ "), trigger: ".toList ++ flag ++ [' ', '}']

end TokenRule
end ExtendedPattern
