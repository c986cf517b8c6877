import ExtendedPattern.Balanced
import ExtendedPattern.Replace
import ExtendedPattern.TokenRule

/-! Token rules written as data. A script first acts on the compilation, then either fails
or puts the native text together from parts, in order; the first part that fails ends it. -/
namespace ExtendedPattern

namespace RuleScript

inductive Effect where
  | setFlags (letters : Text)
  | openGroup (name : Option Text)
  deriving DecidableEq, Repr

inductive Fact where
  | token
  | start
  | stop
  | rest
  | pattern
  | region
  | groupCount
  | hasNamed
  | flags
  deriving DecidableEq, Repr

inductive Part where
  | text (t : Text)
  | group (index : Nat)
  | fact (f : Fact)
  | slot (name : Text)
  | compiled (source : Text)
  | cached (source : Text)
  | replaced (subject search template : Text)
  | balanced (subject : Text)
  deriving DecidableEq, Repr

inductive Condition where
  | hasFlags (flags : FlagSet)
  | groupsAtLeast (n : Nat)
  | namedIs (expected : Bool)
  | refuses (source : Text)
  | always (answer : Bool)
  deriving DecidableEq, Repr

def Effect.apply (context : Context) : Effect → Except Failure Context
  | setFlags letters => (FlagSet.ofLetters letters).map context.setFlags
  | openGroup name => .ok (context.push name)

def boolText (b : Bool) : Text := if b then "true".toList else "false".toList

def Fact.text (m : TokenMatch) (place : Region) (context : Context) : Fact → Text
  | token => m.text
  | start => Text.decimal m.start
  | stop => Text.decimal m.stop
  | rest => m.rest
  | pattern => m.input
  | region => Text.decimal place.bit
  | groupCount => Text.decimal context.slots.length
  | hasNamed => boolText context.hasNamed
  | flags => context.flags.letters

def slotText (context : Context) (name : Text) : Text :=
  match context.index? name with
  | some index => Text.decimal index
  | none => "none".toList

def parenthesisCount (subject : Text) : Action Text := do
  let found ← matchBalanced subject ['\\', '('] ['\\', ')'] [] {}
  Action.ok (Text.decimal found.count)

def Part.evaluate (m : TokenMatch) (region : Region) (context : Context) : Part → Action Text
  | text t => Action.ok t
  | group index => Action.ok ((m.group? index).getD "<none>".toList)
  | fact f => Action.ok (f.text m region context)
  | slot name => Action.ok (slotText context name)
  | compiled source => do
    let p ← Pattern.ofText source
    Action.ok p.native
  | cached source => do
    let p ← Pattern.cached source []
    Action.ok p.native
  | replaced subject search template => Action.ofExcept (replaceLiteral subject search template true)
  | balanced subject => parenthesisCount subject

def Condition.holds (context : Context) : Condition → Session → Bool × Session
  | hasFlags flags, s => (context.flags.includes flags, s)
  | groupsAtLeast n, s => (n ≤ context.slots.length, s)
  | namedIs expected, s => (context.hasNamed == expected, s)
  | refuses source, s =>
    match Pattern.ofText source s with
    | (.error .reentrantCompilation, s) => (true, s)
    | (_, s) => (false, s)
  | always answer, s => (answer, s)

end RuleScript

structure RuleScript where
  effects : List RuleScript.Effect := []
  failure : Option Failure := none
  parts : List RuleScript.Part := []

namespace RuleScript

def assemble (m : TokenMatch) (region : Region) (context : Context) : List Part → Action Text
  | [] => Action.ok []
  | part :: rest => do
    let first ← part.evaluate m region context
    let more ← assemble m region context rest
    Action.ok (first ++ more)

def run (script : RuleScript) (m : TokenMatch) (region : Region) (context : Context) :
    Action (Text × Context) := do
  let context ← Action.ofExcept (script.effects.foldlM Effect.apply context)
  match script.failure with
  | some failure => Action.fail failure
  | none => do
    let t ← assemble m region context script.parts
    Action.ok (t, context)

def toRule (script : RuleScript) (pattern : Text) (regions : RegionSet) (trigger : Option Condition) :
    Except Failure TokenRule :=
  (TokenRule.ofNative pattern script.run).map fun rule =>
    { rule with regions, trigger := trigger.map fun c context => c.holds context }

end RuleScript
end ExtendedPattern
