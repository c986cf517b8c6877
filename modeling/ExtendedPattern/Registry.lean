import ExtendedPattern.BuiltinRules
import ExtendedPattern.UnicodeNames
import ExtendedPattern.Unicode.Categories
import ExtendedPattern.Unicode.Scripts
import ExtendedPattern.Unicode.Blocks

/-! Registries: token rules in order of registration, and the Unicode names that one of them
reads. A registry takes additions only while it is enabled. -/
namespace ExtendedPattern

inductive Registration where
  | rule (r : TokenRule)
  | unicodeNames

structure Registry where
  registrations : List Registration := []
  enabled : Bool := false
  names : UnicodeNames := .empty
  hasUnicodeRule : Bool := false

namespace Registry

abbrev Change := Except Failure (Registry × List Event)

def empty : Registry := {}

def size (r : Registry) : Nat := r.registrations.length

def enable (r : Registry) : Registry × List Event :=
  ({ r with enabled := true }, [.extensibilityEnabled])

def disable (r : Registry) : Registry × List Event :=
  ({ r with enabled := false }, [.extensibilityDisabled])

def append (r : Registry) (entry : Registration) : Registry :=
  { r with registrations := r.registrations ++ [entry] }

def register (r : Registry) (rule : TokenRule) : Change :=
  if r.enabled then .ok (r.append (.rule rule), [.ruleRegistered rule.pattern])
  else .error .extensibilityDisabled

def addUnicodeRule (r : Registry) : Registry × List Event :=
  if r.hasUnicodeRule then (r, [])
  else
    ({ r.append .unicodeNames with hasUnicodeRule := true },
      [.ruleRegistered (UnicodeNames.rule .empty).pattern])

def addUnicodeNames (r : Registry) (mapping aliases : List (Text × Text)) : Change :=
  if r.enabled then do
    let (names, unknown) ← r.names.add mapping aliases
    let (r, registered) := { r with names }.addUnicodeRule
    .ok (r, unknown ++ registered ++ [.namesRegistered mapping.length aliases.length])
  else .error .extensibilityDisabled

def hasUnicodeName (r : Registry) (name : Text) : Bool := r.names.contains name

def rules (r : Registry) : List TokenRule :=
  r.registrations.reverse.map fun
    | .rule rule => rule
    | .unicodeNames => r.names.rule

def whileEnabled (r : Registry) (change : Registry → Change) : Change :=
  if r.enabled then change r
  else do
    let (r, before) := r.enable
    let (r, events) ← change r
    let (r, after) := r.disable
    .ok (r, before ++ events ++ after)

def installCategories (r : Registry) : Change :=
  r.whileEnabled fun r =>
    r.addUnicodeNames Unicode.categories.texts
      (Unicode.categoryAliases.map fun (known, new) => (known.toList, new.toList))

def installScripts (r : Registry) : Change :=
  r.whileEnabled fun r => r.addUnicodeNames Unicode.scripts.texts []

def installBlocks (r : Registry) : Change :=
  r.whileEnabled fun r => r.addUnicodeNames Unicode.blocks.texts []

def installAll (r : Registry) : Change := do
  let (r, first) ← r.installCategories
  let (r, second) ← r.installScripts
  let (r, third) ← r.installBlocks
  .ok (r, first ++ second ++ third)

def registerAll (r : Registry) : List TokenRule → Change
  | [] => .ok (r, [])
  | rule :: rest => do
    let (r, first) ← r.register rule
    let (r, more) ← r.registerAll rest
    .ok (r, first ++ more)

def withBuiltins : Change := empty.whileEnabled fun r => r.registerAll BuiltinRules.all

def orEmpty (change : Change) : Registry :=
  match change with
  | .ok (r, _) => r
  | .error _ => empty

def builtins : Registry := orEmpty withBuiltins

def global : Registry := orEmpty (builtins.installAll)

end Registry
end ExtendedPattern
