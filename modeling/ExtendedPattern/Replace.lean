import ExtendedPattern.Escape
import ExtendedPattern.Iteration
import ExtendedPattern.Template

/-! Replacing matches, by a template or by a function that may remember what it has seen. -/
namespace ExtendedPattern

abbrev Replacer (σ : Type) := σ → Match → Except Failure (Text × σ)

def Replacer.ofTemplate (template : Text) : Replacer Unit :=
  fun _ m => .ok (Template.expand template m, ())

inductive Substitution where
  | template (t : Text)
  | position
  | ordinal
  | bracketed
  | group (index : Nat)
  | groupNamed (name : Text)
  deriving DecidableEq, Repr

def Substitution.replacer : Substitution → Replacer Nat
  | template t, seen, m => .ok (Template.expand t m, seen + 1)
  | position, seen, m => .ok ('<' :: Text.decimal m.start ++ ['>'], seen + 1)
  | ordinal, seen, _ => .ok ('#' :: Text.decimal (seen + 1), seen + 1)
  | bracketed, seen, m => .ok ('[' :: m.text ++ "]$&".toList, seen + 1)
  | group index, seen, m => (m.groupOrFail index).map (·, seen + 1)
  | groupNamed name, seen, m => (m.namedOrFail name).map (·, seen + 1)

namespace Replace

def goOn {σ : Type} (search : Iteration.Searcher) (replacer : Replacer σ) (subject : Text)
    (all : Bool) : Nat → Nat → Nat → σ → Except Failure Text
  | 0, _, _, _ => .error .endless
  | fuel + 1, start, lastEnd, state => do
    match ← search start with
    | none => .ok (subject.dropBytes lastEnd)
    | some m =>
      let gap ← subject.between ⟨lastEnd, m.start⟩
      let (replacement, state) ← replacer state m
      let more ←
        if all then goOn search replacer subject all fuel m.resume m.stop state
        else .ok (subject.dropBytes m.stop)
      .ok (gap ++ replacement ++ more)

end Replace

namespace Pattern

def replaceWith {σ : Type} (p : Pattern) (subject : Text) (replacer : Replacer σ) (state : σ)
    (all : Bool) : Except Failure (Text × Pattern) := do
  let text ← Replace.goOn (p.searcher subject) replacer subject all (Iteration.rounds subject) 0 0 state
  .ok (text, if p.isGlobal then p.moveTo 0 else p)

def replace {σ : Type} (p : Pattern) (subject : Text) (replacer : Replacer σ) (state : σ) :
    Except Failure (Text × Pattern) :=
  p.replaceWith subject replacer state p.isGlobal

def replaceFirst {σ : Type} (p : Pattern) (subject : Text) (replacer : Replacer σ) (state : σ) :
    Except Failure (Text × Pattern) :=
  p.replaceWith subject replacer state false

def replaceAll {σ : Type} (p : Pattern) (subject : Text) (replacer : Replacer σ) (state : σ) :
    Except Failure (Text × Pattern) :=
  p.replaceWith subject replacer state true

end Pattern

def replaceLiteral (subject search template : Text) (all : Bool) : Except Failure Text := do
  let p ← Pattern.ofNative (escape search) (if all then .single .global else .empty)
  let (text, _) ← p.replaceWith subject (Replacer.ofTemplate template) () all
  .ok text

end ExtendedPattern
