import ExtendedPattern.Iteration
import ExtendedPattern.Session

/-! Chains: each link searches what the link before it passed on. -/
namespace ExtendedPattern

inductive Selector where
  | whole
  | index (i : Nat)
  | name (n : Text)
  deriving DecidableEq, Repr

structure ChainLink where
  pattern : Pattern
  selector : Selector := .whole

namespace ChainLink

def value (l : ChainLink) (m : Match) : Text :=
  match l.selector with
  | .whole => (m.group? 0).getD []
  | .index i => (m.group? i).getD []
  | .name n => (m.named? n).getD []

def valuesIn (l : ChainLink) (subject : Text) : Except Failure (List Text) :=
  (l.pattern.findAll subject).map (·.map l.value)

def valuesInAll (l : ChainLink) : List Text → Except Failure (List Text)
  | [] => .ok []
  | subject :: rest => do
    let first ← l.valuesIn subject
    let more ← l.valuesInAll rest
    .ok (first ++ more)

end ChainLink

def chainFrom (level : Nat) (values : List Text) : List ChainLink → Action (List Text)
  | [] => .ok values
  | link :: rest => do
    let found ← link.valuesInAll values
    .emit (.chainLevel level found.length)
    if found.isEmpty then .ok [] else chainFrom (level + 1) found rest

def matchChain (subject : Text) (links : List ChainLink) : Action (List Text) :=
  chainFrom 0 [subject] links

end ExtendedPattern
