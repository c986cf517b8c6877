import ExtendedPattern.Engine.Escapes

/-! Syntax trees of native patterns. -/
namespace ExtendedPattern.Engine

inductive Node where
  | empty
  | char (s : CharSet)
  | assertion (a : Assertion)
  | seq (items : List Node)
  | alt (branches : List Node)
  | group (index : Nat) (body : Node)
  | repeated (low : Nat) (high : Option Nat) (greedy : Bool) (body : Node)
  | look (ahead negative : Bool) (body : Node)
  | atomic (body : Node)
  | backref (group : Nat)
  | keepOut
  | searchStart
  deriving Repr

namespace Node

def isEmpty : Node → Bool
  | empty => true
  | _ => false

def ofItems : List Node → Node
  | [] => empty
  | [item] => item
  | items => seq items

def isRepeatable : Node → Bool
  | empty | assertion _ | look _ _ _ => false
  | _ => true

mutual

def groups : Node → List Nat
  | seq items => groupsIn items
  | alt branches => groupsIn branches
  | group index body => index :: groups body
  | repeated _ _ _ body => groups body
  | look _ _ body => groups body
  | atomic body => groups body
  | _ => []

def groupsIn : List Node → List Nat
  | [] => []
  | n :: rest => groups n ++ groupsIn rest

end

structure Shape where
  least : Nat
  fixed : Bool
  hard : Bool
  deriving DecidableEq, Repr

namespace Shape

def nothing (hard : Bool) : Shape := ⟨0, true, hard⟩

def followedBy (a b : Shape) : Shape := ⟨a.least + b.least, a.fixed && b.fixed, a.hard || b.hard⟩

def or (a b : Shape) : Shape :=
  ⟨min a.least b.least, a.fixed && b.fixed && a.least == b.least, a.hard || b.hard⟩

end Shape

def isHardAssertion : Assertion → Bool
  | .wordBoundary | .notWordBoundary | .wordStart | .wordEnd => true
  | _ => false

mutual

/-- Groups that a backreference reads need backtracking: another way through the group
gives the reference another text. -/
def shape (referenced : List Nat) : Node → Shape
  | empty => .nothing false
  | char _ => ⟨1, true, false⟩
  | assertion a => .nothing (isHardAssertion a)
  | seq items => shapeOfSeq referenced items
  | alt branches => shapeOfAlt referenced branches
  | group index body =>
    let s := shape referenced body
    { s with hard := s.hard || referenced.contains index }
  | repeated low high _ body =>
    let s := shape referenced body
    ⟨s.least * low, s.fixed && high == some low, s.hard⟩
  | look _ _ _ => .nothing true
  | atomic body => { shape referenced body with hard := true }
  | backref _ => ⟨0, false, true⟩
  | keepOut => .nothing true
  | searchStart => .nothing true

def shapeOfSeq (referenced : List Nat) : List Node → Shape
  | [] => .nothing false
  | n :: rest => (shape referenced n).followedBy (shapeOfSeq referenced rest)

def shapeOfAlt (referenced : List Nat) : List Node → Shape
  | [] => .nothing false
  | [n] => shape referenced n
  | n :: rest => (shape referenced n).or (shapeOfAlt referenced rest)

end

end Node
end ExtendedPattern.Engine
