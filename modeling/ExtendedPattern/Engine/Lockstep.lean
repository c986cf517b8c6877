import ExtendedPattern.Engine.Cursor

/-! Matching without backtracking. A tree that needs none becomes code, and all ways
through the code advance together, one character at a time. Of two ways that meet at one
place the preferred one goes on, so the cost of a search is bounded by code times text. -/
namespace ExtendedPattern.Engine

inductive Step where
  | one (s : CharSet)
  | check (a : Assertion)
  | mark (slot : Nat)
  | fork (first second : Int)
  | jump (target : Int)
  deriving DecidableEq, Repr

namespace Step

def choice (greedy : Bool) (stay leave : Int) : Step :=
  if greedy then fork stay leave else fork leave stay

end Step

namespace Code

def optional (greedy : Bool) (code : List Step) : List Step :=
  Step.choice greedy 1 (code.length + 1) :: code

def star (greedy : Bool) (code : List Step) : List Step :=
  Step.choice greedy 1 (code.length + 2) :: code ++ [.jump (-(code.length + 1 : Int))]

def plus (greedy : Bool) (code : List Step) : List Step :=
  code ++ [Step.choice greedy (-(code.length : Int)) 1]

def upTo (greedy : Bool) (code : List Step) : Nat → List Step
  | 0 => []
  | n + 1 => optional greedy (code ++ upTo greedy code n)

def times (code : List Step) (n : Nat) : List Step := (List.replicate n code).flatten

/-- What can match nothing is repeated as an optional nonempty repetition: that way the
preferred way through an empty round is found first. -/
def repeated (nullable greedy : Bool) (low : Nat) (high : Option Nat) (code : List Step) :
    List Step :=
  match low, high with
  | 0, some 1 => optional greedy code
  | 0, none => if nullable then optional greedy (plus greedy code) else star greedy code
  | low + 1, none => times code low ++ plus greedy code
  | low, some high => times code low ++ upTo greedy code (high - low)

mutual

def ofNode : Node → List Step
  | .empty => []
  | .char s => [.one s]
  | .assertion a => [.check a]
  | .seq items => ofSeq items
  | .alt branches =>
    if branches.any Node.isEmpty then optional true (ofAlt branches) else ofAlt branches
  | .group index body => .mark (2 * index) :: ofNode body ++ [.mark (2 * index + 1)]
  | .repeated low high greedy body =>
    repeated ((body.shape []).least == 0) greedy low high (ofNode body)
  | _ => [.one .empty]

def ofSeq : List Node → List Step
  | [] => []
  | n :: rest => ofNode n ++ ofSeq rest

def ofAlt : List Node → List Step
  | [] => []
  | n :: rest =>
    if n.isEmpty then ofAlt rest
    else if rest.all Node.isEmpty then ofNode n
    else
      let first := ofNode n
      let others := ofAlt rest
      .fork 1 (first.length + 2) :: first ++ .jump (others.length + 1) :: others

end

mutual

def isBounded : Node → Bool
  | .seq items => areBounded items
  | .alt branches => areBounded branches
  | .group _ body => isBounded body
  | .repeated low high _ body =>
    decide (low < UInt32.size) && (match high with
      | some high => decide (low ≤ high) && decide (high < UInt32.size)
      | none => true) && isBounded body
  | .look _ _ body => isBounded body
  | .atomic body => isBounded body
  | _ => true

def areBounded : List Node → Bool
  | [] => true
  | n :: rest => isBounded n && areBounded rest

end

mutual

def weight : Node → Nat
  | .char s => s.weight
  | .seq items => weightOfAll items
  | .alt branches => 32 + weightOfAll branches
  | .group _ body => 64 + weight body
  | .repeated low high _ body => 32 + (max low (high.getD (low + 1))) * weight body
  | .look _ _ body => weight body
  | .atomic body => weight body
  | _ => 16

def weightOfAll : List Node → Nat
  | [] => 0
  | n :: rest => weight n + weightOfAll rest

end

end Code

namespace Lockstep

structure Thread where
  pc : Nat
  slots : Slots

namespace Thread

def move (t : Thread) (distance : Int) : Thread := { t with pc := ((t.pc : Int) + distance).toNat }

end Thread

def follow (code : Array Step) (here : Cursor) : Nat → List Thread → Nat → List Thread
  | 0, _, _ => []
  | _, [], _ => []
  | fuel + 1, t :: rest, seen =>
    if seen.testBit t.pc then follow code here fuel rest seen
    else
      let seen := seen ||| (1 <<< t.pc)
      match code[t.pc]? with
      | some (.jump target) => follow code here fuel (t.move target :: rest) seen
      | some (.fork first second) =>
        follow code here fuel (t.move first :: t.move second :: rest) seen
      | some (.mark slot) =>
        let t := { t with slots := t.slots.set slot (some here.offset) }
        follow code here fuel (t.move 1 :: rest) seen
      | some (.check a) =>
        if here.satisfies a then follow code here fuel (t.move 1 :: rest) seen
        else follow code here fuel rest seen
      | some (.one _) | none => t :: follow code here fuel rest seen

def settle (code : Array Step) (here : Cursor) (threads : List Thread) : List Thread :=
  follow code here (threads.length + 2 * code.size + 2) threads 0

def Thread.take? (code : Array Step) (c : Char) (t : Thread) : Option Thread :=
  match code[t.pc]? with
  | some (.one s) => if s.has c then some (t.move 1) else none
  | _ => none

structure Arrival where
  slots : Slots
  stop : Cursor

def race (code : Array Step) : Text → Text → Nat → List Thread → Option Arrival → Option Arrival
  | after, before, offset, threads, best =>
    let here : Cursor := ⟨before, after, offset⟩
    let running := threads.takeWhile (fun t => t.pc < code.size)
    let best := match threads[running.length]? with
      | some t => some ⟨t.slots, here⟩
      | none => best
    match after with
    | [] => best
    | c :: rest =>
      if running.isEmpty then best
      else
        let next : Cursor := ⟨c :: before, rest, offset + c.utf8Size⟩
        race code rest (c :: before) (offset + c.utf8Size)
          (settle code next (running.filterMap (·.take? code c))) best

def run (code : Array Step) (groups : Nat) (here : Cursor) : Option Arrival :=
  race code here.after here.before here.offset
    (settle code here [⟨0, Slots.blank groups⟩]) none

end Lockstep
end ExtendedPattern.Engine
