import ExtendedPattern.Engine.Reader
import ExtendedPattern.Engine.Backtrack

/-! Programs of the native engine. A tree that needs no backtracking becomes code as a whole;
any other becomes a plan that delegates the parts which need none. -/
namespace ExtendedPattern.Engine

namespace Plan

structure Setting where
  referenced : List Nat
  codeLimit : Nat

namespace Setting

def shape (s : Setting) (n : Node) : Node.Shape := n.shape s.referenced

def isEasy (s : Setting) (n : Node) : Bool := !(s.shape n).hard

def isFixedEasy (s : Setting) (n : Node) : Bool := (s.shape n).fixed && s.isEasy n

def code? (s : Setting) (n : Node) : Option (Array Step) :=
  if Code.isBounded n && Code.weight n ≤ s.codeLimit then some (Code.ofNode n).toArray else none

def delegate? (s : Setting) : List Node → Option (List Plan)
  | [] => some []
  | items => do
    let code ← s.code? (.ofItems items)
    some [.delegate code (Node.groupsIn items)]

def partition (s : Setting) (inHard : Bool) (items : List Node) : List Node × List Node × List Node :=
  let front := items.takeWhile s.isFixedEasy
  let rest := items.drop front.length
  let ends := rest.reverse.takeWhile (if inHard then s.isFixedEasy else s.isEasy)
  (front, rest.take (rest.length - ends.length), ends.reverse)

end Setting

abbrev Maker (α : Type) := Nat → Option (α × Nat)

def lookBranch (s : Setting) (ahead negative : Bool) (n : Node) (plan : Plan) : Option Plan :=
  if ahead then some (.look 0 negative plan)
  else
    let shape := s.shape n
    if shape.fixed then some (.look shape.least negative plan) else none

def repetition (s : Setting) (low : Nat) (high : Option Nat) (greedy : Bool) (n : Node)
    (plan : Plan) (next : Nat) : Plan × Nat :=
  match high with
  | some _ => (.counted low high greedy plan, next)
  | none =>
    if (s.shape n).least = 0 then (.guarded next low greedy plan, next + 1)
    else if low = 0 then (.loop false greedy plan, next)
    else if low = 1 then (.loop true greedy plan, next)
    else (.counted low high greedy plan, next)

def delegated (s : Setting) (n : Node) (next : Nat) : Option (Plan × Nat) := do
  let code ← s.code? n
  some (.delegate code n.groups, next)

def ofNode (s : Setting) : Nat → Bool → Node → Maker Plan
  | 0, _, _, _ => none
  | depth + 1, inHard, node, next =>
    if !inHard && s.isEasy node then delegated s node next
    else
      match node with
      | .empty => some (.seq [], next)
      | .char set => some (.char set, next)
      | .assertion a => some (.assertion a, next)
      | .seq items => do
        let (front, middle, ends) := s.partition inHard items
        let front ← s.delegate? front
        let ends ← s.delegate? ends
        let (middle, next) ← all depth true middle next
        some (.seq (front ++ middle ++ ends), next)
      | .alt branches => do
        let (plans, next) ← all depth inHard branches next
        some (.alt plans, next)
      | .group index body => do
        let (plan, next) ← ofNode s depth inHard body next
        some (.capture index plan, next)
      | .repeated 0 (some 1) greedy body => do
        let (plan, next) ← ofNode s depth inHard body next
        some (.optional greedy plan, next)
      | .repeated low high greedy body => do
        let (plan, next) ← ofNode s depth true body next
        some (repetition s low high greedy body plan next)
      | .look ahead negative body =>
        match ahead, (s.shape body).fixed, body with
        | false, false, .alt branches => do
          let (plans, next) ← all depth false branches next
          let looks ← (branches.zip plans).mapM fun (n, plan) => lookBranch s ahead negative n plan
          some (if negative then .seq looks else .alt looks, next)
        | _, _, _ => do
          let (plan, next) ← ofNode s depth false body next
          let look ← lookBranch s ahead negative body plan
          some (look, next)
      | .atomic body => do
        let (plan, next) ← ofNode s depth false body next
        some (.atomic plan, next)
      | .backref group => some (.backref group, next)
      | .keepOut => some (.keepOut, next)
      | .searchStart => some (.searchStart, next)
where
  all (depth : Nat) (inHard : Bool) : List Node → Maker (List Plan)
    | [], next => some ([], next)
    | n :: rest, next => do
      let (plan, next) ← ofNode s depth inHard n next
      let (plans, next) ← all depth inHard rest next
      some (plan :: plans, next)

end Plan

inductive Body where
  | lockstep (code : Array Step)
  | trial (plan : Plan) (guards : Nat)

structure Program where
  groups : Nat
  body : Body
  backtrackLimit : Nat

structure Limits where
  backtrack : Nat := 1000000
  delegate : Option Nat := none
  deriving DecidableEq, Repr

namespace Program

def defaultCodeLimit : Nat := 10 * 1024 * 1024

mutual

/-- The last group that code is made for; a group repeated no times is left out. -/
def lastGroup : Node → Nat
  | .seq items => lastGroupIn items
  | .alt branches => lastGroupIn branches
  | .group index body => max index (lastGroup body)
  | .repeated _ (some 0) _ _ => 0
  | .repeated _ _ _ body => lastGroup body
  | _ => 0

def lastGroupIn : List Node → Nat
  | [] => 0
  | n :: rest => max (lastGroup n) (lastGroupIn rest)

end

def build? (limits : Limits) (pattern : Text) : Option Program := do
  let (tree, progress) ← Reader.tree? pattern
  let setting : Plan.Setting :=
    ⟨progress.referenced, limits.delegate.getD defaultCodeLimit⟩
  if setting.isEasy tree then
    let code ← setting.code? tree
    some ⟨lastGroup tree + 1, .lockstep code, limits.backtrack⟩
  else
    let (plan, guards) ← Plan.ofNode setting (2 * pattern.length + 2) true tree 0
    some ⟨progress.groups + 1, .trial plan guards, limits.backtrack⟩

abbrev Groups := List (Option Span)

def groupsOf (p : Program) (slots : Slots) : Groups := (List.range p.groups).map slots.span?

/-- Where a match was marked to start behind its end, it starts at its end. -/
def startCapped : Groups → Groups
  | some whole :: others => some ⟨min whole.start whole.stop, whole.stop⟩ :: others
  | groups => groups

def scan (code : Array Step) (groups : Nat) : Text → Text → Nat → Option (Nat × Lockstep.Arrival)
  | after, before, offset =>
    match Lockstep.run code groups ⟨before, after, offset⟩ with
    | some arrival => some (offset, arrival)
    | none =>
      match after with
      | [] => none
      | c :: rest => scan code groups rest (c :: before) (offset + c.utf8Size)

def answer (p : Program) : Backtrack.Outcome → Except Unit (Option Groups)
  | .found s _ => .ok (some (startCapped (p.groupsOf s.slots)))
  | .failed _ => .ok none
  | .exhausted => .error ()

def search (p : Program) (subject : Text) (start : Nat) : Except Unit (Option Groups) :=
  let here := Cursor.ofOffset subject start
  match p.body with
  | .lockstep code =>
    .ok ((scan code p.groups here.after here.before here.offset).map fun (start, arrival) =>
      some ⟨start, arrival.stop.offset⟩ :: (p.groupsOf arrival.slots).drop 1)
  | .trial plan guards =>
    let blank (c : Cursor) : Backtrack.State :=
      ⟨c, Slots.blank p.groups, List.replicate guards none⟩
    p.answer (Backtrack.search ⟨subject, here.offset⟩ plan blank here.after here.before here.offset
      p.backtrackLimit)

end Program
end ExtendedPattern.Engine
