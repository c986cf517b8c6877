import ExtendedPattern.Compile
import ExtendedPattern.Escape
import ExtendedPattern.Iteration

/-! Text between balanced delimiters. Nesting is counted, so that only the outermost pairs
are reported; an escape character makes the character behind it ordinary. -/
namespace ExtendedPattern

structure PartLabels where
  between : Option Text := none
  left : Option Text := none
  inner : Option Text := none
  right : Option Text := none
  deriving DecidableEq, Repr

def PartLabels.ofTexts (between left inner right : Text) : PartLabels :=
  let label (t : Text) := if t = [] then none else some t
  ⟨label between, label left, label inner, label right⟩

structure Part where
  label : Text
  value : Text
  span : Span
  deriving DecidableEq, Repr

structure BalancedOptions where
  labels : Option PartLabels := none
  escape : Option Text := none

def BalancedOptions.escapeBy (o : BalancedOptions) (t : Text) : BalancedOptions :=
  { o with escape := if t = [] then none else some t }

inductive BalancedResult where
  | values (ts : List Text)
  | parts (ps : List Part)
  deriving DecidableEq, Repr

def BalancedResult.count : BalancedResult → Nat
  | values ts => ts.length
  | parts ps => ps.length

namespace Balanced

structure Pair where
  outer : Nat
  inner : Nat
  right : Span
  deriving DecidableEq, Repr

inductive Delimiter where
  | left
  | right
  deriving DecidableEq, Repr

def nearest (left right : Option Span) : Option (Delimiter × Span) :=
  match left, right with
  | some l, some r => if l.start ≤ r.start then some (.left, l) else some (.right, r)
  | some l, none => some (.left, l)
  | none, some r => some (.right, r)
  | none, none => none

structure Searches where
  left : Nat → Except Failure (Option Span)
  right : Nat → Except Failure (Option Span)
  escaped : Nat → Except Failure (Option Nat)

structure Mode where
  global : Bool
  sticky : Bool

structure State where
  depth : Nat := 0
  position : Nat := 0
  outer : Nat := 0
  inner : Nat := 0
  lastEnd : Nat := 0
  pairs : List Pair := []
  events : List Event := []

inductive Verdict where
  | done
  | unbalanced
  | goOn

/-- A delimiter without characters is not found again at the same place. -/
def State.passed (s : State) (subject : Text) (span : Span) : State :=
  { s with position := if span.isEmpty then subject.stepFrom span.stop else span.stop }

def State.enter (s : State) (span : Span) : State :=
  let s := if s.depth = 0 then { s with outer := span.start, inner := span.stop } else s
  { s with depth := s.depth + 1, events := .delimiterOpened span.start (s.depth + 1) :: s.events }

def State.leave (s : State) (span : Span) : State :=
  let depth := s.depth - 1
  let s := { s with depth, events := .delimiterClosed span.start depth :: s.events }
  if depth = 0 then
    { s with pairs := ⟨s.outer, s.inner, span⟩ :: s.pairs, lastEnd := span.stop }
  else s

def State.meet (s : State) (subject : Text) (mode : Mode) (found : Option (Delimiter × Span)) :
    Verdict × State :=
  match found with
  | none => (if s.depth = 0 then .done else .unbalanced, s)
  | some (delimiter, span) =>
    if mode.sticky && s.depth = 0 && s.lastEnd < span.start then (.done, s)
    else
      match delimiter with
      | .left => (.goOn, (s.enter span).passed subject span)
      | .right =>
        if s.depth = 0 then (.unbalanced, s)
        else
          let s := s.leave span
          if s.depth = 0 && !mode.global then (.done, s) else (.goOn, s.passed subject span)

def scan (subject : Text) (mode : Mode) (search : Searches) : Nat → State → Except Failure Unit × State
  | 0, s => (.error .endless, s)
  | fuel + 1, s =>
    let found : Except Failure (Option (Delimiter × Span)) := do
      let position := ((← search.escaped s.position).getD s.position)
      let left ← search.left position
      let right ← search.right position
      .ok (nearest left right)
    match found with
    | .error e => (.error e, s)
    | .ok found =>
      match s.meet subject mode found with
      | (.done, s) => (.ok (), s)
      | (.unbalanced, s) => (.error .unbalancedDelimiter, s)
      | (.goOn, s) => scan subject mode search fuel s

def part (subject : Text) (label : Option Text) (span : Span) : List Part :=
  match label with
  | some label => [⟨label, subject.slice span, span⟩]
  | none => []

def between (subject : Text) (labels : PartLabels) (lastEnd next : Nat) : List Part :=
  if lastEnd < next then part subject labels.between ⟨lastEnd, next⟩ else []

def parts (subject : Text) (labels : PartLabels) (rest : Bool) (lastEnd : Nat) : List Pair → List Part
  | [] => if rest then between subject labels lastEnd subject.size else []
  | p :: more =>
    between subject labels lastEnd p.outer ++ part subject labels.left ⟨p.outer, p.inner⟩ ++
      part subject labels.inner ⟨p.inner, p.right.start⟩ ++ part subject labels.right p.right ++
      parts subject labels rest p.right.stop more

def report (subject : Text) (labels : Option PartLabels) (mode : Mode) (pairs : List Pair) :
    BalancedResult :=
  match labels with
  | none => .values (pairs.map fun p => subject.slice ⟨p.inner, p.right.start⟩)
  | some labels => .parts (parts subject labels (mode.global && !mode.sticky) 0 pairs)

def showsInside (labels : Option PartLabels) : Bool := labels.all (·.inner.isSome)

def cutInsides (subject : Text) : List Pair → Except Failure Unit
  | [] => .ok ()
  | p :: more => do
    let _ ← subject.between ⟨p.inner, p.right.start⟩
    cutInsides subject more

def answer (subject : Text) (labels : Option PartLabels) (mode : Mode) (ended : Except Failure Unit × State) :
    Except Failure BalancedResult :=
  let pairs := ended.2.pairs.reverse
  let cut := if showsInside labels then cutInsides subject pairs else .ok ()
  cut.bind fun _ => ended.1.map fun _ => report subject labels mode pairs

def behindClass (fallback : Text) : Text → Text
  | [] => fallback
  | ['\\'] => fallback
  | '\\' :: _ :: rest => behindClass fallback rest
  | ']' :: rest => rest
  | _ :: rest => behindClass fallback rest

def hasNumberedReference : Nat → Text → Bool
  | 0, _ => false
  | _, [] => false
  | fuel + 1, '\\' :: c :: rest =>
    ('1' ≤ c && c ≤ '9') || hasNumberedReference fuel rest
  | fuel + 1, '[' :: rest => hasNumberedReference fuel (behindClass rest rest)
  | fuel + 1, _ :: rest => hasNumberedReference fuel rest

def escapeText (escaped left right : Text) : Text :=
  "(?:".toList ++ escaped ++ "[\\S\\s]|(?:(?!".toList ++ left ++ ['|'] ++ right ++ ")[^".toList ++
    escaped ++ "])+)+".toList

def escapePattern (escape : Text) (left right : Pattern) (flags : FlagSet) : Except Failure Pattern :=
  if 1 < escape.length then
    .error (.escapeConfiguration "can't use more than one escape character".toList)
  else if hasNumberedReference (right.native.length + 1) right.native then
    .error (.escapeConfiguration
      "can't use escape character if backreference in delimiter".toList)
  else
    Pattern.ofNative (escapeText (ExtendedPattern.escape escape) left.native right.native)
      (flags.inter .native)

def spanSearch (p : Pattern) (subject : Text) (start : Nat) : Except Failure (Option Span) :=
  (p.execAt subject start false).map (·.map Match.range)

def escapeSearch (escape : Option Pattern) (subject : Text) (start : Nat) :
    Except Failure (Option Nat) :=
  match escape with
  | none => .ok none
  | some p => (p.execAt subject start true).map (·.map Match.stop)

end Balanced

/-- Each round gets on to another place, or closes a pair that was opened by one that did; else the loop has no end. -/
def Balanced.rounds (subject : Text) : Nat := 2 * subject.length + 3

/-- Balanced pairs of `left` and `right`, which are patterns compiled with the flags given;
the sticky flag asks for pairs without gaps from the start on. -/
def matchBalancedBy (build : Pattern.Builder) (subject left right letters : Text) (options : BalancedOptions) :
    Action BalancedResult := do
  let flags ← FlagSet.ofLetters letters
  let mode : Balanced.Mode := ⟨flags.has .global, flags.has .sticky⟩
  let flags := flags.diff (.single .sticky)
  let left ← build left flags
  let right ← build right flags
  let escape ← match options.escape with
    | none => Action.ok none
    | some escape => do
      let p ← Balanced.escapePattern escape left right flags
      Action.ok (some p)
  let search : Balanced.Searches :=
    ⟨Balanced.spanSearch left subject, Balanced.spanSearch right subject,
      Balanced.escapeSearch escape subject⟩
  let ended := Balanced.scan subject mode search (Balanced.rounds subject) {}
  Action.reporting (Balanced.answer subject options.labels mode ended) ended.2.events.reverse

def matchBalanced (subject left right letters : Text) (options : BalancedOptions) : Action BalancedResult :=
  matchBalancedBy Pattern.byGlobal subject left right letters options

end ExtendedPattern
