import ExtendedPattern.NativeToken
import ExtendedPattern.TokenRule

/-! Rewriting an extended pattern into native text. The pattern is cut into segments from
left to right. At each place the rules come first, best first; where none has a token, one
native token or one character is copied. -/
namespace ExtendedPattern

structure Segment where
  source : Text
  fragment : Text
  rewritten : Bool
  deriving DecidableEq, Repr

structure Compilation where
  segments : List Segment
  context : Context
  deriving DecidableEq, Repr

def Compilation.native (c : Compilation) : Text := c.segments.flatMap Segment.fragment

namespace Rewrite

/-- Where a rule's next token is. A search that found it shows that there is none before, so
it need not be repeated until the place has passed. -/
inductive Lookahead where
  | unsearched
  | found (m : TokenMatch)
  | exhausted

def Lookahead.isStale (pos : Nat) : Lookahead → Bool
  | unsearched => true
  | found m => m.start < pos
  | exhausted => false

def Lookahead.ofSearch : Option TokenMatch → Lookahead
  | some m => found m
  | none => exhausted

def Lookahead.refresh (rule : TokenRule) (input : Text) (pos : Nat) (ahead : Lookahead) :
    Except Failure Lookahead :=
  if ahead.isStale pos then (rule.find? input pos).map ofSearch else .ok ahead

structure Fired where
  token : TokenMatch
  fragment : Text
  context : Context

abbrev Watch := TokenRule × Lookahead

def runRules (input : Text) (pos : Nat) (region : Region) (context : Context) :
    List Watch → Session → (Except Failure (Option Fired) × List Watch) × Session
  | [], s => ((.ok none, []), s)
  | (rule, ahead) :: others, s =>
    let (takesPart, s) := rule.applies region context s
    let pass (ahead : Lookahead) :=
      let ((result, others), s) := runRules input pos region context others s
      ((result, (rule, ahead) :: others), s)
    if takesPart then
      match ahead.refresh rule input pos with
      | .error e => ((.error e, (rule, ahead) :: others), s)
      | .ok (.found m) =>
        if m.start = pos then
          let s := { s with events := .tokenMatched rule.pattern m.text pos :: s.events }
          match rule.handle m region context s with
          | (.ok (fragment, context), s) =>
            ((.ok (some ⟨m, fragment, context⟩), (rule, .found m) :: others), s)
          | (.error e, s) => ((.error e, (rule, .found m) :: others), s)
        else pass (.found m)
      | .ok ahead => pass ahead
    else pass ahead

structure Progress where
  watches : List Watch
  region : Region := .outside
  context : Context
  segments : List Segment := []

def regionAfter (region : Region) (c : Char) : Region :=
  if c = '[' then .inside else if c = ']' then .outside else region

def Progress.copy (p : Progress) (rest : Text) (length : Nat) : Progress :=
  let source := rest.takeBytes length
  { p with segments := ⟨source, source, false⟩ :: p.segments }

def step (input : Text) (c : Char) (rest : Text) (pos : Nat) (p : Progress) (s : Session) :
    Except Failure (Progress × Nat) × Session :=
  match s.whileInRules (runRules input pos p.region p.context p.watches) with
  | ((.error e, _), s) => (.error e, s)
  | ((.ok (some fired), watches), s) =>
    -- An empty token takes the character behind it along.
    let next := if pos < fired.token.stop then fired.token.stop else pos + c.utf8Size
    let segment : Segment := ⟨Text.takeBytes (c :: rest) (next - pos), fired.fragment, true⟩
    (.ok ({ p with watches, context := fired.context, segments := segment :: p.segments }, next), s)
  | ((.ok none, watches), s) =>
    let p := { p with watches }
    match NativeToken.length? p.region (c :: rest) with
    | some length => (.ok (p.copy (c :: rest) length, pos + length), s)
    | none =>
      let p := p.copy (c :: rest) c.utf8Size
      (.ok ({ p with region := regionAfter p.region c }, pos + c.utf8Size), s)

def scan (input : Text) : Text → Nat → Nat → Progress → Session → Except Failure Progress × Session
  | [], _, _, p, s => (.ok p, s)
  | c :: rest, pos, next, p, s =>
    if pos < next then scan input rest (pos + c.utf8Size) next p s
    else
      match step input c rest pos p s with
      | (.ok (p, next), s) => scan input rest (pos + c.utf8Size) next p s
      | (.error e, s) => (.error e, s)

end Rewrite

def rewrite (rules : List TokenRule) (pattern : Text) (flags : FlagSet) : Action Compilation := fun s =>
  if s.inRules then (.error .reentrantCompilation, s)
  else
    let start : Rewrite.Progress :=
      { watches := rules.map (·, .unsearched), context := .start flags }
    match Rewrite.scan pattern pattern 0 0 start s with
    | (.error e, s) => (.error e, s)
    | (.ok p, s) =>
      let done : Compilation := ⟨p.segments.reverse, p.context⟩
      (.ok done, { s with events := .compiled pattern done.native p.context.slots.length :: s.events })

end ExtendedPattern
