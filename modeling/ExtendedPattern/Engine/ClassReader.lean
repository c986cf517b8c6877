import ExtendedPattern.Engine.Escapes

/-! Bracketed classes. First the text up to the bracket that closes the class becomes a
list of marks, with escapes resolved; then the marks are read as items, ranges, nested
classes and set operations. -/
namespace ExtendedPattern.Engine.ClassReader

inductive Mark where
  | raw (c : Char)
  | char (c : Char)
  | set (s : CharSet)
  deriving DecidableEq, Repr

def spelledClass (negated : Bool) : List Mark :=
  (['['] ++ (if negated then ['^'] else []) ++ "0-9A-Fa-f]".toList).map .raw

def marks? : Nat → Nat → Text → Option (List Mark × Text)
  | 0, _, _ => none
  | _, _, [] => none
  | fuel + 1, depth, '\\' :: rest =>
    match escape? true rest with
    | some (.char c _, rest) => (marks? fuel depth rest).map fun (ms, rest) => (.char c :: ms, rest)
    | some (.set s, rest) => (marks? fuel depth rest).map fun (ms, rest) => (.set s :: ms, rest)
    | some (.spelled negated, rest) =>
      (marks? fuel depth rest).map fun (ms, rest) => (spelledClass negated ++ ms, rest)
    | _ => none
  | fuel + 1, depth, c :: rest =>
    if c = ']' ∧ depth = 0 then some ([.raw c], rest)
    else
      let depth := if c = '[' then depth + 1 else if c = ']' then depth - 1 else depth
      (marks? fuel depth rest).map fun (ms, rest) => (.raw c :: ms, rest)

def openingMarks? (t : Text) : Option (List Mark × Text) :=
  let (negation, t) := match t with
    | '^' :: rest => ([Mark.raw '^'], rest)
    | t => ([], t)
  let (bracket, t) := match t with
    | ']' :: rest => ([Mark.raw ']'], rest)
    | t => ([], t)
  (marks? (t.length + 1) 0 t).map fun (ms, rest) => (negation ++ bracket ++ ms, rest)

inductive SetOp where
  | inter
  | diff
  | symmDiff
  deriving DecidableEq, Repr

def SetOp.apply : SetOp → CharSet → CharSet → CharSet
  | inter => CharSet.inter
  | diff => CharSet.diff
  | symmDiff => CharSet.symmDiff

structure Level where
  negated : Bool
  left : Option (SetOp × CharSet) := none
  items : CharSet := .empty

namespace Level

def add (l : Level) (s : CharSet) : Level := { l with items := .union l.items s }

def combined (ignoreCase : Bool) (l : Level) : CharSet :=
  match l.left with
  | none => l.items
  | some (op, left) => op.apply (left.underCase ignoreCase) (l.items.underCase ignoreCase)

def operate (ignoreCase : Bool) (l : Level) (op : SetOp) : Level :=
  { l with left := some (op, l.combined ignoreCase), items := .empty }

def close (ignoreCase : Bool) (l : Level) : CharSet :=
  ((l.combined ignoreCase).underCase ignoreCase).underNegation l.negated

end Level

def openLevel (ms : List Mark) : Level × List Mark :=
  let (negated, ms) := match ms with
    | .raw '^' :: rest => (true, rest)
    | ms => (false, ms)
  let dashes := ms.takeWhile (· == .raw '-')
  let ms := ms.drop dashes.length
  let level : Level := { negated, items := if dashes.isEmpty then .empty else .single '-' }
  match dashes, ms with
  | [], .raw ']' :: rest => (level.add (.single ']'), rest)
  | _, ms => (level, ms)

def asciiClass? (name : List Char) : Option CharSet :=
  let of (rs : List (Char × Char)) := some (CharSet.ofRanges rs)
  if name = "alnum".toList then of [('0', '9'), ('A', 'Z'), ('a', 'z')]
  else if name = "alpha".toList then of [('A', 'Z'), ('a', 'z')]
  else if name = "ascii".toList then of [('\x00', '\x7f')]
  else if name = "blank".toList then of [('\t', '\t'), (' ', ' ')]
  else if name = "cntrl".toList then of [('\x00', '\x1f'), ('\x7f', '\x7f')]
  else if name = "digit".toList then of [('0', '9')]
  else if name = "graph".toList then of [('!', '~')]
  else if name = "lower".toList then of [('a', 'z')]
  else if name = "print".toList then of [(' ', '~')]
  else if name = "punct".toList then of [('!', '/'), (':', '@'), ('[', '\x60'), ('{', '~')]
  else if name = "space".toList then of [('\t', '\r'), (' ', ' ')]
  else if name = "upper".toList then of [('A', 'Z')]
  else if name = "word".toList then of [('0', '9'), ('A', 'Z'), ('_', '_'), ('a', 'z')]
  else if name = "xdigit".toList then of [('0', '9'), ('A', 'F'), ('a', 'f')]
  else none

def namedClass? : List Mark → Option (CharSet × List Mark)
  | .raw ':' :: rest =>
    let (negated, rest) := match rest with
      | .raw '^' :: rest => (true, rest)
      | rest => (false, rest)
    let isNamePart : Mark → Bool
      | .raw ':' => false
      | .raw _ => true
      | _ => false
    let name := (rest.takeWhile isNamePart).filterMap fun
      | .raw c => some c
      | _ => none
    match rest.drop name.length with
    | .raw ':' :: .raw ']' :: rest =>
      (asciiClass? name).map fun s => (s.underNegation negated, rest)
    | _ => none
  | _ => none

def Mark.char? : Mark → Option Char
  | raw c => some c
  | char c => some c
  | set _ => none

def Mark.toSet : Mark → CharSet
  | raw c => .single c
  | char c => .single c
  | set s => s

def item? : List Mark → Option (CharSet × List Mark)
  | [] => none
  | m :: .raw '-' :: .raw ']' :: rest => some (m.toSet, .raw '-' :: .raw ']' :: rest)
  | m :: .raw '-' :: .raw '-' :: rest => some (m.toSet, .raw '-' :: .raw '-' :: rest)
  | m :: .raw '-' :: last :: rest => do
    let first ← m.char?
    let last ← last.char?
    if first ≤ last then some (.range first last, rest) else none
  | m :: rest => some (m.toSet, rest)

def read? (ignoreCase : Bool) : Nat → List Mark → Level → List Level → Option (CharSet × List Mark)
  | 0, _, _, _ => none
  | fuel + 1, ms, level, outer =>
    match ms with
    | [] => none
    | .raw '[' :: rest =>
      match namedClass? rest with
      | some (s, rest) => read? ignoreCase fuel rest (level.add s) outer
      | none =>
        let (inner, rest) := openLevel rest
        read? ignoreCase fuel rest inner (level :: outer)
    | .raw ']' :: rest =>
      let s := level.close ignoreCase
      match outer with
      | [] => some (s, rest)
      | level :: outer => read? ignoreCase fuel rest (level.add s) outer
    | .raw '&' :: .raw '&' :: rest => read? ignoreCase fuel rest (level.operate ignoreCase .inter) outer
    | .raw '-' :: .raw '-' :: rest => read? ignoreCase fuel rest (level.operate ignoreCase .diff) outer
    | .raw '~' :: .raw '~' :: rest =>
      read? ignoreCase fuel rest (level.operate ignoreCase .symmDiff) outer
    | ms =>
      match item? ms with
      | some (s, rest) => read? ignoreCase fuel rest (level.add s) outer
      | none => none

def operatorChars : List Char := ['.', '+', '*', '?', '(', ')', '|', '[', '{', '^', '$', '\\']

def plain? : Mark → Option Char
  | .raw c => if operatorChars.contains c then none else some c
  | .char c => some c
  | .set _ => none

/-- Reads the class whose opening bracket stands before the text. Where a nested bracket was
taken for the end of a range, the class closes early and plain characters follow it. -/
def class? (ignoreCase : Bool) (t : Text) : Option (CharSet × List Char × Text) := do
  let (ms, rest) ← openingMarks? t
  let (level, body) := openLevel ms
  let (s, behind) ← read? ignoreCase (ms.length + 1) body level []
  let plain ← behind.mapM plain?
  some (s, plain, rest)

end ExtendedPattern.Engine.ClassReader
