import ExtendedPattern.Text
import ExtendedPattern.CodePointSet
import ExtendedPattern.Engine.CharSet
import ExtendedPattern.Unicode.Alphanumeric

/-! What the native engine reads behind a backslash. -/
namespace ExtendedPattern.Engine

inductive Assertion where
  | startText
  | endText
  | startLine
  | endLine
  | wordBoundary
  | notWordBoundary
  | wordStart
  | wordEnd
  deriving DecidableEq, Repr

inductive Escape where
  | char (c : Char) (foldable : Bool)
  | set (s : CharSet)
  | spelled (negated : Bool)
  | numbered (group : Nat)
  | named (name : Text)
  | assertion (a : Assertion)
  | keepOut
  | searchStart
  deriving DecidableEq, Repr

def isDecimal (c : Char) : Bool := '0' ≤ c && c ≤ '9'

def decimal? (t : Text) : Option (Nat × Text) :=
  let digits := t.takeWhile isDecimal
  if digits.isEmpty then none
  else
    let n := digits.foldl (fun n c => 10 * n + (c.toNat - '0'.toNat)) 0
    if n < UInt64.size then some (n, t.drop digits.length) else none

def isNameChar (c : Char) : Bool := Unicode.isAlphanumeric c || c == '_'

def name? (close : Char) (t : Text) : Option (Text × Text) :=
  let name := t.takeWhile isNameChar
  match t.drop name.length with
  | c :: rest => if c = close ∧ name ≠ [] then some (name, rest) else none
  | [] => none

def codePoint? (digits : Text) : Option Char :=
  match CodePointSet.hexNumber? digits with
  | some n => if n.isValidChar then some (Char.ofNat n) else none
  | none => none

def isHex (c : Char) : Bool := (CodePointSet.hexValue? c).isSome

def hexEscape? (digits : Nat) (t : Text) : Option (Escape × Text) :=
  let short := t.take digits
  if short.length = digits ∧ short.all isHex then
    (codePoint? short).map fun c => (.char c true, t.drop digits)
  else
    match t with
    | '{' :: rest =>
      let inner := rest.takeWhile isHex
      match rest.drop inner.length with
      | '}' :: rest =>
        if inner ≠ [] ∧ inner.length ≤ 8 then (codePoint? inner).map fun c => (.char c true, rest)
        else none
      | _ => none
    | _ => none

def isAsciiLetter (c : Char) : Bool := ('a' ≤ c && c ≤ 'z') || ('A' ≤ c && c ≤ 'Z')

def control? : Char → Option Char
  | 'a' => some '\x07'
  | 'b' => some '\x08'
  | 'f' => some '\x0c'
  | 'n' => some '\n'
  | 'r' => some '\r'
  | 't' => some '\t'
  | 'v' => some '\x0b'
  | 'e' => some '\x1b'
  | _ => none

def outsideOnly : List Char := ['k', 'A', 'z', 'B', 'K', 'G']

def assertion? : Char → Option Assertion
  | 'A' => some .startText
  | 'z' => some .endText
  | 'b' => some .wordBoundary
  | 'B' => some .notWordBoundary
  | '<' => some .wordStart
  | '>' => some .wordEnd
  | _ => none

def classLetter? : Char → Option CharSet
  | 'd' => some .digit
  | 'D' => some (.complement .digit)
  | 's' => some .space
  | 'S' => some (.complement .space)
  | 'w' => some .word
  | 'W' => some (.complement .word)
  | _ => none

def namedReference? : Text → Option (Escape × Text)
  | '<' :: rest => (name? '>' rest).map fun (name, rest) => (.named name, rest)
  | '\x27' :: rest => (name? '\x27' rest).map fun (name, rest) => (.named name, rest)
  | _ => none

def escape? (inClass : Bool) : Text → Option (Escape × Text)
  | [] => none
  | c :: rest =>
    if isDecimal c then (decimal? (c :: rest)).map fun (n, rest) => (.numbered n, rest)
    else if (c = 'k' || c = 'g') && !inClass then namedReference? rest
    else if let (some a, false) := (assertion? c, inClass) then some (.assertion a, rest)
    else if let some s := classLetter? c then some (.set s, rest)
    else if c = 'h' then some (.spelled false, rest)
    else if c = 'H' then some (.spelled true, rest)
    else if c = 'x' then hexEscape? 2 rest
    else if c = 'u' then hexEscape? 4 rest
    else if c = 'U' then hexEscape? 8 rest
    else if c = 'K' && !inClass then some (.keepOut, rest)
    else if c = 'G' && !inClass then some (.searchStart, rest)
    else if let some control := control? c then some (.char control false, rest)
    else if isAsciiLetter c && !outsideOnly.contains c then none
    else some (.char c false, rest)

end ExtendedPattern.Engine
