import ExtendedPattern.Region
import ExtendedPattern.Text

/-! Native tokens of more than one character: outside classes escapes, group openers,
lazy suffixes and counted repetitions, inside classes escapes alone. Lengths are in bytes. -/
namespace ExtendedPattern.NativeToken

def isDigit (c : Char) : Bool := '0' ≤ c && c ≤ '9'

def isOctal (c : Char) : Bool := '0' ≤ c && c ≤ '7'

def isHexDigit (c : Char) : Bool :=
  isDigit c || ('a' ≤ c && c ≤ 'f') || ('A' ≤ c && c ≤ 'F')

def isLetter (c : Char) : Bool := ('a' ≤ c && c ≤ 'z') || ('A' ≤ c && c ≤ 'Z')

def digitRun (t : Text) : Nat := (t.takeWhile isDigit).length

def octalLength : Text → Nat
  | c :: rest =>
    if '0' ≤ c && c ≤ '3' then 1 + ((rest.take 2).takeWhile isOctal).length
    else if '4' ≤ c && c ≤ '7' then 1 + ((rest.take 1).takeWhile isOctal).length
    else 0
  | [] => 0

def hexLength (digits : Nat) (t : Text) : Nat :=
  if (t.take digits).length = digits && (t.take digits).all isHexDigit then digits
  else
    match t with
    | '{' :: rest =>
      let inner := (rest.takeWhile isHexDigit).length
      if 0 < inner && rest[inner]? == some '}' then inner + 2 else 0
    | _ => 0

def escapeLength? (region : Region) (t : Text) : Option Nat :=
  match t with
  | [] => none
  | c :: rest =>
    if c = '0' && region = .outside then some (2 + octalLength rest)
    else if '1' ≤ c && c ≤ '9' && region = .outside then some (1 + digitRun t)
    else if isOctal c then some (1 + octalLength t)
    else if c = 'x' then some (2 + hexLength 2 rest)
    else if c = 'u' then some (2 + hexLength 4 rest)
    else if c = 'c' && (rest.head?.map isLetter).getD false then some 3
    else some (1 + c.utf8Size)

def openerLength? : Text → Option Nat
  | '?' :: ':' :: _ => some 3
  | '?' :: '=' :: _ => some 3
  | '?' :: '!' :: _ => some 3
  | '?' :: '<' :: '=' :: _ => some 4
  | '?' :: '<' :: '!' :: _ => some 4
  | _ => none

def lazyMark : Text → Nat
  | '?' :: _ => 1
  | _ => 0

def repeatLength? (t : Text) : Option Nat :=
  let low := digitRun t
  if low = 0 then none
  else
    match t.drop low with
    | '}' :: rest => some (2 + low + lazyMark rest)
    | ',' :: rest =>
      let high := digitRun rest
      match rest.drop high with
      | '}' :: rest => some (3 + low + high + lazyMark rest)
      | _ => none
    | _ => none

def length? (region : Region) : Text → Option Nat
  | [] => none
  | c :: rest =>
    if c = '\\' then escapeLength? region rest
    else if region = .inside then none
    else if c = '(' then openerLength? rest
    else if c = '?' || c = '*' || c = '+' then if rest.head? = some '?' then some 2 else none
    else if c = '{' then repeatLength? rest
    else none

def startsWithQuantifier : Text → Bool
  | [] => false
  | c :: rest =>
    if c = '?' || c = '*' || c = '+' then true
    else if c = '{' then (repeatLength? rest).isSome
    else false

end ExtendedPattern.NativeToken
