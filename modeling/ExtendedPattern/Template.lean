import ExtendedPattern.Engine.Escapes
import ExtendedPattern.Match

/-! Replacement templates. Behind a dollar sign stand another one, an ampersand for the
match, a grave accent or an apostrophe for the text before or after it, one or two digits
for a group, or a name or number in braces. A token that resolves to nothing stays. -/
namespace ExtendedPattern.Template

inductive Piece where
  | text (t : Text)
  | dollar
  | whole
  | before
  | after
  | numbered (digits : Text)
  | braced (name : Text)
  deriving DecidableEq, Repr

def isNameChar (c : Char) : Bool :=
  ('0' ≤ c && c ≤ '9') || ('a' ≤ c && c ≤ 'z') || ('A' ≤ c && c ≤ 'Z') || c == '_' || c == '$'

def token (t : Text) : Piece × Nat :=
  match t with
  | '$' :: _ => (.dollar, 1)
  | '&' :: _ => (.whole, 1)
  | '\x60' :: _ => (.before, 1)
  | '\x27' :: _ => (.after, 1)
  | '{' :: rest =>
    let name := rest.takeWhile isNameChar
    if name ≠ [] ∧ rest[name.length]? = some '}' then (.braced name, name.length + 2)
    else (.text ['$'], 0)
  | t =>
    let digits := (t.take 2).takeWhile Engine.isDecimal
    if digits = [] then (.text ['$'], 0) else (.numbered digits, digits.length)

def pieces : Nat → Text → List Piece
  | _, [] => []
  | skip + 1, _ :: rest => pieces skip rest
  | 0, '$' :: rest =>
    let (piece, length) := token rest
    piece :: pieces length rest
  | 0, c :: rest => .text [c] :: pieces 0 rest

def value (digits : Text) : Nat :=
  digits.foldl (fun n c => 10 * n + (c.toNat - '0'.toNat)) 0

def fitDigits (groups : Nat) (digits : Text) : Nat → Text
  | 0 => []
  | n + 1 =>
    if value (digits.take (n + 1)) ≤ groups then digits.take (n + 1) else fitDigits groups digits n

def groupText (m : Match) (index : Nat) : Text := (m.group? index).getD []

def expandNumbered (m : Match) (digits : Text) : Text :=
  if value digits = 0 then '$' :: digits
  else
    let kept := fitDigits (m.groupCount - 1) digits digits.length
    (if value kept = 0 then ['$'] else groupText m (value kept)) ++ digits.drop kept.length

def expandBraced (m : Match) (name : Text) : Text :=
  if name.all Engine.isDecimal ∧ value name < m.groupCount then groupText m (value name)
  else
    match m.nameIndex? name with
    | some index => groupText m index
    | none => ['$', '{'] ++ name ++ ['}']

def expandPiece (m : Match) : Piece → Text
  | .text t => t
  | .dollar => ['$']
  | .whole => m.text
  | .before => m.before
  | .after => m.after
  | .numbered digits => expandNumbered m digits
  | .braced name => expandBraced m name

def expand (template : Text) (m : Match) : Text := (pieces 0 template).flatMap (expandPiece m)

end ExtendedPattern.Template
