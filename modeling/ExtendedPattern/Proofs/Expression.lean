import ExtendedPattern.BuiltinRules

/-! Trees of extended and of native patterns, their texts, and the translation of one into
the other. A tree knows nothing of scanning: its translation follows its structure. -/
namespace ExtendedPattern

class Spelled (α : Type) where
  text : α → Text

export Spelled (text)

def operators : List Char :=
  ['\\', '(', ')', '[', ']', '{', '}', '?', '*', '+', '|', '^', '$', '.']

structure Literal where
  char : Char
  solid : Unicode.isSpace char = false
  plain : char ≠ '#' ∧ char ∉ operators

def escapableLetters : List Char := ['d', 'D', 'w', 'W', 's', 'S', 'b', 'B']

structure Escapable where
  char : Char
  allowed : (NativeToken.isDigit char = false ∧ NativeToken.isLetter char = false) ∨
    char ∈ escapableLetters

instance : Spelled Escapable := ⟨fun e => ['\\', e.char]⟩

inductive Member where
  | plain (c : Char) (ordinary : c ≠ '[' ∧ c ≠ ']' ∧ c ≠ '\\')
  | escaped (e : Escapable)

instance : Spelled Member where
  text
    | .plain c _ => [c]
    | .escaped e => text e

structure FlatClass where
  negated : Bool
  first : Member
  others : List Member
  distinct : negated = false → text first ≠ ['^']

def FlatClass.body (c : FlatClass) : Text :=
  (if c.negated then ['^'] else []) ++ (c.first :: c.others).flatMap text

instance : Spelled FlatClass := ⟨fun c => '[' :: c.body ++ [']']⟩

structure Numeral where
  digits : Text
  nonempty : digits ≠ []
  decimal : ∀ d ∈ digits, NativeToken.isDigit d

inductive Bounds where
  | star
  | plus
  | option
  | exactly (n : Numeral)
  | atLeast (n : Numeral)
  | between (low high : Numeral)

instance : Spelled Bounds where
  text
    | .star => ['*']
    | .plus => ['+']
    | .option => ['?']
    | .exactly n => '{' :: n.digits ++ ['}']
    | .atLeast n => '{' :: n.digits ++ [',', '}']
    | .between low high => '{' :: low.digits ++ ',' :: high.digits ++ ['}']

structure Quantifier where
  bounds : Bounds
  reluctant : Bool

instance : Spelled Quantifier :=
  ⟨fun q => text q.bounds ++ (if q.reluctant then ['?'] else [])⟩

instance {α : Type} [Spelled α] : Spelled (Option α) where
  text
    | some a => text a
    | none => []

structure GroupName where
  name : Text
  nonempty : name ≠ []
  allowed : ∀ c ∈ name, BuiltinRules.isNameChar c

inductive Leaf where
  | literal (c : Literal)
  | escaped (e : Escapable)
  | dot
  | caret
  | dollar
  | noChar
  | anyChar
  | members (c : FlatClass)
  | reference (n : GroupName)

instance : Spelled Leaf where
  text
    | .literal c => [c.char]
    | .escaped e => text e
    | .dot => ['.']
    | .caret => ['^']
    | .dollar => ['$']
    | .noChar => ['[', ']']
    | .anyChar => ['[', '^', ']']
    | .members c => text c
    | .reference n => ['\\', 'k', '<'] ++ n.name ++ ['>']

def lookText (ahead negative : Bool) : Text :=
  ['(', '?'] ++ (if ahead then [] else ['<']) ++ [if negative then '!' else '=']

inductive Opener where
  | plain
  | named (n : GroupName) (word : ∃ c ∈ n.name, NativeToken.isDigit c = false)
  | grouping
  | look (ahead negative : Bool)

instance : Spelled Opener where
  text
    | .plain => ['(']
    | .named n _ => ['(', '?', '<'] ++ n.name ++ ['>']
    | .grouping => ['(', '?', ':']
    | .look ahead negative => lookText ahead negative

inductive NativeLeaf where
  | literal (c : Literal)
  | escaped (e : Escapable)
  | dot
  | caret
  | dollar
  | noMatch
  | anyMatch
  | members (c : FlatClass)
  | backreference (number : Nat) (fenced : Bool)
  | unresolved (n : GroupName)

instance : Spelled NativeLeaf where
  text
    | .literal c => [c.char]
    | .escaped e => text e
    | .dot => ['.']
    | .caret => ['^']
    | .dollar => ['$']
    | .noMatch => ['\\', 'b', '\\', 'B']
    | .anyMatch => ['[', '\\', 's', '\\', 'S', ']']
    | .members c => text c
    | .backreference number fenced =>
      '\\' :: Text.decimal number ++ (if fenced then ['(', '?', ':', ')'] else [])
    | .unresolved n => ['\\', 'k', '<'] ++ n.name ++ ['>']

inductive NativeOpener where
  | capture
  | grouping
  | look (ahead negative : Bool)

instance : Spelled NativeOpener where
  text
    | .capture => ['(']
    | .grouping => ['(', '?', ':']
    | .look ahead negative => lookText ahead negative

inductive Expression (leaf opener : Type) where
  | empty
  | atom (l : leaf) (q : Option Quantifier)
  | group (o : opener) (body : Expression leaf opener) (q : Option Quantifier)
  | seq (first second : Expression leaf opener)
  | alt (first second : Expression leaf opener)

namespace Expression

def print {leaf opener : Type} [Spelled leaf] [Spelled opener] : Expression leaf opener → Text
  | empty => []
  | atom l q => text l ++ text q
  | group o body q => text o ++ print body ++ ')' :: text q
  | seq first second => print first ++ print second
  | alt first second => print first ++ '|' :: print second

end Expression

abbrev Extended := Expression Leaf Opener

abbrev Native := Expression NativeLeaf NativeOpener

def digitFollows (rest : Text) : Bool := (rest.head?.map NativeToken.isDigit).getD false

def Leaf.translate (flags : FlagSet) (slots : List (Option Text)) (rest : Text) : Leaf → NativeLeaf
  | literal c => .literal c
  | escaped e => .escaped e
  | dot => if flags.has .dotAll then .anyMatch else .dot
  | caret => .caret
  | dollar => .dollar
  | noChar => .noMatch
  | anyChar => .anyMatch
  | members c => .members c
  | reference n =>
    match slots.findIdx? (· == some n.name) with
    | some slot => .backreference (slot + 1) (digitFollows rest)
    | none => .unresolved n

def Opener.translate (flags : FlagSet) : Opener → NativeOpener
  | plain => if flags.has .explicitCapture then .grouping else .capture
  | named _ _ => .capture
  | grouping => .grouping
  | look ahead negative => .look ahead negative

def Opener.slots (flags : FlagSet) : Opener → List (Option Text)
  | plain => if flags.has .explicitCapture then [] else [none]
  | named n _ => [some n.name]
  | grouping => []
  | look _ _ => []

namespace Expression

def slots (flags : FlagSet) : Extended → List (Option Text)
  | empty => []
  | atom _ _ => []
  | group o body _ => o.slots flags ++ slots flags body
  | seq first second => slots flags first ++ slots flags second
  | alt first second => slots flags first ++ slots flags second

def translate (flags : FlagSet) : Extended → List (Option Text) → Text → Native
  | empty, _, _ => empty
  | atom l q, opened, rest => atom (l.translate flags opened (text q ++ rest)) q
  | group o body q, opened, rest =>
    group (o.translate flags) (translate flags body (opened ++ o.slots flags) (')' :: text q ++ rest)) q
  | seq first second, opened, rest =>
    seq (translate flags first opened (print second ++ rest))
      (translate flags second (opened ++ slots flags first) rest)
  | alt first second, opened, rest =>
    alt (translate flags first opened ('|' :: print second ++ rest))
      (translate flags second (opened ++ slots flags first) rest)

end Expression
end ExtendedPattern
