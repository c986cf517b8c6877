import ExtendedPattern.Text
import ExtendedPattern.Unicode.CharClasses

/-! Escaping: every character that means something in a pattern is written so that it
stands for itself, white space included, which would vanish in free spacing. -/
namespace ExtendedPattern

def metaChars : List Char :=
  ['-', '[', ']', '{', '}', '(', ')', '*', '+', '?', '.', ',', '\\', '^', '$', '|', '#']

def escapeChar (c : Char) : Text :=
  if c ∈ metaChars then ['\\', c]
  else if Unicode.isSpace c then
    if c.toNat < 0x80 then ['\\', 'x'] ++ Text.hex true 2 c.toNat
    else ['\\', 'u', '{'] ++ Text.hex true 1 c.toNat ++ ['}']
  else [c]

def escape (t : Text) : Text := t.flatMap escapeChar

end ExtendedPattern
