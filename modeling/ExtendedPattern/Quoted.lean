import ExtendedPattern.Text
import ExtendedPattern.Unicode.Printable

/-! Quoted texts and characters, as messages show them: delimiters, the backslash and
whatever is not visible on its own are escaped. -/
namespace ExtendedPattern.Quoted

def codePoint (c : Char) : Text := ['\\', 'u', '{'] ++ Text.hex false 1 c.toNat ++ ['}']

def encodeChar (quote c : Char) : Text :=
  if c = Char.ofNat 0 then ['\\', '0']
  else if c = '\t' then ['\\', 't']
  else if c = '\r' then ['\\', 'r']
  else if c = '\n' then ['\\', 'n']
  else if c = '\\' ∨ c = quote then ['\\', c]
  else if Unicode.isPrintable c then [c]
  else codePoint c

def ofText (t : Text) : Text := '"' :: t.flatMap (encodeChar '"') ++ ['"']

def ofChar (c : Char) : Text := '\x27' :: encodeChar '\x27' c ++ ['\x27']

end ExtendedPattern.Quoted
