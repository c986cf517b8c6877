import ExtendedPattern.Rewrite
import ExtendedPattern.Unicode.CharClasses

/-! The built-in token rules: named groups and references, leading modes, comments, free
spacing, the dot that matches everything, empty classes and explicit capture. -/
namespace ExtendedPattern.BuiltinRules

def token (size : Nat) (groups : List Span := []) : Groups := (⟨0, size⟩ :: groups).map some

def isNameChar (c : Char) : Bool :=
  NativeToken.isDigit c || NativeToken.isLetter c || c == '_' || c == '$'

def nameToken (opener : Nat) (t : Text) : Option Groups :=
  let name := t.takeWhile isNameChar
  if name ≠ [] ∧ t[name.length]? = some '>' then
    some (token (opener + name.length + 1) [⟨opener, opener + name.length⟩])
  else none

def closedToken (close : Char) (opener : Nat) (t : Text) : Option Groups :=
  let inner := t.takeWhile (· != close)
  if inner.length < t.length then some (token (opener + Text.size inner + 1)) else none

def blankSize (inComment : Bool) : Text → Nat
  | [] => 0
  | c :: rest =>
    if inComment then
      if c = '\n' then c.utf8Size + blankSize false rest else c.utf8Size + blankSize true rest
    else if Unicode.isSpace c then c.utf8Size + blankSize false rest
    else if c = '#' then c.utf8Size + blankSize true rest
    else 0

def unicodeToken : Text → Option Groups
  | '\\' :: 'p' :: '{' :: rest => closedToken '}' 3 rest
  | '\\' :: 'P' :: '{' :: rest => closedToken '}' 3 rest
  | _ => none

def emptyClass : Text → Option Groups
  | '[' :: ']' :: _ => some (token 2)
  | '[' :: '^' :: ']' :: _ => some (token 3)
  | _ => none

def comment : Text → Option Groups
  | '(' :: '?' :: '#' :: rest => closedToken ')' 3 rest
  | _ => none

def isModeLetter (c : Char) : Bool := ['i', 'm', 'n', 's', 'x'].contains c

def leadingModes (offset : Nat) : Text → Option Groups
  | '(' :: '?' :: rest =>
    let letters := rest.takeWhile isModeLetter
    if offset = 0 ∧ letters ≠ [] ∧ rest[letters.length]? = some ')' then
      some (token (letters.length + 3) [⟨2, 2 + letters.length⟩])
    else none
  | _ => none

def reference : Text → Option Groups
  | '\\' :: 'k' :: '<' :: rest => nameToken 3 rest
  | _ => none

def blank (t : Text) : Option Groups :=
  let size := blankSize false t
  if size = 0 then none else some (token size)

def dot : Text → Option Groups
  | '.' :: _ => some (token 1)
  | _ => none

def namedOpener : Text → Option Groups
  | '(' :: '?' :: '<' :: rest => nameToken 3 rest
  | _ => none

/-- Text for syntax that vanishes: an empty group keeps its neighbours apart, but a
quantifier behind it belongs to what stands before it. -/
def separator (m : TokenMatch) : Text :=
  if NativeToken.startsWithQuantifier m.rest then [] else "(?:)".toList

def noMatch : Text := "\\b\\B".toList

def anyMatch : Text := "[\\s\\S]".toList

abbrev Handler := TokenMatch → Region → Context → Action (Text × Context)

def constantly (f : TokenMatch → Text) : Handler := fun m _ context => .ok (f m, context)

def unicodePlaceholder : TokenRule where
  pattern := "\\\\[pP]\\".toList ++ ['{'] ++ "\\^?[^".toList ++ ['}'] ++ "]*\\".toList ++ ['}']
  find := TokenRule.finderOf fun _ => unicodeToken
  handle m _ _ := .fail (.unsupportedUnicodeToken m.text)
  regions := .both

def emptyClassRule : TokenRule where
  pattern := "\\[\\^?\\]".toList
  find := TokenRule.finderOf fun _ => emptyClass
  handle := constantly fun m => if m.text = ['[', ']'] then noMatch else anyMatch

def commentRule : TokenRule where
  pattern := "\\(\\?#[^)]*\\)".toList
  find := TokenRule.finderOf fun _ => comment
  handle := constantly separator

def leadingModesRule : TokenRule where
  pattern := "^\\(\\?([imnsx]+)\\)".toList
  find := TokenRule.finderOf leadingModes
  handle m _ context := fun s =>
    match FlagSet.ofLetters ((m.group? 1).getD []) with
    | .ok flags => (.ok ([], context.setFlags flags), s)
    | .error e => (.error e, s)

def startsWithDigit (t : Text) : Bool := (t.head?.map NativeToken.isDigit).getD false

def referenceText (m : TokenMatch) (context : Context) : Text :=
  match context.index? ((m.group? 1).getD []) with
  | some index =>
    '\\' :: Text.decimal (index + 1) ++ (if startsWithDigit m.rest then "(?:)".toList else [])
  | none => m.text

def referenceRule : TokenRule where
  pattern := "\\\\k<([A-Za-z0-9_$]+)>".toList
  find := TokenRule.finderOf fun _ => reference
  handle m _ context := .ok (referenceText m context, context)

def onFlag (flag : Flag) : Context → Session → Bool × Session :=
  fun context s => (context.has flag, s)

def blankRule : TokenRule where
  pattern := "(?:\\s+|#.*)+".toList
  find := TokenRule.finderOf fun _ => blank
  handle := constantly separator
  trigger := some (onFlag .extended)

def dotRule : TokenRule where
  pattern := "\\.".toList
  find := TokenRule.finderOf fun _ => dot
  handle := constantly fun _ => anyMatch
  trigger := some (onFlag .dotAll)

def namedOpenerRule : TokenRule where
  pattern := "\\(\\?<([A-Za-z0-9_$]+)>".toList
  find := TokenRule.finderOf fun _ => namedOpener
  handle m _ context :=
    let name := (m.group? 1).getD []
    if name.all NativeToken.isDigit then .fail (.invalidCaptureName name)
    else .ok (['('], context.push (some name))

def plainOpenerRule : TokenRule where
  pattern := "\\((?!\\?)".toList
  find := TokenRule.nativeFinder "\\((?!\\?)".toList
  handle _ _ context :=
    if context.has .explicitCapture then .ok ("(?:".toList, context)
    else .ok (['('], context.push none)

def all : List TokenRule :=
  [unicodePlaceholder, emptyClassRule, commentRule, leadingModesRule, referenceRule, blankRule,
    dotRule, namedOpenerRule, plainOpenerRule]

end ExtendedPattern.BuiltinRules
