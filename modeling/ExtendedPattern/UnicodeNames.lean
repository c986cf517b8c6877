import ExtendedPattern.CodePointSet
import ExtendedPattern.TokenRule
import ExtendedPattern.Unicode.LowerCase

/-! Names of sets of code points, and the rule for tokens that use them. Spelling does not
count: case, spaces, hyphens and underscores are put aside. -/
namespace ExtendedPattern

def slug (name : Text) : Text :=
  (name.filter fun c => c != ' ' && c != '-' && c != '_').flatMap Unicode.lower

structure UnicodeNames where
  entries : List (Text × CodePointSet)

namespace UnicodeNames

def empty : UnicodeNames := ⟨[]⟩

def find? (names : UnicodeNames) (name : Text) : Option CodePointSet :=
  names.entries.lookup (slug name)

def contains (names : UnicodeNames) (name : Text) : Bool := (names.find? name).isSome

def define (names : UnicodeNames) (name : Text) (s : CodePointSet) : UnicodeNames :=
  ⟨(slug name, s) :: names.entries⟩

def addAlias (names : UnicodeNames) (known new : Text) : UnicodeNames × List Event :=
  match names.find? known with
  | some s => (names.define new s, [])
  | none => (names, [.aliasOfUnknown new known])

def addAliases (names : UnicodeNames) : List (Text × Text) → UnicodeNames × List Event
  | [] => (names, [])
  | (known, new) :: rest =>
    let (names, first) := names.addAlias known new
    let (names, more) := names.addAliases rest
    (names, first ++ more)

def parseMapping : List (Text × Text) → Except Failure (List (Text × CodePointSet))
  | [] => .ok []
  | (name, data) :: rest => do
    let s ← CodePointSet.parse data
    let more ← parseMapping rest
    .ok ((name, s) :: more)

def add (names : UnicodeNames) (mapping aliases : List (Text × Text)) :
    Except Failure (UnicodeNames × List Event) := do
  let parsed ← parseMapping mapping
  let names := parsed.foldl (fun names (name, s) => names.define name s) names
  .ok (names.addAliases aliases)

def token : Text → Option Groups
  | '\\' :: letter :: '{' :: rest =>
    if letter = 'p' ∨ letter = 'P' then
      let caret := if rest.head? = some '^' then 1 else 0
      let name := (rest.drop caret).takeWhile (· != '}')
      if caret + name.length < rest.length then
        let stop := 3 + caret + Text.size name
        some ([⟨0, stop + 1⟩, ⟨1, 2⟩, ⟨3, 3 + caret⟩, ⟨3 + caret, stop⟩].map some)
      else none
    else none
  | _ => none

def nativeText (s : CodePointSet) (inverted : Bool) : Region → Text
  | .inside => if inverted then s.invert.classBody else s.classBody
  | .outside =>
    if s.classBody = [] then (if inverted then "[\\s\\S]".toList else "\\b\\B".toList)
    else if inverted then "[^".toList ++ s.classBody ++ [']']
    else '[' :: s.classBody ++ [']']

def handle (names : UnicodeNames) (m : TokenMatch) (region : Region) (context : Context) :
    Action (Text × Context) :=
  let upper := m.group? 1 == some ['P']
  let caret := m.group? 2 == some ['^']
  if upper && caret then .fail (.malformedToken m.text)
  else
    match names.find? ((m.group? 3).getD []) with
    | none => .fail (.unsupportedUnicodeToken m.text)
    | some s => .ok (nativeText s (upper || caret) region, context)

def rule (names : UnicodeNames) : TokenRule where
  pattern :=
    "\\\\([pP])\\".toList ++ ['{'] ++ "(\\^?)([^".toList ++ ['}'] ++ "]*)\\".toList ++ ['}']
  find := TokenRule.finderOf fun _ => token
  handle := names.handle
  regions := .both

end UnicodeNames
end ExtendedPattern
