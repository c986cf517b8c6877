import ExtendedPattern.Quoted

/-! What compiling and matching report as they go, by the part that reports it. -/
namespace ExtendedPattern

inductive Origin where
  | compiler
  | tokens
  | unicode
  | recursive
  | matcher
  deriving DecidableEq, Repr

inductive Event where
  | compiled (pattern native : Text) (slots : Nat)
  | tokenMatched (rule token : Text) (offset : Nat)
  | extensibilityEnabled
  | extensibilityDisabled
  | ruleRegistered (rule : Text)
  | namesRegistered (names aliases : Nat)
  | aliasOfUnknown (new known : Text)
  | delimiterOpened (offset depth : Nat)
  | delimiterClosed (offset depth : Nat)
  | chainLevel (level values : Nat)
  deriving DecidableEq, Repr

namespace Event

def origin : Event → Origin
  | compiled _ _ _ | tokenMatched _ _ _ => .compiler
  | extensibilityEnabled | extensibilityDisabled | ruleRegistered _ | namesRegistered _ _ => .tokens
  | aliasOfUnknown _ _ => .unicode
  | delimiterOpened _ _ | delimiterClosed _ _ => .recursive
  | chainLevel _ _ => .matcher

def level : Event → Text
  | tokenMatched _ _ _ | delimiterOpened _ _ | delimiterClosed _ _ | chainLevel _ _ => "trace".toList
  | _ => "debug".toList

def message : Event → Text
  | compiled pattern native slots =>
    "compiled ".toList ++ Quoted.ofText pattern ++ " -> ".toList ++ Quoted.ofText native ++
      " (".toList ++ Text.decimal slots ++ " capture groups)".toList
  | tokenMatched rule token offset =>
    "token ".toList ++ Quoted.ofText rule ++ " matched ".toList ++ Quoted.ofText token ++
      " at ".toList ++ Text.decimal offset
  | extensibilityEnabled => "token registry extensibility enabled".toList
  | extensibilityDisabled => "token registry extensibility disabled".toList
  | ruleRegistered rule => "registering token rule ".toList ++ Quoted.ofText rule
  | namesRegistered names aliases =>
    "registered ".toList ++ Text.decimal names ++ " Unicode tokens (".toList ++
      Text.decimal aliases ++ " aliases)".toList
  | aliasOfUnknown new known =>
    "Unicode alias ".toList ++ Quoted.ofText new ++ " names unknown token ".toList ++
      Quoted.ofText known
  | delimiterOpened offset depth =>
    "open at ".toList ++ Text.decimal offset ++ ", depth ".toList ++ Text.decimal depth
  | delimiterClosed offset depth =>
    "close at ".toList ++ Text.decimal offset ++ ", depth ".toList ++ Text.decimal depth
  | chainLevel level values =>
    "match chain level ".toList ++ Text.decimal level ++ " produced ".toList ++
      Text.decimal values ++ " values".toList

def line (e : Event) : Text := e.level ++ ' ' :: e.message

end Event
end ExtendedPattern
