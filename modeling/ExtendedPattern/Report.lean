import ExtendedPattern.Compile

/-! The report of the command line: what a pattern is rewritten to, and what came of it. -/
namespace ExtendedPattern.Report

def shownLength : Nat := 120

def line (label value : Text) : Text := [' ', ' '] ++ label ++ ": ".toList ++ value ++ ['\n']

def nativeText (native : Text) : Text :=
  if native.length ≤ shownLength then Quoted.ofText native
  else
    Quoted.ofText (native.take shownLength) ++ "... (".toList ++ Text.decimal native.size ++
      " bytes)".toList

def slotText : Option Text → Text
  | some name => "Some(".toList ++ Quoted.ofText name ++ [')']
  | none => "None".toList

def slotsText (slots : List (Option Text)) : Text :=
  '[' :: (List.intercalate [',', ' '] (slots.map slotText)) ++ [']']

def namesLine : Option (List (Option Text)) → Text
  | some slots => line "Names".toList (slotsText slots)
  | none => []

def ofPattern (p : Pattern) : Text :=
  line "Native".toList (nativeText p.native) ++ line "Flags".toList p.flags.letters ++
    line "Groups".toList (Text.decimal p.groupCount) ++ namesLine p.names ++
    line "Sticky".toList (if p.isSticky then "true".toList else "false".toList)

def ofFailure (e : Failure) : Text := line "Error".toList (e.message?.getD "the native engine refuses the pattern".toList)

def heading (source letters : Text) : Text :=
  "\nPattern: ".toList ++ Quoted.ofText source ++ [' ', '/'] ++ letters ++ ['\n']

def ofSource (source letters : Text) : Text :=
  heading source letters ++
    match (Pattern.withFlags source letters {}).1 with
    | .ok p => ofPattern p
    | .error e => ofFailure e

def samples : List (String × String) :=
  [("(?<year>\\d\x7b4\x7d)-(?<month>\\d\x7b2\x7d)", ""),
    ("(?x) a b # comment\n c", ""),
    ("\\p\x7bGreek\x7d+ [\\p\x7bLu\x7d\\d]", ""),
    ("a.b", "s"),
    ("(a)(?<b>b)", "n")]

def ofArguments : List Text → Text
  | [] => samples.flatMap fun (source, letters) => ofSource source.toList letters.toList
  | [source] => ofSource source []
  | source :: letters :: _ => ofSource source letters

end ExtendedPattern.Report
