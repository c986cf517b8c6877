import ExtendedPattern.Proofs.CharacterSearch

/-! The pattern for a run without delimiters. Whatever the three characters are, its text is read
as the same tree, and the tree becomes the same plan. -/
namespace ExtendedPattern.Engine

def everything : CharSet := .union (.union .empty (.complement .space)) .space

namespace Reader
variable {limit fuel : Nat} {t rest behind : Text} {frame parent : Frame} {outer : List Frame} {n : Node}

variable {p : Progress}

theorem barRead : read? limit (fuel + 1) ('|' :: rest) p frame outer =
    read? limit fuel rest p frame.nextBranch outer := by
  simp [read?, skip?, skipBlank?]

theorem classRead {s : CharSet} (read : ClassReader.class? p.modes.ignoreCase t = some (s, [], rest))
    (blank : skip? p rest = some rest) (plain : quantifier? p rest = none) :
    read? limit (fuel + 1) ('[' :: t) p frame outer =
      read? limit fuel rest p (frame.add (.char s)) outer := by
  refine atomRead (by decide) ?_ ?_ blank plain
  · simp [skip?, skipBlank?]
  · simp [atom?, read, Node.ofItems]

theorem opensRejection (shallow : outer.length + 1 < maxDepth) :
    read? limit (fuel + 1) ('(' :: '?' :: '!' :: rest) p frame outer =
      read? limit fuel rest p { opening := .look true true } (frame :: outer) := by
  simp [read?, skip?, skipBlank?, shallow, open?]

theorem closes {q : Progress} (ends : p.canEnd frame) (kept : (close p frame).2 = q)
    (quantified : quantified? q (close p frame).1 rest = some (n, behind)) :
    read? limit (fuel + 1) (')' :: rest) p frame (parent :: outer) =
      read? limit fuel behind q (parent.add n) outer := by
  simp [read?, skip?, skipBlank?, ends, kept, quantified]

end Reader

def escapedTree (e : Char) : Node := .seq [.char (.single e), .char everything]

def plainTree (l r e : Char) : Node :=
  .seq [.look true true (.alt [.char (.single l), .char (.single r)]), .char (ClassReader.other e)]

def runTree (l r e : Char) : Node :=
  .repeated 1 none true (.alt [escapedTree e, .repeated 1 none true (plainTree l r e)])

theorem runText (escaped left right : Text) : Balanced.escapeText escaped left right =
    '(' :: '?' :: ':' :: (escaped ++ '[' :: ("\\S\\s]".toList ++
      '|' :: '(' :: '?' :: ':' :: '(' :: '?' :: '!' :: (left ++ '|' :: (right ++ ')' :: '[' :: '^' :: (escaped ++ ']' :: [')', '+', ')', '+']))))) := by
  have regroup (first second third fourth : Text) :
      first ++ escaped ++ second ++ left ++ ['|'] ++ right ++ third ++ escaped ++ fourth =
        first ++ (escaped ++ (second ++ (left ++ '|' :: (right ++ (third ++ (escaped ++ fourth)))))) := by
    simp
  exact regroup "(?:".toList "[\\S\\s]|(?:(?!".toList ")[^".toList "])+)+".toList

theorem runTextLong (escaped left right : Text) : 14 ≤ (Balanced.escapeText escaped left right).length + 1 := by
  rw [runText]
  simp only [List.length_cons, List.length_append]
  omega

theorem runTreeRead {l r e : Char} {left right escaped : Text} (spellsLeft : Spelling l left)
    (spellsRight : Spelling r right) (spellsEscape : Spelling e escaped) :
    Reader.tree? (Balanced.escapeText escaped left right) = some (runTree l r e, {}) := by
  have ends (frame : Reader.Frame) : Reader.Progress.canEnd {} frame = true := by simp [Reader.Progress.canEnd]
  have read (limit fuel : Nat) : Reader.read? limit (fuel + 14) (Balanced.escapeText escaped left right) {}
      { opening := .modes {} } [] = some (runTree l r e, {}) := by
    rw [runText, Reader.opensGroup (by simp [Reader.maxDepth])]
    rw [Reader.spellingRead spellsEscape rfl rfl, Reader.classRead ClassReader.anythingRead rfl rfl]
    rw [Reader.barRead, Reader.opensGroup (by simp [Reader.maxDepth])]
    rw [Reader.opensRejection (by simp [Reader.maxDepth]), Reader.spellingRead spellsLeft rfl rfl]
    rw [Reader.barRead, Reader.spellingRead spellsRight rfl rfl, Reader.closes (q := {}) (ends _) rfl rfl]
    rw [Reader.classRead (ClassReader.otherRead spellsEscape) rfl rfl, Reader.closes (q := {}) (ends _) rfl rfl]
    rw [Reader.closes (q := {}) (ends _) rfl rfl]
    rfl
  obtain ⟨fuel, long⟩ := Nat.exists_eq_add_of_le' (runTextLong escaped left right)
  rw [Reader.tree?, long, read]

namespace Lockstep

theorem runTwo (s u : CharSet) (groups : Nat) (before after : Text) (offset : Nat) :
    run #[.one s, .one u] groups ⟨before, after, offset⟩ =
      match after with
      | d :: e :: rest =>
        if s.has d && u.has e then
          some ⟨Slots.blank groups, ⟨e :: d :: before, rest, offset + d.utf8Size + e.utf8Size⟩⟩
        else none
      | _ => none := by
  rcases after with _ | ⟨d, _ | ⟨e, rest⟩⟩
  · simp [run, settle, follow, race]
  · cases takes : s.has d <;> simp [run, settle, follow, race, Thread.take?, Thread.move, takes]
  · cases takes : s.has d <;> cases takes' : u.has e <;> cases rest <;>
      simp [run, settle, follow, race, Thread.take?, Thread.move, takes, takes']

def either (s u : CharSet) : Array Step := #[.fork 1 3, .one s, .jump 2, .one u]

end Lockstep

namespace Plan

def escapedPlan (e : Char) : Plan := .seq [.delegate #[.one (.single e), .one everything] []]

def plainPlan (l r e : Char) : Plan :=
  .seq [.look 0 true (.delegate (Lockstep.either (.single l) (.single r)) []),
    .delegate #[.one (ClassReader.other e)] []]

def runPlan (l r e : Char) : Plan :=
  .loop true true (.alt [escapedPlan e, .loop true true (plainPlan l r e)])

def Setting.standard : Setting := ⟨[], Program.defaultCodeLimit⟩

theorem singleWeight (c : Char) : (CharSet.single c).weight ≤ 64 := by
  simp only [CharSet.single, CharSet.weight]
  split <;> omega

theorem escapedPlanMade (e : Char) (depth next : Nat) :
    ofNode .standard (depth + 1) true (escapedTree e) next = some (escapedPlan e, next) := by
  have heavy : everything.weight = 736 := rfl
  have light := singleWeight e
  have fits : (CharSet.single e).weight + 736 ≤ Program.defaultCodeLimit := by
    simp only [Program.defaultCodeLimit]; omega
  have code : Setting.standard.code? (escapedTree e) = some #[.one (.single e), .one everything] := by
    simp [Setting.code?, Setting.standard, escapedTree, Code.isBounded, Code.areBounded, Code.weight,
      Code.weightOfAll, heavy, fits, Code.ofNode, Code.ofSeq]
  have parts : Setting.standard.partition true [.char (.single e), .char everything] =
      ([.char (.single e), .char everything], [], []) := rfl
  have front : Setting.standard.delegate? [.char (.single e), .char everything] =
      some [.delegate #[.one (.single e), .one everything] []] := by
    rw [escapedTree] at code
    simp [Setting.delegate?, Node.ofItems, code, Node.groupsIn, Node.groups]
  have back : Setting.standard.delegate? [] = some [] := rfl
  simp [escapedTree, ofNode, ofNode.all, parts, front, back, escapedPlan]

theorem plainPlanMade (l r e : Char) (depth next : Nat) :
    ofNode .standard (depth + 3) true (plainTree l r e) next = some (plainPlan l r e, next) := by
  have first := singleWeight l
  have second := singleWeight r
  have third := singleWeight e
  have eitherFits : 32 + ((CharSet.single l).weight + (CharSet.single r).weight) ≤
      Program.defaultCodeLimit := by
    simp only [Program.defaultCodeLimit]; omega
  have otherFits : 32 + (CharSet.single e).weight + 64 ≤ Program.defaultCodeLimit := by
    simp only [Program.defaultCodeLimit]; omega
  have either : Setting.standard.code? (.alt [.char (.single l), .char (.single r)]) =
      some (Lockstep.either (.single l) (.single r)) := by
    simp [Setting.code?, Setting.standard, Code.isBounded, Code.areBounded, Code.weight, Code.weightOfAll,
      eitherFits, Code.ofNode, Code.ofAlt, Lockstep.either, Node.isEmpty]
  have other : Setting.standard.code? (.char (ClassReader.other e)) = some #[.one (ClassReader.other e)] := by
    simp [Setting.code?, Setting.standard, Code.isBounded, Code.weight, ClassReader.other, CharSet.weight,
      otherFits, Code.ofNode]
  have parts : Setting.standard.partition true
      [.look true true (.alt [.char (.single l), .char (.single r)]), .char (ClassReader.other e)] =
        ([], [.look true true (.alt [.char (.single l), .char (.single r)])],
          [.char (ClassReader.other e)]) := rfl
  have easy : Setting.standard.isEasy (.alt [.char (.single l), .char (.single r)]) = true := rfl
  simp [plainTree, ofNode, ofNode.all, parts, Setting.delegate?, Node.ofItems, easy, delegated, either, other,
    lookBranch, Node.groups, Node.groupsIn, plainPlan]

theorem runPlanMade (l r e : Char) (depth next : Nat) :
    ofNode .standard (depth + 6) true (runTree l r e) next = some (runPlan l r e, next) := by
  have inner : (Setting.standard.shape (plainTree l r e)).least = 1 := rfl
  have outer : (Setting.standard.shape
      (.alt [escapedTree e, .repeated 1 none true (plainTree l r e)])).least = 1 := rfl
  simp [runTree, ofNode, ofNode.all, escapedPlanMade, plainPlanMade, repetition, inner, outer, runPlan]

end Plan

def Program.ofRun (l r e : Char) : Program := ⟨1, .trial (.runPlan l r e) 0, 1000000⟩

theorem Program.buildRun {l r e : Char} {left right escaped : Text} (spellsLeft : Spelling l left)
    (spellsRight : Spelling r right) (spellsEscape : Spelling e escaped) :
    build? {} (Balanced.escapeText escaped left right) = some (ofRun l r e) := by
  have hard : Plan.Setting.standard.isEasy (runTree l r e) = false := rfl
  have tree := runTreeRead spellsLeft spellsRight spellsEscape
  obtain ⟨depth, deep⟩ : ∃ depth, 2 * (Balanced.escapeText escaped left right).length + 2 = depth + 6 := by
    have long := runTextLong escaped left right
    exact ⟨2 * (Balanced.escapeText escaped left right).length - 4, by omega⟩
  have plan := Plan.runPlanMade l r e depth 0
  rw [Plan.Setting.standard] at hard plan
  simp only [build?, tree, Option.bind_eq_bind, Option.bind_some, Option.getD_none, hard, Bool.false_eq_true,
    if_false, deep, plan]
  rfl

end ExtendedPattern.Engine
