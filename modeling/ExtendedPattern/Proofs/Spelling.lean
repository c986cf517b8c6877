import ExtendedPattern.Compile
import ExtendedPattern.Escape
import ExtendedPattern.Proofs.Translation
import Mathlib.Data.List.Basic
import Mathlib.Tactic.IntervalCases

/-! The text that stands for one character. It compiles to itself, under all flags, and the
engine reads the character from it, inside classes and outside. -/
namespace ExtendedPattern
open Text (size)

namespace Unicode

theorem searchFinds {ranges : RangeTable} {c depth low high : Nat}
    (found : searchRanges ranges c depth low high) :
    ∃ range ∈ ranges.toList, range.1 ≤ c ∧ c ≤ range.2 := by
  induction depth generalizing low high with
  | zero => contradiction
  | succ depth ih =>
    unfold searchRanges at found
    split at found <;> try contradiction
    dsimp only at found
    split at found <;> try contradiction
    rename_i first last there
    split at found
    · exact ih found
    · split at found
      · exact ih found
      · refine ⟨(first, last), ?_, by dsimp only; omega, by dsimp only; omega⟩
        exact Array.mem_toList_iff.mpr (Array.mem_of_getElem? there)

def spaces : List Char := [
  '\t', '\n', '\x0b', '\x0c', '\r', ' ', '\u0085', '\u00a0', '\u1680', '\u2000', '\u2001', '\u2002',
  '\u2003', '\u2004', '\u2005', '\u2006', '\u2007', '\u2008', '\u2009', '\u200a', '\u2028', '\u2029',
  '\u202f', '\u205f', '\u3000']

theorem spaceListed {c : Char} (space : isSpace c) : c ∈ spaces := by
  obtain ⟨range, mem, low, high⟩ := searchFinds space
  have back : c = Char.ofNat c.toNat := (Char.ofNat_toNat c).symm
  rw [back]
  generalize c.toNat = n at low high
  simp only [spaceRanges, List.mem_cons, List.not_mem_nil, or_false] at mem
  rcases mem with rfl | rfl | rfl | rfl | rfl | rfl | rfl | rfl | rfl | rfl <;> dsimp only at low high <;>
    interval_cases n <;> decide

end Unicode

structure Numbers (digits : Text) (c : Char) : Prop where
  length : digits.length = 2 ∨ digits.length = 4
  hex : ∀ d ∈ digits, NativeToken.isHexDigit d ∧ Engine.isHex d
  value : Engine.codePoint? digits = some c

theorem Numbers.present {digits : Text} {c : Char} (numbers : Numbers digits c) : 0 < digits.length := by
  have length := numbers.length
  omega

inductive Spelling (c : Char) : Text → Prop where
  | plain (solid : Unicode.isSpace c = false) (ordinary : c ∉ metaChars) : Spelling c [c]
  | escaped (special : c ∈ metaChars) : Spelling c ['\\', c]
  | byte {first second : Char} (numbers : Numbers [first, second] c) : Spelling c ['\\', 'x', first, second]
  | braced {digits : Text} (numbers : Numbers digits c) : Spelling c ('\\' :: 'u' :: '{' :: (digits ++ ['}']))

theorem spellingShort {c : Char} {spelling : Text} (spells : Spelling c spelling) : spelling.length ≤ 8 := by
  cases spells with
  | plain | escaped | byte => simp
  | braced numbers =>
    have digits := numbers.length
    simp only [List.length_cons, List.length_append, List.length_nil]
    omega

def tells (digits : Text) (c : Char) : Bool :=
  (digits.length == 2 || digits.length == 4) &&
    digits.all (fun d => NativeToken.isHexDigit d && Engine.isHex d) && Engine.codePoint? digits == some c

theorem numbersOfTells {digits : Text} {c : Char} (told : tells digits c) : Numbers digits c := by
  simp only [tells, Bool.and_eq_true, Bool.or_eq_true, beq_iff_eq, List.all_eq_true] at told
  exact ⟨told.1.1, told.1.2, told.2⟩

theorem byteNumbers {c : Char} (mem : c ∈ Unicode.spaces) (low : c.toNat < 0x80) :
    (Text.hex true 2 c.toNat).length = 2 ∧ Numbers (Text.hex true 2 c.toNat) c := by
  have facts : Unicode.spaces.all (fun c => !(c.toNat < 0x80) ||
      ((Text.hex true 2 c.toNat).length == 2 && tells (Text.hex true 2 c.toNat) c)) = true := by
    decide +kernel
  have told := List.all_eq_true.mp facts c mem
  simp only [low, decide_true, Bool.not_true, Bool.false_or, Bool.and_eq_true, beq_iff_eq] at told
  exact ⟨told.1, numbersOfTells told.2⟩

theorem bracedNumbers {c : Char} (mem : c ∈ Unicode.spaces) (high : ¬ c.toNat < 0x80) :
    Numbers (Text.hex true 1 c.toNat) c := by
  have facts : Unicode.spaces.all (fun c => c.toNat < 0x80 || tells (Text.hex true 1 c.toNat) c) = true := by
    decide +kernel
  have told := List.all_eq_true.mp facts c mem
  simp only [high, decide_false, Bool.false_or] at told
  exact numbersOfTells told

theorem spelled (c : Char) : Spelling c (escapeChar c) := by
  by_cases special : c ∈ metaChars
  · rw [escapeChar, if_pos special]
    exact .escaped special
  cases space : Unicode.isSpace c with
  | false =>
    have plain : escapeChar c = [c] := by simp [escapeChar, special, space]
    rw [plain]
    exact .plain space special
  | true =>
    have listed := Unicode.spaceListed space
    by_cases low : c.toNat < 0x80
    · obtain ⟨length, numbers⟩ := byteNumbers listed low
      have byte : escapeChar c = ['\\', 'x'] ++ Text.hex true 2 c.toNat := by
        simp [escapeChar, special, space, low]
      rw [byte]
      generalize Text.hex true 2 c.toNat = digits at length numbers
      obtain ⟨first, second, rfl⟩ := List.length_eq_two.mp length
      exact .byte numbers
    · have braced : escapeChar c = '\\' :: 'u' :: '{' :: (Text.hex true 1 c.toNat ++ ['}']) := by
        simp [escapeChar, special, space, low]
      rw [braced]
      exact .braced (bracedNumbers listed low)

namespace NativeToken

theorem byteLength {first second : Char} (hex : ∀ d ∈ [first, second], isHexDigit d) (rest : Text) :
    length? .outside ('\\' :: 'x' :: first :: second :: rest) = some (size ['\\', 'x', first, second]) := by
  have ascii : ∀ d ∈ ['\\', 'x', first, second], d.utf8Size = 1 := by
    simp only [List.forall_mem_cons] at hex ⊢
    exact ⟨rfl, rfl, hexSize hex.1, hexSize hex.2.1, by simp⟩
  have digits : isHexDigit first = true ∧ isHexDigit second = true := by simpa using hex
  rw [Text.sizeOfAscii ascii]
  simp [length?, escapeLength?, isOctal, hexLength, digits]

theorem bracedLength {digits : Text} (present : 0 < digits.length) (hex : ∀ d ∈ digits, isHexDigit d)
    (rest : Text) :
    length? .outside ('\\' :: 'u' :: '{' :: (digits ++ ['}']) ++ rest) =
      some (size ('\\' :: 'u' :: '{' :: (digits ++ ['}']))) := by
  have ascii : ∀ d ∈ '\\' :: 'u' :: '{' :: (digits ++ ['}']), d.utf8Size = 1 := by
    simp only [List.forall_mem_cons, List.forall_mem_append]
    exact ⟨rfl, rfl, rfl, fun d mem => hexSize (hex d mem), rfl, by simp⟩
  have inner : (digits ++ '}' :: rest).takeWhile isHexDigit = digits := Text.takeWhileEnds hex (by decide)
  have brace : isHexDigit '{' = false := by decide
  rw [Text.sizeOfAscii ascii]
  simp [length?, escapeLength?, isOctal, hexLength, inner, brace, present]
  omega

end NativeToken

namespace Scanning
variable {locals : List LocalRule} {r : Registry} {input before rest : Text} {context : Context}

theorem ofSpelling (standard : r.Standard locals) {c : Char} {spelling : Text} (spells : Spelling c spelling) :
    Writes locals input before spelling rest ⟨.outside, context⟩ ⟨.outside, context⟩ spelling := by
  cases spells with
  | plain solid ordinary =>
    have operator : ∀ d ∈ operators, d ∈ metaChars := by simp [operators, metaChars]
    have sign : c ≠ '#' := by
      rintro rfl
      exact ordinary (by simp [metaChars])
    exact ofLiteral standard ⟨c, solid, sign, fun mem => ordinary (operator c mem)⟩
  | escaped special =>
    have signs : metaChars.all (fun d => !NativeToken.isDigit d && !NativeToken.isLetter d) = true := rfl
    have noWord : NativeToken.isDigit c = false ∧ NativeToken.isLetter c = false := by
      simpa using List.all_eq_true.mp signs c special
    exact ofEscape standard ⟨c, .inl noWord⟩ .outside
  | @byte first second numbers =>
    apply ofNativeToken exceeds
    · exact LocalRule.firstUnread standard .outside (LocalRule.unreadEscape (by decide))
    · exact NativeToken.byteLength (fun d mem => (numbers.hex d mem).1) rest
  | braced numbers =>
    apply ofNativeToken exceeds
    · exact LocalRule.firstUnread standard .outside (LocalRule.unreadEscape (by decide))
    · exact NativeToken.bracedLength numbers.present (fun d mem => (numbers.hex d mem).1) rest

end Scanning

namespace Engine
variable {c : Char} {spelling rest : Text}

theorem hexByteRead {first second : Char} (numbers : Numbers [first, second] c) :
    hexEscape? 2 (first :: second :: rest) = some (.char c true, rest) := by
  have hex : isHex first = true ∧ isHex second = true := by
    simpa using fun d mem => (numbers.hex d mem).2
  simp [hexEscape?, hex, numbers.value]

theorem hexBracesRead {digits : Text} (numbers : Numbers digits c) :
    hexEscape? 4 ('{' :: (digits ++ '}' :: rest)) = some (.char c true, rest) := by
  have inner : (digits ++ '}' :: rest).takeWhile isHex = digits :=
    Text.takeWhileEnds (fun d mem => (numbers.hex d mem).2) (by decide)
  have brace : isHex '{' = false := by decide
  have present : digits ≠ [] := List.ne_nil_of_length_pos numbers.present
  have short : digits.length ≤ 8 := by
    have length := numbers.length
    omega
  simp [hexEscape?, inner, brace, present, short, numbers.value]

theorem metaRead (special : c ∈ metaChars) (inClass : Bool) :
    escape? inClass (c :: rest) = some (.char c false, rest) := by
  simp only [metaChars, List.mem_cons, List.not_mem_nil, or_false] at special
  rcases special with rfl | rfl | rfl | rfl | rfl | rfl | rfl | rfl | rfl | rfl | rfl | rfl | rfl | rfl |
    rfl | rfl | rfl <;> cases inClass <;> rfl

theorem spellingReads (spells : Spelling c spelling) :
    (spelling = [c] ∧ c ∉ metaChars) ∨
      ∃ tail, spelling = '\\' :: tail ∧ ∀ inClass rest, ∃ foldable,
        escape? inClass (tail ++ rest) = some (.char c foldable, rest) := by
  cases spells with
  | plain _ ordinary => exact .inl ⟨rfl, ordinary⟩
  | escaped special => exact .inr ⟨_, rfl, fun inClass rest => ⟨false, metaRead special inClass⟩⟩
  | byte numbers =>
    refine .inr ⟨_, rfl, fun inClass rest => ⟨true, ?_⟩⟩
    rw [← hexByteRead numbers]
    cases inClass <;> rfl
  | @braced digits numbers =>
    refine .inr ⟨_, rfl, fun inClass rest => ⟨true, ?_⟩⟩
    have read : hexEscape? 4 ('{' :: (digits ++ '}' :: rest)) = _ := hexBracesRead numbers
    rw [← read]
    cases inClass <;> simp <;> rfl


theorem spellingStarts (spells : Spelling c spelling) :
    ∃ first tail, spelling = first :: tail ∧ ∀ d ∈ metaChars, d ≠ '\\' → first ≠ d := by
  rcases spellingReads spells with ⟨rfl, ordinary⟩ | ⟨tail, rfl, _⟩
  · refine ⟨c, [], rfl, fun d mem _ same => ?_⟩
    rw [same] at ordinary
    exact ordinary mem
  · exact ⟨'\\', tail, rfl, fun d _ other => Ne.symm other⟩

namespace Reader
variable {limit : Nat} {p : Progress}

theorem spellingAtomOf (limit : Nat) (p : Progress) (spells : Spelling c spelling) (rest : Text) :
    ∃ foldable, atom? limit p (spelling ++ rest) =
      some (.char ((CharSet.single c).underCase (foldable && p.modes.ignoreCase)), p, rest) := by
  rcases spellingReads spells with ⟨rfl, ordinary⟩ | ⟨tail, rfl, reads⟩
  · have noMark : c ≠ '.' ∧ c ≠ '^' ∧ c ≠ '$' ∧ c ≠ '?' ∧ c ≠ '*' ∧ c ≠ '+' ∧ c ≠ '\\' ∧ c ≠ '[' := by
      simp only [metaChars, List.mem_cons, List.not_mem_nil, or_false, not_or] at ordinary
      simp [ordinary]
    exact ⟨true, by simp [atom?, noMark]⟩
  · obtain ⟨foldable, reads⟩ := reads false rest
    exact ⟨foldable, by simp [atom?, reads, escaped?]⟩

end Reader

namespace ClassReader

theorem spellingMark (spells : Spelling c spelling) :
    ∃ m : Mark, m.toSet = .single c ∧ (∀ d ∈ metaChars, m ≠ .raw d) ∧
      ∀ fuel depth rest, marks? (fuel + 1) depth (spelling ++ rest) =
        (marks? fuel depth rest).map fun (ms, rest) => (m :: ms, rest) := by
  rcases spellingReads spells with ⟨rfl, ordinary⟩ | ⟨tail, rfl, reads⟩
  · refine ⟨.raw c, rfl, ?_, fun fuel depth rest => ?_⟩
    · rintro d mem same
      cases same
      exact ordinary mem
    · have noMark : c ≠ '\\' ∧ c ≠ '[' ∧ c ≠ ']' := by
        simp only [metaChars, List.mem_cons, List.not_mem_nil, or_false, not_or] at ordinary
        simp [ordinary]
      simp [marks?, noMark]
  · refine ⟨.char c, rfl, by simp, fun fuel depth rest => ?_⟩
    obtain ⟨foldable, reads⟩ := reads true rest
    simp [marks?, reads]

def otherUnder (ignoreCase : Bool) (c : Char) : CharSet :=
  .complement ((CharSet.union .empty (.single c)).underCase ignoreCase)

theorem otherReadUnder (ignoreCase : Bool) (spells : Spelling c spelling) :
    class? ignoreCase ('^' :: (spelling ++ ']' :: rest)) = some (otherUnder ignoreCase c, [], rest) := by
  obtain ⟨m, set, noMark, marks⟩ := spellingMark spells
  obtain ⟨first, tail, rfl, start⟩ := spellingStarts spells
  have noBracket : first ≠ ']' := start ']' (by simp [metaChars]) (by decide)
  have closed : marks? ((first :: tail ++ ']' :: rest).length + 1) 0 (first :: tail ++ ']' :: rest) =
      some ([m, .raw ']'], rest) := by
    rw [marks]
    simp [marks?]
  rw [List.cons_append] at closed ⊢
  have opening : openingMarks? ('^' :: first :: (tail ++ ']' :: rest)) =
      some ([.raw '^', m, .raw ']'], rest) := by
    simp only [openingMarks?]
    split
    · rename_i same
      exact absurd (List.cons.inj same).1 noBracket
    · dsimp only
      rw [closed]
      rfl
  have level : openLevel [.raw '^', m, .raw ']'] = ({ negated := true, items := .empty }, [m, .raw ']']) := by
    have noDash : (m == .raw '-') = false := by simpa using noMark '-' (by simp [metaChars])
    have noClose := noMark ']' (by simp [metaChars])
    simp [openLevel, noDash, noClose]
  have item : item? [m, .raw ']'] = some (.single c, [.raw ']']) := by
    simp [item?, set]
  have body : read? ignoreCase 4 [m, .raw ']'] { negated := true, items := .empty } [] =
      some (otherUnder ignoreCase c, []) := by
    have noOpen := noMark '[' (by simp [metaChars])
    have noClose := noMark ']' (by simp [metaChars])
    rw [read?, item]
    · rfl
    all_goals simp [noOpen, noClose]
  simp [class?, opening, level, body]

def other (c : Char) : CharSet := .complement (.union .empty (.single c))

theorem otherRead (spells : Spelling c spelling) :
    class? false ('^' :: (spelling ++ ']' :: rest)) = some (other c, [], rest) :=
  otherReadUnder false spells

theorem anythingReadUnder (ignoreCase : Bool) :
    class? ignoreCase ("\\S\\s]".toList ++ rest) =
      some ((CharSet.union (.union .empty (.complement .space)) .space).underCase ignoreCase, [], rest) := by
  cases ignoreCase <;> rfl

theorem anythingRead : class? false ("\\S\\s]".toList ++ rest) =
    some (.union (.union .empty (.complement .space)) .space, [], rest) :=
  anythingReadUnder false

end ClassReader

namespace Reader
variable {limit fuel : Nat} {t : Text} {p : Progress} {frame : Frame} {outer : List Frame}

theorem skipsNothing (solid : p.modes.freeSpacing = false) (noComment : t.take 3 ≠ ['(', '?', '#']) :
    skip? p t = some t := by
  unfold skip? skipBlank?
  split
  · rfl
  split
  · simp at noComment
  · simp [solid]
  · simp [solid]
  · rfl

theorem unquantified (n : Node) (blank : skip? p t = some t) (plain : quantifier? p t = none) :
    quantified? p n t = some (n, t) := by
  simp [quantified?, blank, plain]

theorem opensGroup {rest : Text} {p : Progress} (shallow : outer.length + 1 < maxDepth) :
    read? limit (fuel + 1) ('(' :: '?' :: ':' :: rest) p frame outer =
      read? limit fuel rest p { opening := .modes p.modes } (frame :: outer) := by
  simp [read?, skip?, skipBlank?, shallow, open?, modes?]

theorem atomRead {c : Char} {rest : Text} {n : Node} (plain : c ≠ '(' ∧ c ≠ ')' ∧ c ≠ '|')
    (still : skip? p (c :: t) = some (c :: t)) (atom : atom? limit p (c :: t) = some (n, p, rest))
    (blank : skip? p rest = some rest) (noQuantifier : quantifier? p rest = none) :
    read? limit (fuel + 1) (c :: t) p frame outer = read? limit fuel rest p (frame.add n) outer := by
  simp [read?, still, plain, atom, unquantified _ blank noQuantifier]

theorem spellingReadOf {p : Progress} (solid : p.modes.freeSpacing = false) (spells : Spelling c spelling)
    (blank : skip? p rest = some rest) (plain : quantifier? p rest = none) :
    ∃ foldable, read? limit (fuel + 1) (spelling ++ rest) p frame outer =
      read? limit fuel rest p
        (frame.add (.char ((CharSet.single c).underCase (foldable && p.modes.ignoreCase)))) outer := by
  obtain ⟨foldable, atom⟩ := spellingAtomOf limit p spells rest
  obtain ⟨first, tail, rfl, start⟩ := spellingStarts spells
  have noMark : first ≠ '(' ∧ first ≠ ')' ∧ first ≠ '|' := by
    refine ⟨start _ ?_ ?_, start _ ?_ ?_, start _ ?_ ?_⟩ <;> simp [metaChars]
  rw [List.cons_append] at atom ⊢
  exact ⟨foldable, atomRead noMark (skipsNothing solid (by simp [noMark])) atom blank plain⟩

theorem spellingRead (spells : Spelling c spelling) (blank : skip? {} rest = some rest)
    (plain : quantifier? {} rest = none) :
    read? limit (fuel + 1) (spelling ++ rest) {} frame outer =
      read? limit fuel rest {} (frame.add (.char (.single c))) outer := by
  obtain ⟨foldable, read⟩ := spellingReadOf (p := {}) rfl spells blank plain
  rw [read, Bool.and_false]
  rfl

end Reader
end Engine
end ExtendedPattern
