import ExtendedPattern.Proofs.Segments
import ExtendedPattern.Proofs.Vanishing

/-! What stands on both sides of syntax that vanishes. An empty group keeps the sides apart, unless a quantifier
follows; then its first character comes next to what was written before. So a question mark can follow a
written parenthesis, and a number in braces an escape that takes such for its digits. -/
namespace ExtendedPattern
open Text (size Apart)

namespace Segment

def Vanishes (g : Segment) : Prop :=
  g.rewritten = true ∧ (['(', '?', '#'] <+: g.source ∨ ∃ c ∈ g.source.head?, Unicode.isSpace c ∨ c = '#')

def IsOpener (g : Segment) : Prop := g.rewritten = true ∧ g.source = ['(']

def IsEscape (g : Segment) : Prop := g.rewritten = false ∧ ['\\'] <+: g.source

def IsNumber (g : Segment) : Prop := g.rewritten = true ∧ ['\\', 'k', '<'] <+: g.source ∧ g.fragment ≠ g.source

theorem Vanishes.starts {g : Segment} (vanishes : g.Vanishes) (rest : Text) : Vanishing.Starts (g.source ++ rest) := by
  obtain ⟨_, ⟨words, comment⟩ | ⟨c, head, blank⟩⟩ := vanishes
  · rw [← comment]
    exact .intro (.inl rfl)
  · obtain ⟨more, source⟩ := List.head?_eq_some_iff.mp head
    rw [source]
    exact .intro (.inr blank.symm)

end Segment

def Text.Braced (t : Text) : Prop := ∃ (n : Numeral) (more : Text), t = '{' :: (n.digits ++ '}' :: more)

namespace NativeToken
variable {t x y : Text} {n : Nat} {c : Char}

theorem hexOfDigit {d : Char} (digit : isDigit d) : isHexDigit d := by
  simp [isHexDigit, digit]

theorem hexNone (other : isHexDigit c = false) (brace : c ≠ '{') (digits : Nat) (positive : 0 < digits) :
    hexLength digits (c :: t) = 0 := by
  obtain ⟨digits, rfl⟩ := Nat.exists_eq_succ_of_ne_zero (Nat.ne_of_gt positive)
  unfold hexLength
  rw [List.take_succ_cons, List.all_cons, other]
  split
  · simp_all
  · split <;> simp_all

theorem hexBraced (m : Numeral) {e : Char} (other : isHexDigit e = false) {digits : Nat} (positive : 0 < digits) :
    hexLength digits ('{' :: (m.digits ++ e :: t)) = 0 ↔ e ≠ '}' := by
  obtain ⟨digits, rfl⟩ := Nat.exists_eq_succ_of_ne_zero (Nat.ne_of_gt positive)
  have run : (m.digits ++ e :: t).takeWhile isHexDigit = m.digits :=
    Text.takeWhileEnds (fun d mem => hexOfDigit (m.decimal d mem)) other
  have brace : isHexDigit '{' = false := by decide
  have nonempty : 0 < m.digits.length := List.length_pos_iff.mpr m.nonempty
  simp [hexLength, brace, run, nonempty]

theorem repeatParts (known : repeatLength? t = some n) :
    ∃ (m : Numeral) (e : Char) (more : Text), (e = '}' ∨ e = ',') ∧ t = m.digits ++ e :: more ∧ m.digits.length + 2 ≤ n := by
  unfold repeatLength? at known
  dsimp only at known
  split at known
  · cases known
  rename_i present
  have parts := Text.takenWhile (p := isDigit) t
  let m : Numeral := ⟨t.takeWhile isDigit, by rwa [digitRun, List.length_eq_zero_iff] at present,
    fun _ => List.mem_takeWhile_imp⟩
  have length : m.digits.length = digitRun t := rfl
  split at known
  · rename_i rest follows
    cases known
    rw [digitRun] at follows
    exact ⟨m, '}', rest, .inl rfl, by rw [follows] at parts; exact parts, by omega⟩
  · rename_i rest follows
    split at known
    · cases known
      rw [digitRun] at follows
      exact ⟨m, ',', rest, .inr rfl, by rw [follows] at parts; exact parts, by omega⟩
    · cases known
  · cases known

theorem repeatInside (length : repeatLength? (x ++ t) = some (size ('{' :: x))) :
    ∃ (m : Numeral) (e : Char) (more : Text), (e = '}' ∨ e = ',') ∧ x = m.digits ++ e :: more := by
  obtain ⟨m, e, behind, ends, split, long⟩ := repeatParts length
  have ascii : e.utf8Size = 1 := by
    rcases ends with rfl | rfl <;> rfl
  have inside : size (m.digits ++ [e]) ≤ size x := by
    have brace : '{'.utf8Size = 1 := rfl
    simp only [Text.sizeAppend, numeralSize, size, ascii, brace] at long ⊢
    omega
  have same : m.digits ++ [e] ++ behind = x ++ t := by simp [split]
  obtain ⟨more, others, rfl, level⟩ := Text.partToPlace ⟨x, t, same, rfl⟩ inside
  rw [← List.append_assoc] at same
  obtain ⟨rfl, _⟩ := Text.splitsOnce same level.symm
  exact ⟨m, e, more, ends, List.append_assoc ..⟩

theorem quantifierSigns (quantified : startsWithQuantifier (c :: t) = true) :
    c ∈ ['?', '*', '+'] ∨ c = '{' ∧ (repeatLength? t).isSome := by
  rw [startsWithQuantifier] at quantified
  split at quantified
  · rename_i mark
    simp only [Bool.or_eq_true, decide_eq_true_eq] at mark
    rcases mark with (rfl | rfl) | rfl <;> exact .inl (by decide)
  · split at quantified
    · rename_i brace
      exact .inr ⟨brace, quantified⟩
    · cases quantified

theorem digitRange (digit : isDigit c) : c = '0' ∨ '1' ≤ c ∧ c ≤ '9' := by
  simp only [isDigit, Bool.and_eq_true, decide_eq_true_eq] at digit
  refine or_iff_not_imp_left.mpr fun other => ⟨?_, digit.2⟩
  have above : '0'.val.toNat ≤ c.val.toNat := digit.1
  have differs : '0'.val.toNat ≠ c.val.toNat := fun same => other (Char.ext (UInt32.toNat_inj.mp same)).symm
  exact Nat.lt_of_le_of_ne above differs

theorem escapeAlone (apart : Apart y) (c : Char) :
    escapeLength? .outside (c :: y) =
      some (1 + c.utf8Size + if c = 'x' then hexLength 2 y else if c = 'u' then hexLength 4 y else 0) := by
  have noLetter : (y.head?.map isLetter).getD false = false := by
    have ends := apart.ends (p := isLetter) fun d letter => by simp [BuiltinRules.isNameChar, letter]
    cases y with
    | nil => rfl
    | cons d rest => exact ends d rfl
  -- Digits behind the escape belong to it, and `y` starts with none; braces behind `x` and `u` are still read.
  by_cases digit : isDigit c
  · have ascii := digitSize digit
    rcases digitRange digit with rfl | range
    · simp [escapeLength?, octalNone apart, ascii]
    · have run : digitRun (c :: y) = 1 := by
        have known := digitRunKnown apart [c]
        simpa [digitRun, digit] using known
      have noZero : c ≠ '0' := by
        rintro rfl
        exact absurd range.1 (by decide)
      have noX : c ≠ 'x' := by
        rintro rfl
        cases digit
      have noU : c ≠ 'u' := by
        rintro rfl
        cases digit
      simp [escapeLength?, noZero, noX, noU, range, run, ascii]
  · have noDigit : isDigit c = false := by simpa using digit
    have noZero : c ≠ '0' := by
      rintro rfl
      cases noDigit
    have noNumber : ('1' ≤ c && c ≤ '9') = false := outsideOfDigits noDigit (by decide) (Char.le_refl '9')
    have noOctal : isOctal c = false := outsideOfDigits noDigit (Char.le_refl '0') (by decide)
    simp only [escapeLength?, decide_eq_false noZero, Bool.false_and, noNumber, noOctal, noLetter, Bool.and_false,
      Bool.false_eq_true, if_false]
    by_cases x : c = 'x'
    · subst x
      rfl
    by_cases u : c = 'u'
    · subst u
      rfl
    simp [x, u]

end NativeToken

inductive Resumes : Text → Text → Prop where
  | fenced {rest : Text} (plain : NativeToken.startsWithQuantifier rest = false) (tail : Text) : Resumes rest ("(?:)".toList ++ tail)
  | sign {c : Char} (mark : c ∈ ['?', '*', '+']) (rest tail : Text) : Resumes (c :: rest) (c :: tail)
  | count (n : Numeral) {e : Char} (ends : e = '}' ∨ e = ',') (rest tail : Text) :
      Resumes ('{' :: (n.digits ++ e :: rest)) ('{' :: (n.digits ++ e :: tail))

namespace Resumes
variable {rest tail : Text}

theorem apart (resumes : Resumes rest tail) : Apart tail := by
  cases resumes with
  | fenced plain tail => exact .intro (by decide) (by decide)
  | sign mark rest tail =>
    simp only [List.mem_cons, List.not_mem_nil, or_false] at mark
    rcases mark with rfl | rfl | rfl <;> exact .intro (by decide) (by decide)
  | count n ends rest tail => exact .intro (by decide) (by decide)

theorem questionMark (resumes : Resumes rest tail) : tail.head? = some '?' ↔ rest.head? = some '?' := by
  cases resumes with
  | fenced plain tail =>
    refine iff_of_false (by simp) fun sign => ?_
    obtain ⟨behind, rfl⟩ := List.head?_eq_some_iff.mp sign
    cases plain
  | sign mark rest tail => exact Iff.rfl
  | count n ends rest tail => exact Iff.rfl

theorem braces (resumes : Resumes rest tail) {digits : Nat} (positive : 0 < digits) :
    NativeToken.hexLength digits tail = 0 ↔ ¬ rest.Braced := by
  cases resumes with
  | fenced plain tail =>
    refine iff_of_true (NativeToken.hexNone (by decide) (by decide) digits positive) ?_
    rintro ⟨n, more, rfl⟩
    have starts := Repetition.countedStarts (.exactly n) more
    simp_all
  | sign mark rest tail =>
    simp only [List.mem_cons, List.not_mem_nil, or_false] at mark
    refine iff_of_true ?_ ?_
    · rcases mark with rfl | rfl | rfl <;> exact NativeToken.hexNone (by decide) (by decide) digits positive
    · rintro ⟨n, more, same⟩
      obtain rfl := (List.cons.inj same).1
      simp at mark
  | @count n e ends rest tail =>
    have other : NativeToken.isHexDigit e = false := by
      rcases ends with rfl | rfl <;> decide
    have noDigit : NativeToken.isDigit e = false := by
      rcases ends with rfl | rfl <;> decide
    rw [NativeToken.hexBraced n other positive]
    refine not_congr ⟨fun close => ⟨n, rest, by rw [close]⟩, ?_⟩
    rintro ⟨m, more, same⟩
    have same := (List.cons.inj same).2
    have run : (n.digits ++ e :: rest).takeWhile NativeToken.isDigit = n.digits := Text.takeWhileEnds n.decimal noDigit
    rw [same, Text.takeWhileEnds m.decimal (by decide)] at run
    rw [run] at same
    exact (List.cons.inj (List.append_cancel_left same)).1

end Resumes

namespace LocalRule
open BuiltinRules
variable {front : Text} {rule : TokenRule}

theorem markStays {mark : Text} (starts : mark <+: front) (other : ¬ (mark <+: ['(', '?', '#'] ∨ ['(', '?', '#'] <+: mark))
    (solid : mark.head?.any fun c => !Unicode.isSpace c && c != '#') :
    ¬ (['(', '?', '#'] <+: front ∨ ∃ c ∈ front.head?, Unicode.isSpace c ∨ c = '#') := by
  rintro (comment | ⟨c, head, blank⟩)
  · exact other (List.prefix_or_prefix_of_prefix starts comment)
  · obtain ⟨rest, rfl⟩ := starts
    cases mark with
    | nil => cases solid
    | cons d mark =>
      cases head
      simp only [List.head?_cons, Option.any_some, Bool.and_eq_true, Bool.not_eq_true', bne_iff_ne] at solid
      simp [solid] at blank

theorem Starts.gone (starts : Starts front rule) (gone : ['(', '?', '#'] <+: front ∨ ∃ c ∈ front.head?, Unicode.isSpace c ∨ c = '#') :
    rule = commentRule ∨ rule = blankRule := by
  cases starts with
  | comment starts => exact .inl rfl
  | blank starts => exact .inr rfl
  | plainOpener =>
    rcases gone with comment | ⟨c, head, blank⟩
    · exact absurd comment (by decide)
    · cases head
      exact absurd blank (by decide)
  | namedOpener starts => exact absurd gone (markStays starts (by decide) (by decide))
  | dot => exact absurd gone (markStays List.prefix_rfl (by decide) (by decide))
  | reference starts => exact absurd gone (markStays starts (by decide) (by decide))
  | leadingModes letter mode starts =>
    simp only [isModeLetter, List.contains_iff_mem, List.mem_cons, List.not_mem_nil, or_false] at mode
    rcases mode with rfl | rfl | rfl | rfl | rfl <;> exact absurd gone (markStays starts (by decide) (by decide))
  | emptyClass starts => exact absurd gone (markStays starts (by decide) (by decide))
  | placeholder starts =>
    rcases starts with starts | starts <;> exact absurd gone (markStays starts (by decide) (by decide))
  | names names starts =>
    rcases starts with starts | starts <;> exact absurd gone (markStays starts (by decide) (by decide))

theorem Starts.opener (starts : Starts ['('] rule) : rule = plainOpenerRule := by
  cases starts with
  | plainOpener => rfl
  | namedOpener starts => exact absurd starts (by decide)
  | blank starts =>
    obtain ⟨c, head, blank⟩ := starts
    cases head
    exact absurd blank (by decide)
  | reference starts => exact absurd starts (by decide)
  | leadingModes letter mode starts => exact absurd starts.length_le (by simp)
  | comment starts => exact absurd starts (by decide)
  | emptyClass starts => exact absurd starts (by decide)
  | placeholder starts => exact absurd starts (by decide)
  | names names starts => exact absurd starts (by decide)

theorem Starts.number (starts : Starts front rule) (name : ['\\', 'k', '<'] <+: front) : rule = referenceRule := by
  have other {mark : Text} (starts : mark <+: front) : mark <+: ['\\', 'k', '<'] ∨ ['\\', 'k', '<'] <+: mark :=
    List.prefix_or_prefix_of_prefix starts name
  cases starts with
  | reference starts => rfl
  | plainOpener => exact absurd name (by decide)
  | namedOpener starts => exact absurd (other starts) (by decide)
  | dot => exact absurd name (by decide)
  | blank starts =>
    obtain ⟨more, rfl⟩ := name
    obtain ⟨c, head, blank⟩ := starts
    cases head
    exact absurd blank (by decide)
  | leadingModes letter mode starts =>
    have opener : ['('] <+: front := (List.prefix_append ['('] ['?', letter]).trans starts
    exact absurd (other opener) (by decide)
  | comment starts => exact absurd (other starts) (by decide)
  | emptyClass starts => exact absurd (other starts) (by decide)
  | placeholder starts => rcases starts with starts | starts <;> exact absurd (other starts) (by decide)
  | names names starts => rcases starts with starts | starts <;> exact absurd (other starts) (by decide)

theorem Bundled.recognizesReference {l : LocalRule} (bundled : l.Bundled) (same : l.rule = referenceRule) (offset : Nat) (t : Text) :
    l.recognize offset t = reference t := by
  have pattern : l.rule.pattern = referenceRule.pattern := congrArg TokenRule.pattern same
  cases bundled with
  | unicode names =>
    have other : UnicodeNames.empty.rule.pattern ≠ referenceRule.pattern := by decide
    exact absurd pattern other
  | builtin mem =>
    have alone : ∀ l ∈ builtins, l.rule.pattern = referenceRule.pattern → l.recognize offset t = reference t := by
      simp only [builtins, List.forall_mem_cons]
      refine ⟨?_, ?_, ?_, ?_, fun _ => rfl, ?_, ?_, ?_, ?_, by simp⟩ <;> exact fun pattern => absurd pattern (by decide)
    exact alone l mem pattern

end LocalRule

namespace Uncached
open Scanning (Stage)
variable {locals : List LocalRule} {before front rest : Text} {a b c : Stage} {g : Segment} {segments : List Segment}

theorem Made.rewritten (made : Made locals before front rest a g b) (rewritten : g.rewritten) :
    ∃ l groups wrote s, LocalRule.first? locals a.region a.context (size before) (front ++ rest) = some (l, groups) ∧
      groups.head? = some (some ⟨0, size front⟩) ∧ LocalRule.Starts front l.rule ∧
      (l.rule.handle (LocalRule.token (before ++ (front ++ rest)) (size before) groups) a.region a.context s).1 = .ok wrote ∧
      g = ⟨front, wrote.1, true⟩ ∧ b = ⟨a.region, wrote.2⟩ := by
  cases made with
  | token unseen known => cases rewritten
  | character c lone unseen unknown => cases rewritten
  | fired l groups wrote s first whole starts gave => exact ⟨l, groups, wrote, s, first, whole, starts, gave, rfl, rfl⟩

theorem Made.vanished (made : Made locals before front rest a g b) (vanishes : g.Vanishes) :
    a.region = .outside ∧ b.region = .outside ∧
      g.fragment = if NativeToken.startsWithQuantifier rest then [] else "(?:)".toList := by
  obtain ⟨rewritten, gone⟩ := vanishes
  obtain ⟨l, groups, wrote, s, first, whole, starts, gave, rfl, rfl⟩ := made.rewritten rewritten
  obtain ⟨_, part, _⟩ := LocalRule.firstParts first
  have within := l.takesPartWithin part
  have behind := LocalRule.restRead before (front ++ rest) whole
  rw [Text.dropBytesSize] at behind
  have separates (handle : l.rule.handle = BuiltinRules.constantly BuiltinRules.separator) (regions : l.rule.regions = .outsideOnly) :
      a.region = .outside ∧ wrote.1 = if NativeToken.startsWithQuantifier rest then [] else "(?:)".toList := by
    rw [handle] at gave
    cases gave
    rw [regions] at within
    refine ⟨?_, by rw [BuiltinRules.separator, behind]⟩
    cases region : a.region with
    | outside => rfl
    | inside =>
      rw [region] at within
      cases within
  obtain ⟨outside, text⟩ : a.region = .outside ∧ _ := by
    rcases starts.gone gone with same | same
    · exact separates (by rw [same]; rfl) (by rw [same]; rfl)
    · exact separates (by rw [same]; rfl) (by rw [same]; rfl)
  exact ⟨outside, outside, text⟩

theorem Made.quantifier (made : Made locals before front rest a g b) {c : Char} (sign : c ∈ front.head?)
    (mark : c ∈ ['?', '*', '+', '{']) :
    g.fragment = front ∧ ∀ n, NativeToken.length? a.region (front ++ rest) = some n → n = size front := by
  cases made with
  | token unseen known => exact ⟨rfl, fun n same => (Option.some.inj (known.symm.trans same)).symm⟩
  | character d lone unseen unknown =>
    refine ⟨rfl, fun n same => ?_⟩
    rw [unknown] at same
    cases same
  | fired l groups wrote s first whole starts gave =>
    obtain ⟨d, head, start⟩ := starts.head
    obtain rfl : c = d := Option.some.inj (sign.symm.trans head)
    have marks : ∀ c ∈ ['?', '*', '+', '{'], ¬ (c ∈ ['(', '.', '#', '\\', '['] ∨ Unicode.isSpace c) := by
      simp only [List.forall_mem_cons, List.not_mem_nil, false_implies, implies_true, and_true]
      decide
    exact absurd start (marks c mark)

theorem Segmented.resumes (segmented : Segmented locals before rest a segments b) (outside : a.region = .outside) :
    Resumes rest ((if NativeToken.startsWithQuantifier rest then [] else "(?:)".toList) ++ segments.flatMap Segment.fragment) := by
  cases quantified : NativeToken.startsWithQuantifier rest with
  | false => exact .fenced quantified _
  | true =>
    cases segmented with
    | done => cases quantified
    | @goesOn _ front rest _ _ _ g more present made others =>
      rw [if_pos rfl, List.nil_append, List.flatMap_cons]
      obtain ⟨c, front, rfl⟩ := List.exists_cons_of_ne_nil present
      rcases NativeToken.quantifierSigns quantified with mark | ⟨rfl, counted⟩
      · obtain ⟨copied, _⟩ := made.quantifier rfl (List.mem_append_left ['{'] mark)
        rw [copied]
        exact .sign mark _ _
      · obtain ⟨n, length⟩ := Option.isSome_iff_exists.mp counted
        obtain ⟨copied, taken⟩ := made.quantifier rfl (by decide)
        obtain rfl := taken n (by rw [outside]; exact length)
        obtain ⟨m, e, known, ends, rfl⟩ := NativeToken.repeatInside length
        rw [copied]
        simpa using Resumes.count m ends (known ++ rest) (known ++ more.flatMap Segment.fragment)

theorem Made.opener (made : Made locals before front rest a g b) (opener : g.IsOpener) :
    g.fragment = ['('] ∨ g.fragment = "(?:".toList := by
  obtain ⟨rewritten, source⟩ := opener
  obtain ⟨l, groups, wrote, s, first, whole, starts, gave, rfl, rfl⟩ := made.rewritten rewritten
  dsimp only at source
  subst source
  rw [starts.opener] at gave
  dsimp only [BuiltinRules.plainOpenerRule] at gave
  split at gave
  · cases gave
    exact .inr rfl
  · cases gave
    exact .inl rfl

theorem Made.reference (known : ∀ l ∈ locals, l.Bundled) (made : Made locals before front rest a g b) (number : g.IsNumber) :
    ∃ name index, front = ['\\', 'k', '<'] ++ name ++ ['>'] ∧ a.context.index? name = some index ∧
      g.fragment = '\\' :: Text.decimal (index + 1) ++ (if BuiltinRules.startsWithDigit rest then "(?:)".toList else []) := by
  obtain ⟨rewritten, mark, resolved⟩ := number
  obtain ⟨l, groups, wrote, s, first, whole, starts, gave, rfl, rfl⟩ := made.rewritten rewritten
  obtain ⟨mem, _, seen⟩ := LocalRule.firstParts first
  rw [(known l mem).recognizesReference (starts.number mark)] at seen
  unfold BuiltinRules.reference at seen
  split at seen <;> try contradiction
  rename_i tail same
  obtain ⟨n, more, rfl, rfl⟩ := LocalRule.nameTokenParts seen
  have token : front ++ rest = (['\\', 'k', '<'] ++ n.name ++ ['>']) ++ more := by simp [same]
  obtain ⟨rfl, rfl⟩ : front = ['\\', 'k', '<'] ++ n.name ++ ['>'] ∧ rest = more := by
    refine Text.splitsOnce token ?_
    have stop := congrArg Span.stop (Option.some.inj (Option.some.inj whole))
    rw [Text.sizeAppend, Text.sizeAppend]
    exact stop.symm
  have behind := LocalRule.restRead before (['\\', 'k', '<'] ++ n.name ++ ['>'] ++ rest) whole
  rw [Text.dropBytesSize] at behind
  have source := (@Scanning.tokenReads _ before rest _ _ rfl whole).1
  have spelled : before ++ (['\\', 'k', '<'] ++ n.name ++ ['>'] ++ rest) = before ++ (['\\', 'k', '<'] ++ (n.name ++ '>' :: rest)) := by
    simp
  have name : (LocalRule.token _ _ (BuiltinRules.token _ [⟨3, 3 + size n.name⟩])).group? 1 = some n.name :=
    Scanning.tokenName spelled (3 + size n.name + 1)
  rw [starts.number mark] at gave
  cases gave
  dsimp only [BuiltinRules.referenceText] at resolved ⊢
  rw [behind, source, name, Option.getD_some] at resolved
  rw [behind, name, Option.getD_some]
  cases found : a.context.index? n.name with
  | none =>
    rw [found] at resolved
    exact absurd rfl resolved
  | some index => exact ⟨n.name, index, rfl, found, rfl⟩

theorem Made.number (known : ∀ l ∈ locals, l.Bundled) (made : Made locals before front rest a g b) (number : g.IsNumber)
    (plain : Apart rest) : ∃ index, g.fragment = '\\' :: Text.decimal (index + 1) := by
  obtain ⟨_, index, _, _, fragment⟩ := made.reference known number
  have apart : BuiltinRules.startsWithDigit rest = false := by
    have ends := plain.ends NativeToken.digitNamed
    cases plain with
    | intro stops plain => exact ends _ rfl
  rw [apart, if_neg Bool.false_ne_true, List.append_nil] at fragment
  exact ⟨index, fragment⟩

theorem Made.escape (made : Made locals before front rest a g b) (escape : g.IsEscape) (outside : b.region = .outside)
    (present : rest ≠ []) :
    g.fragment = front ∧ ∃ c more, front = '\\' :: c :: more ∧
      NativeToken.escapeLength? .outside (c :: (more ++ rest)) = some (size front) := by
  obtain ⟨e, rest, rfl⟩ := List.exists_cons_of_ne_nil present
  obtain ⟨copied, more, source⟩ := escape
  have alone (region : Region) {n : Nat} (length : NativeToken.length? region ('\\' :: e :: rest) = some n) : 1 < n := by
    obtain ⟨m, known, long⟩ := escapeTakes region e rest
    have known : NativeToken.length? region ('\\' :: e :: rest) = some m := known
    exact Option.some.inj (known.symm.trans length) ▸ long
  cases made with
  | token unseen known =>
    dsimp only [List.cons_append, List.nil_append] at source
    subst source
    refine ⟨rfl, ?_⟩
    cases more with
    | nil => exact absurd (alone _ known) (by decide)
    | cons c more =>
      rw [outside] at known
      exact ⟨c, more, rfl, known⟩
  | character c lone unseen unknown =>
    dsimp only [List.cons_append, List.nil_append] at source
    obtain rfl : '\\' = c := (List.cons.inj (source.trans lone)).1
    obtain ⟨n, known, _⟩ := escapeTakes a.region e rest
    rw [lone] at unknown
    exact absurd (known.symm.trans unknown) (by simp)
  | fired l groups wrote s first whole starts gave => cases copied

end Uncached

namespace NativeToken
variable {t x y : Text}

theorem decimalHead {n : Nat} (positive : 0 < n) : (Text.decimal n).head? ≠ some '0' := by
  induction n using Nat.strong_induction_on with
  | h n ih =>
    rw [Text.decimal, Nat.toDigits_eq_if (by decide)]
    split
    · intro zero
      rw [List.head?_cons, Option.some_inj, Nat.digitChar_eq_zero] at zero
      omega
    · rw [List.head?_append_of_ne_nil _ Nat.toDigits_ne_nil]
      exact ih (n / 10) (by omega) (by omega)

theorem numberReread (apart : Apart y) (index : Nat) :
    length? .outside ('\\' :: Text.decimal (index + 1) ++ y) = some (size ('\\' :: Text.decimal (index + 1))) := by
  have digits := decimalDigits (index + 1)
  have head := decimalHead (Nat.succ_pos index)
  have ascii : size (Text.decimal (index + 1)) = (Text.decimal (index + 1)).length :=
    Text.sizeOfAscii fun c mem => digitSize (digits c mem)
  have run : digitRun (Text.decimal (index + 1) ++ y) = (Text.decimal (index + 1)).length := by
    rw [digitRunKnown apart, digitRun, List.takeWhile_eq_self_iff.mpr digits]
  cases number : Text.decimal (index + 1) with
  | nil => exact absurd number Nat.toDigits_ne_nil
  | cons c more =>
    rw [number] at digits head ascii run
    have noZero : c ≠ '0' := by simpa using head
    have range := (digitRange (digits c List.mem_cons_self)).resolve_left noZero
    have backslash : '\\'.utf8Size = 1 := rfl
    rw [size, ascii, backslash]
    simp only [List.cons_append] at run ⊢
    simp [length?, escapeLength?, noZero, range, run]

theorem escapeReread {c : Char} {more : Text} (apart : Apart x) (apart' : Apart y)
    (known : escapeLength? .outside (c :: (more ++ x)) = some (size ('\\' :: c :: more))) :
    escapeLength? .outside (c :: (more ++ y)) = some (size ('\\' :: c :: more)) ↔
      ¬ (more = [] ∧ (c = 'x' ∧ hexLength 2 y ≠ 0 ∨ c = 'u' ∧ hexLength 4 y ≠ 0)) := by
  by_cases lone : more = []
  · subst lone
    have backslash : '\\'.utf8Size = 1 := rfl
    simp only [List.nil_append, escapeAlone apart', size, backslash, Option.some_inj]
    by_cases x : c = 'x'
    · subst x
      simp
    by_cases u : c = 'u'
    · subst u
      simp
    simp [x, u]
  · refine iff_of_true ?_ fun exception => lone exception.1
    exact (escapeKnown apart' apart .outside c lone).trans known

end NativeToken

section Neighbours
variable {r : Registry} {locals : List LocalRule} {pattern : Text} {flags : FlagSet} {s t : Session} {done : Compilation}
  {before behind : List Segment} {left gone : Segment}

/-- Syntax that vanishes, between what was written before it and what the pattern goes on with. A question mark
follows a written parenthesis exactly where one follows in the pattern. Numbers and escapes are read again as
they were written; only the two escapes that may take digits in braces do so if such follow. -/
theorem vanishingKeepsNeighbours (bundled : r.Bundled locals) (compiled : compile pattern flags r s = (.ok done, t))
    (segments : done.segments = before ++ left :: gone :: behind) (vanishes : gone.Vanishes) :
    let rest := behind.flatMap Segment.source
    let tail := gone.fragment ++ behind.flatMap Segment.fragment
    pattern = before.flatMap Segment.source ++ (left.source ++ (gone.source ++ rest)) ∧
      done.native = before.flatMap Segment.fragment ++ (left.fragment ++ tail) ∧
      (left.IsOpener → (left.fragment = ['('] ∨ left.fragment = "(?:".toList) ∧
        (tail.head? = some '?' ↔ rest.head? = some '?')) ∧
      (left.IsEscape ∨ left.IsNumber →
        (NativeToken.length? .outside (left.fragment ++ tail) = some (size left.fragment) ↔
          ¬ ((left.source = ['\\', 'x'] ∨ left.source = ['\\', 'u']) ∧ Text.Braced rest))) := by
  intro rest tail
  obtain ⟨region, segmented⟩ := compileSegments bundled compiled
  rw [segments] at segmented
  obtain ⟨_, fromLeft⟩ := segmented.behind
  obtain ⟨_, madeLeft, fromGone⟩ := fromLeft.next
  obtain ⟨_, madeGone, fromBehind⟩ := fromGone.next
  obtain ⟨outside, outside', fence⟩ := madeGone.vanished vanishes
  have resumes : Resumes rest tail := by
    have resumed := fromBehind.resumes outside'
    rwa [← fence] at resumed
  have starts := vanishes.starts rest
  have present : gone.source ++ rest ≠ [] := by
    intro none
    rw [none] at starts
    cases starts
  rw [List.flatMap_cons] at madeLeft
  refine ⟨by simpa using segmented.sources.symm, by simp [Compilation.native, segments, tail],
    fun opener => ⟨madeLeft.opener opener, resumes.questionMark⟩, ?_⟩
  rintro (escape | number)
  · obtain ⟨copied, c, more, source, known⟩ := madeLeft.escape escape outside present
    rw [source] at known
    have braced {digits : Nat} (positive : 0 < digits) : NativeToken.hexLength digits tail ≠ 0 ↔ Text.Braced rest :=
      (not_congr (resumes.braces positive)).trans not_not
    have reread := NativeToken.escapeReread starts.apart resumes.apart known
    rw [braced (by decide), braced (by decide)] at reread
    rw [copied, source]
    refine reread.trans (not_congr ?_)
    simp only [List.cons.injEq, true_and, ← or_and_right]
    exact and_left_comm.trans and_assoc.symm
  · obtain ⟨index, text⟩ := madeLeft.number bundled.known number starts.apart
    rw [text]
    refine iff_of_true (NativeToken.numberReread resumes.apart index) ?_
    obtain ⟨_, name, _⟩ := number
    rintro ⟨source | source, _⟩ <;> rw [source] at name <;> exact absurd name (by decide)

theorem escapeBeforeBlanksIsReread :
    let segments (behind : List Segment) : List Segment := ⟨"(?x)".toList, [], true⟩ :: ⟨['('], ['('], true⟩ ::
      ⟨"\\u0041".toList, "\\u0041".toList, false⟩ :: ⟨" #n\n".toList, [], true⟩ :: behind
    ∃ behind t, compile "(?x)(\\u0041 #n\n+)".toList .empty .builtins {} =
        (.ok ⟨segments behind, [none], .single .extended⟩, t) ∧
      NativeToken.length? .outside ("\\u0041".toList ++ behind.flatMap Segment.fragment) = some 6 := by
  intro segments
  let behind : List Segment := [⟨['+'], ['+'], false⟩, ⟨[')'], [')'], false⟩]
  let done : Compilation := ⟨segments behind, [none], .single .extended⟩
  have compiled : (compile "(?x)(\\u0041 #n\n+)".toList .empty .builtins {}).1 = .ok done := by cbv
  have vanishes : Segment.Vanishes ⟨" #n\n".toList, [], true⟩ := ⟨rfl, .inr ⟨' ', rfl, .inl (by decide)⟩⟩
  have split : done.segments = [⟨"(?x)".toList, [], true⟩, ⟨['('], ['('], true⟩] ++
    ⟨"\\u0041".toList, "\\u0041".toList, false⟩ :: ⟨" #n\n".toList, [], true⟩ :: behind := rfl
  obtain ⟨_, _, _, reread⟩ := vanishingKeepsNeighbours Registry.Standard.builtins.bundled (Prod.ext compiled rfl) split vanishes
  refine ⟨behind, _, Prod.ext compiled rfl, (reread (.inl ⟨rfl, ?_⟩)).mpr ?_⟩
  · exact ⟨_, rfl⟩
  · rintro ⟨short | short, _⟩ <;> cases short

end Neighbours

theorem commentBringsNeighboursTogether :
    (compile "((?#)?:a)".toList .empty .builtins {}).1.map Compilation.result = .ok ("(?:a)".toList, ⟨[none], .empty⟩) ∧
      (compile "\\x(?#)\x7b41\x7d".toList .empty .builtins {}).1.map (·.segments.map Segment.fragment) =
        .ok ["\\x".toList, [], "\x7b41\x7d".toList] ∧
      NativeToken.length? .outside "\\x\x7b41\x7d".toList = some 6 :=
  ⟨by cbv, by cbv, rfl⟩

end ExtendedPattern
