import ExtendedPattern.Proofs.Expression
import ExtendedPattern.Proofs.FirstToken
import ExtendedPattern.Proofs.Scanning

/-! Compiling the text of an extended pattern writes the text of its translation. What the
scanner writes for each kind of chunk is said once; the rest is induction on the tree. -/
namespace ExtendedPattern
open Text (size)

namespace Text

theorem sizeOfAscii {t : Text} (ascii : ∀ c ∈ t, c.utf8Size = 1) : size t = t.length := by
  induction t with
  | nil => rfl
  | cons c rest ih =>
    have tail := ih fun d mem => ascii d (List.mem_cons_of_mem _ mem)
    simp [size, ascii c List.mem_cons_self, tail, Nat.add_comm]

theorem takeWhileEnds {p : Char → Bool} {front rest : Text} {c : Char} (all : ∀ d ∈ front, p d)
    (stop : p c = false) : (front ++ c :: rest).takeWhile p = front := by
  rw [List.takeWhile_append_of_pos all, List.takeWhile_cons_of_neg (by simp [stop]), List.append_nil]

theorem sliceOfParts (before part after : Text) :
    slice (before ++ (part ++ after)) ⟨size before, size before + size part⟩ = part := by
  simp [slice, dropBytesSize, takeBytesSize]

end Text

namespace NativeToken

theorem digitSize {c : Char} (digit : isDigit c) : c.utf8Size = 1 := by
  simp only [isDigit, Bool.and_eq_true, decide_eq_true_eq] at digit
  have low : c.val ≤ 127 := Nat.le_trans digit.2 (by decide)
  exact Char.utf8Size_eq_one_iff.mpr low

theorem decimalDigits (n : Nat) : ∀ d ∈ Text.decimal n, isDigit d := by
  intro d mem
  have digit := Nat.isDigit_of_mem_toDigits (by decide) (by decide) mem
  simpa [Char.isDigit, isDigit, Char.le_def] using digit

theorem letterSize {c : Char} (letter : isLetter c) : c.utf8Size = 1 := by
  simp only [isLetter, Bool.or_eq_true, Bool.and_eq_true, decide_eq_true_eq] at letter
  have low : c.val ≤ 127 := by
    rcases letter with letter | letter <;> exact Nat.le_trans letter.2 (by decide)
  exact Char.utf8Size_eq_one_iff.mpr low

theorem hexSize {c : Char} (hex : isHexDigit c) : c.utf8Size = 1 := by
  simp only [isHexDigit, isDigit, Bool.or_eq_true, Bool.and_eq_true, decide_eq_true_eq] at hex
  have low : c.val ≤ 127 := by
    rcases hex with (hex | hex) | hex <;> exact Nat.le_trans hex.2 (by decide)
  exact Char.utf8Size_eq_one_iff.mpr low

theorem outsideOfDigits {c low high : Char} (noDigit : isDigit c = false) (above : '0' ≤ low)
    (below : high ≤ '9') : (low ≤ c && c ≤ high) = false := by
  simp only [isDigit, Bool.and_eq_false_iff, decide_eq_false_iff_not] at noDigit ⊢
  rcases noDigit with early | late
  · exact .inl fun fits => early (Char.le_trans above fits)
  · exact .inr fun fits => late (Char.le_trans fits below)

theorem escapableLength (e : Escapable) (region : Region) (rest : Text) :
    length? region ('\\' :: e.char :: rest) = some (1 + e.char.utf8Size) := by
  obtain ⟨c, ⟨noDigit, noLetter⟩ | letter⟩ := e
  · have noZero : c ≠ '0' := by rintro rfl; contradiction
    have noNumber : ('1' ≤ c && c ≤ '9') = false :=
      outsideOfDigits noDigit (by decide) (Char.le_refl '9')
    have noOctal : isOctal c = false := outsideOfDigits noDigit (Char.le_refl '0') (by decide)
    have noX : c ≠ 'x' := by rintro rfl; contradiction
    have noU : c ≠ 'u' := by rintro rfl; contradiction
    have noC : c ≠ 'c' := by rintro rfl; contradiction
    simp [length?, escapeLength?, noZero, noNumber, noOctal, noX, noU, noC]
  · simp only [escapableLetters, List.mem_cons, List.not_mem_nil, or_false] at letter
    rcases letter with rfl | rfl | rfl | rfl | rfl | rfl | rfl | rfl <;> rfl

theorem digitRunOf (n : Numeral) {c : Char} (rest : Text) (stop : isDigit c = false) :
    digitRun (n.digits ++ c :: rest) = n.digits.length := by
  rw [digitRun, Text.takeWhileEnds n.decimal stop]

theorem numeralSize (n : Numeral) : size n.digits = n.digits.length :=
  Text.sizeOfAscii fun c mem => digitSize (n.decimal c mem)

def reluctance (reluctant : Bool) : Text := if reluctant then ['?'] else []

theorem lazyMarkOf (reluctant : Bool) {rest : Text} (settled : rest.head? ≠ some '?') :
    lazyMark (reluctance reluctant ++ rest) = size (reluctance reluctant) := by
  cases reluctant with
  | true => rfl
  | false => unfold lazyMark; split <;> simp_all [size, reluctance]

inductive Counted : Text → Prop where
  | exactly (n : Numeral) : Counted (n.digits ++ ['}'])
  | atLeast (n : Numeral) : Counted (n.digits ++ [',', '}'])
  | between (low high : Numeral) : Counted (low.digits ++ ',' :: high.digits ++ ['}'])

theorem countedLength {body : Text} (counted : Counted body) (rest : Text) :
    repeatLength? (body ++ rest) = some (1 + size body + lazyMark rest) := by
  have brace : '}'.utf8Size = 1 := rfl
  have comma : ','.utf8Size = 1 := rfl
  cases counted with
  | exactly n =>
    have run := digitRunOf n rest (by decide : isDigit '}' = false)
    simp [repeatLength?, run, n.nonempty, Text.sizeAppend, numeralSize, size, brace]
    omega
  | atLeast n =>
    have run := digitRunOf n ('}' :: rest) (by decide : isDigit ',' = false)
    have none : digitRun ('}' :: rest) = 0 := rfl
    simp [repeatLength?, run, none, n.nonempty, Text.sizeAppend, numeralSize, size, brace, comma]
    omega
  | between low high =>
    have run := digitRunOf low (high.digits ++ '}' :: rest) (by decide : isDigit ',' = false)
    have more := digitRunOf high rest (by decide : isDigit '}' = false)
    simp [repeatLength?, run, more, low.nonempty, Text.sizeAppend, numeralSize, size, brace, comma]
    omega

end NativeToken

theorem BuiltinRules.nameSize {c : Char} (allowed : isNameChar c) : c.utf8Size = 1 := by
  simp only [isNameChar, Bool.or_eq_true, beq_iff_eq] at allowed
  rcases allowed with ((digit | letter) | rfl) | rfl
  · exact NativeToken.digitSize digit
  · exact NativeToken.letterSize letter
  · rfl
  · rfl

theorem BuiltinRules.nameTokenOf (n : GroupName) (opener : Nat) (rest : Text) :
    nameToken opener (n.name ++ '>' :: rest) =
      some (token (opener + size n.name + 1) [⟨opener, opener + size n.name⟩]) := by
  have ends : (n.name ++ '>' :: rest).takeWhile isNameChar = n.name :=
    Text.takeWhileEnds n.allowed (by decide)
  have ascii : size n.name = n.name.length := Text.sizeOfAscii fun c mem => nameSize (n.allowed c mem)
  simp [nameToken, ends, ascii, n.nonempty]

namespace Expression

theorem atomHead (l : Leaf) (rest : Text) : (text l ++ rest).head? ≠ some '?' := by
  cases l with
  | literal c =>
    obtain ⟨c, _, _, plain⟩ := c
    rintro same
    cases Option.some.inj same
    exact plain (by decide)
  | members c => simp [text]
  | reference n => simp [text]
  | _ => simp [text]

theorem openerHead (o : Opener) (rest : Text) : (text o ++ rest).head? ≠ some '?' := by
  cases o with
  | look ahead negative => cases ahead <;> cases negative <;> simp [text, lookText]
  | _ => simp [text]

theorem printHead (e : Extended) {rest : Text} (settled : rest.head? ≠ some '?') :
    (print e ++ rest).head? ≠ some '?' := by
  induction e generalizing rest with
  | empty => exact settled
  | atom l q => simpa [print] using atomHead l (text q ++ rest)
  | group o body q _ => simpa [print] using openerHead o (print body ++ ')' :: (text q ++ rest))
  | seq first second first_ih second_ih => simpa [print] using first_ih (second_ih settled)
  | alt first second first_ih _ =>
    have bar : ('|' :: (print second ++ rest)).head? ≠ some '?' := by simp
    simpa [print] using first_ih bar

end Expression

def Context.grow (c : Context) (more : List (Option Text)) : Context := { c with slots := c.slots ++ more }

theorem Context.growNone (c : Context) : c.grow [] = c := by
  simp [grow]

theorem Context.growTwice (c : Context) (first second : List (Option Text)) :
    (c.grow first).grow second = c.grow (first ++ second) := by
  simp [grow]

namespace Scanning
variable {limit : Prop} {locals : List LocalRule} {r : Registry} {input before rest : Text} {context : Context}

theorem ofUnread (standard : r.Standard locals) {d : Char}
    (unread : LocalRule.Unread context (size before) (d :: rest))
    (alone : NativeToken.length? .outside (d :: rest) = none) (other : d ≠ '[') :
    Writes locals input before [d] rest ⟨.outside, context⟩ ⟨.outside, context⟩ [d] := by
  have stays : Rewrite.regionAfter .outside d = .outside := by simp [Rewrite.regionAfter, other]
  exact ofCharacter exceeds (LocalRule.firstUnread standard .outside unread) alone stays

theorem ofEscape (standard : r.Standard locals) (e : Escapable) (region : Region) :
    Writes locals input before (text e) rest ⟨region, context⟩ ⟨region, context⟩ (text e) := by
  have other : e.char ∉ ['k', 'p', 'P'] := by
    obtain ⟨c, allowed⟩ := e
    simp only [List.mem_cons, List.not_mem_nil, or_false]
    rintro (rfl | rfl | rfl) <;> revert allowed <;> decide
  apply ofNativeToken exceeds
  · exact LocalRule.firstUnread standard region (LocalRule.unreadEscape other)
  · exact NativeToken.escapableLength e region rest

theorem ofMark (standard : r.Standard locals) {c : Char} (mark : c ∈ ['*', '+', '?'])
    (reluctant : Bool) (settled : rest.head? ≠ some '?') :
    Writes locals input before (c :: NativeToken.reluctance reluctant) rest
      ⟨.outside, context⟩ ⟨.outside, context⟩ (c :: NativeToken.reluctance reluctant) := by
  have unread (t : Text) : LocalRule.Unread context (size before) (c :: t) := by
    simp only [List.mem_cons, List.not_mem_nil, or_false] at mark
    rcases mark with rfl | rfl | rfl <;>
      exact LocalRule.unreadElsewhere (by decide) (by decide) (by decide)
  simp only [List.mem_cons, List.not_mem_nil, or_false] at mark
  cases reluctant with
  | true =>
    apply ofNativeToken exceeds
    · exact LocalRule.firstUnread standard .outside (unread _)
    · rcases mark with rfl | rfl | rfl <;> rfl
  | false =>
    apply ofUnread standard (unread _)
    · rcases mark with rfl | rfl | rfl <;> simp [NativeToken.length?, settled]
    · rcases mark with rfl | rfl | rfl <;> decide

theorem ofCounted (standard : r.Standard locals) {body : Text} (counted : NativeToken.Counted body)
    (reluctant : Bool) (settled : rest.head? ≠ some '?') :
    Writes locals input before ('{' :: (body ++ NativeToken.reluctance reluctant)) rest
      ⟨.outside, context⟩ ⟨.outside, context⟩ ('{' :: (body ++ NativeToken.reluctance reluctant)) := by
  have unread : LocalRule.Unread context (size before)
      ('{' :: (body ++ NativeToken.reluctance reluctant) ++ rest) :=
    LocalRule.unreadElsewhere (by decide) (by decide) (by decide)
  apply ofNativeToken exceeds
  · exact LocalRule.firstUnread standard .outside unread
  · have length := NativeToken.countedLength counted (NativeToken.reluctance reluctant ++ rest)
    rw [NativeToken.lazyMarkOf reluctant settled] at length
    have brace : '{'.utf8Size = 1 := rfl
    simp [NativeToken.length?, length, size, Text.sizeAppend, brace, Nat.add_assoc]

theorem ofQuantifier (standard : r.Standard locals) (q : Quantifier) (settled : rest.head? ≠ some '?') :
    Writes locals input before (text q) rest ⟨.outside, context⟩ ⟨.outside, context⟩ (text q) := by
  obtain ⟨bounds, reluctant⟩ := q
  cases bounds with
  | star => exact ofMark standard (by decide) reluctant settled
  | plus => exact ofMark standard (by decide) reluctant settled
  | option => exact ofMark standard (by decide) reluctant settled
  | exactly n => exact ofCounted standard (.exactly n) reluctant settled
  | atLeast n => exact ofCounted standard (.atLeast n) reluctant settled
  | between low high => exact ofCounted standard (.between low high) reluctant settled

theorem ofQuantified (standard : r.Standard locals) (q : Option Quantifier)
    (settled : rest.head? ≠ some '?') :
    Writes locals input before (text q) rest ⟨.outside, context⟩ ⟨.outside, context⟩ (text q) := by
  cases q with
  | none => exact nothing
  | some q => exact ofQuantifier standard q settled

theorem ofMember (standard : r.Standard locals) (m : Member) :
    Writes locals input before (text m) rest ⟨.inside, context⟩ ⟨.inside, context⟩ (text m) := by
  cases m with
  | plain c ordinary =>
    obtain ⟨opening, closing, backslash⟩ := ordinary
    have stays : Rewrite.regionAfter .inside c = .inside := by
      simp [Rewrite.regionAfter, opening, closing]
    have alone : NativeToken.length? .inside (c :: rest) = none := by
      simp [NativeToken.length?, backslash]
    exact ofCharacter exceeds (LocalRule.firstInside standard backslash) alone stays
  | escaped e => exact ofEscape standard e .inside

theorem ofMembers (standard : r.Standard locals) (members : List Member) :
    Writes locals input before (members.flatMap text) rest ⟨.inside, context⟩ ⟨.inside, context⟩
      (members.flatMap text) := by
  induction members generalizing before with
  | nil => exact nothing
  | cons m members ih => exact andThen (ofMember standard m) ih

theorem tokenReads {chunk : Text} {groups : Groups} (split : input = before ++ (chunk ++ rest))
    (whole : groups.head? = some (some ⟨0, size chunk⟩)) :
    (LocalRule.token input (size before) groups).text = chunk ∧
      (LocalRule.token input (size before) groups).rest = rest := by
  cases groups with
  | nil => contradiction
  | cons g more =>
    cases Option.some.inj whole
    subst split
    constructor
    · simp [TokenMatch.text, TokenMatch.group?, TokenMatch.groupSpan?, LocalRule.token, Span.shift,
        Text.sliceOfParts]
    · have drops := Text.dropBytesSize (before ++ chunk) rest
      simpa [TokenMatch.rest, TokenMatch.stop, TokenMatch.groupSpan?, LocalRule.token, Span.shift,
        Text.sizeAppend] using drops

theorem tokenName {front name back : Text} (split : input = before ++ (front ++ (name ++ back)))
    (stop : Nat) :
    (LocalRule.token input (size before)
      (BuiltinRules.token stop [⟨size front, size front + size name⟩])).group? 1 = some name := by
  have slice := Text.sliceOfParts (before ++ front) name back
  subst split
  simpa [TokenMatch.group?, TokenMatch.groupSpan?, LocalRule.token, BuiltinRules.token, Span.shift,
    Text.sizeAppend, Nat.add_assoc] using slice

theorem bodyOfMembers (c : FlatClass) : ∃ members : List Member, c.body = members.flatMap text := by
  refine ⟨(if c.negated then [.plain '^' (by decide)] else []) ++ c.first :: c.others, ?_⟩
  cases neg : c.negated <;> simp [FlatClass.body, neg, text]

theorem classIsFull (c : FlatClass) (rest : Text) :
    BuiltinRules.emptyClass ('[' :: (c.body ++ rest)) = none := by
  obtain ⟨negated, first, others, distinct⟩ := c
  cases first with
  | escaped e => cases negated <;> rfl
  | plain d ordinary =>
    cases negated with
    | true => unfold BuiltinRules.emptyClass; split <;> simp_all [FlatClass.body, text]
    | false =>
      have caret : d ≠ '^' := by simpa [text] using distinct rfl
      unfold BuiltinRules.emptyClass; split <;> simp_all [FlatClass.body, text]

theorem inside (limited : ∀ l ∈ locals, ∀ n, l.reach = some n → l = LocalRule.plainGroup) {t : Text} :
    Stalls limit locals input before t ⟨.inside, context⟩ := by
  intro _ gives
  rw [LocalRule.goesOnInside limited] at gives
  cases gives

theorem ofBrackets (standard : r.Standard locals) {body out : Text}
    (stalls : Stalls limit locals input before ('[' :: (body ++ ([']'] ++ rest))) ⟨.outside, context⟩)
    (full : BuiltinRules.emptyClass ('[' :: (body ++ ([']'] ++ rest))) = none)
    (inner : WritesUnless limit locals input (before ++ ['[']) body ([']'] ++ rest) ⟨.inside, context⟩ ⟨.inside, context⟩ out) :
    WritesUnless limit locals input before ('[' :: body ++ [']']) rest ⟨.outside, context⟩ ⟨.outside, context⟩
      ('[' :: out ++ [']']) := by
  have unread : LocalRule.Unread context (size before) ('[' :: (body ++ ([']'] ++ rest))) := { emptyClass := full }
  have opening : WritesUnless limit locals input before ['['] (body ++ ([']'] ++ rest)) ⟨.outside, context⟩ ⟨.inside, context⟩
      ['['] := ofCharacter stalls (LocalRule.firstUnread standard .outside unread) rfl rfl
  have closing : WritesUnless limit locals input (before ++ (['['] ++ body)) [']'] rest ⟨.inside, context⟩ ⟨.outside, context⟩
      [']'] := ofCharacter (inside standard.limited) (LocalRule.firstInside standard (by decide)) rfl rfl
  have opened : WritesUnless limit locals input before (['['] ++ body) ([']'] ++ rest) ⟨.outside, context⟩ ⟨.inside, context⟩ (['['] ++ out) :=
    andThen opening inner
  exact andThen opened closing

theorem ofClass (standard : r.Standard locals) (c : FlatClass) :
    Writes locals input before (text c) rest ⟨.outside, context⟩ ⟨.outside, context⟩ (text c) := by
  obtain ⟨members, spelled⟩ := bodyOfMembers c
  refine ofBrackets standard exceeds (classIsFull c _) ?_
  rw [spelled]
  exact ofMembers standard members

theorem plainOpenerHandled (m : TokenMatch) (region : Region) (context : Context) (s : Session) :
    BuiltinRules.plainOpenerRule.handle m region context s =
      (.ok (text (Opener.plain.translate context.flags), context.grow (Opener.plain.slots context.flags)),
        s) := by
  dsimp only [BuiltinRules.plainOpenerRule, Opener.translate, Opener.slots]
  cases explicit : context.has .explicitCapture with
  | false =>
    have flag : context.flags.has .explicitCapture = false := explicit
    rw [flag]
    rfl
  | true =>
    have flag : context.flags.has .explicitCapture = true := explicit
    rw [flag]
    simp [Action.ok, text, Context.grow]

theorem namedOpenerHandled {m : TokenMatch} {n : GroupName} (name : m.group? 1 = some n.name)
    (word : ∃ c ∈ n.name, NativeToken.isDigit c = false) (region : Region) (context : Context) (s : Session) :
    BuiltinRules.namedOpenerRule.handle m region context s =
      (.ok (['('], context.grow [some n.name]), s) := by
  have notNumber : ¬ n.name.all NativeToken.isDigit = true := by simpa using word
  dsimp only [BuiltinRules.namedOpenerRule]
  rw [name, Option.getD_some, if_neg notNumber]
  rfl

theorem referenceHandled {m : TokenMatch} {n : GroupName} (name : m.group? 1 = some n.name)
    (source : m.text = text (Leaf.reference n)) (behind : m.rest = rest) (region : Region)
    (context : Context) (s : Session) :
    BuiltinRules.referenceRule.handle m region context s =
      (.ok (text ((Leaf.reference n).translate context.flags context.slots rest), context), s) := by
  have spelled : BuiltinRules.referenceText m context =
      text ((Leaf.reference n).translate context.flags context.slots rest) := by
    simp only [BuiltinRules.referenceText, Leaf.translate, name, Option.getD_some, Context.index?,
      source, behind]
    cases context.slots.findIdx? (· == some n.name) <;> rfl
  rw [← spelled]
  rfl

theorem ofPlainOpener (standard : r.Standard locals) (plain : rest.head? ≠ some '?') :
    Writes locals input before ['('] rest ⟨.outside, context⟩
      ⟨.outside, context.grow (Opener.plain.slots context.flags)⟩
      (text (Opener.plain.translate context.flags)) := by
  refine ofRule exceeds BuiltinRules.plainOpenerRule (BuiltinRules.token 1) (by simp) ?_ rfl ?_
  · exact LocalRule.firstPlainOpener standard plain
  · intro _ s
    exact plainOpenerHandled _ _ _ s

theorem ofNamedOpener (standard : r.Standard locals) (n : GroupName)
    (word : ∃ c ∈ n.name, NativeToken.isDigit c = false) :
    Writes locals input before (text (Opener.named n word)) rest ⟨.outside, context⟩
      ⟨.outside, context.grow [some n.name]⟩ ['('] := by
  have spelled : text (Opener.named n word) ++ rest = ['(', '?', '<'] ++ (n.name ++ '>' :: rest) := by
    simp [text]
  refine ofRule exceeds BuiltinRules.namedOpenerRule
    (BuiltinRules.token (3 + size n.name + 1) [⟨3, 3 + size n.name⟩]) (by simp [text]) ?_ ?_ ?_
  · rw [spelled]
    exact LocalRule.firstNamedOpener standard (BuiltinRules.nameTokenOf n 3 rest)
  · simp only [text, Text.sizeAppend]; rfl
  · intro split s
    rw [spelled] at split
    exact namedOpenerHandled (tokenName split _) word _ _ s

theorem ofReference (standard : r.Standard locals) (n : GroupName) :
    Writes locals input before (text (Leaf.reference n)) rest ⟨.outside, context⟩ ⟨.outside, context⟩
      (text ((Leaf.reference n).translate context.flags context.slots rest)) := by
  have spelled : text (Leaf.reference n) ++ rest = ['\\', 'k', '<'] ++ (n.name ++ '>' :: rest) := by
    simp [text]
  have whole : (BuiltinRules.token (3 + size n.name + 1) [⟨3, 3 + size n.name⟩]).head? =
      some (some ⟨0, size (text (Leaf.reference n))⟩) := by
    simp only [text, Text.sizeAppend]; rfl
  refine ofRule exceeds BuiltinRules.referenceRule
    (BuiltinRules.token (3 + size n.name + 1) [⟨3, 3 + size n.name⟩]) (by simp [text]) ?_ whole ?_
  · rw [spelled]
    exact LocalRule.firstReference standard (BuiltinRules.nameTokenOf n 3 rest)
  · intro split s
    obtain ⟨source, behind⟩ := tokenReads split whole
    rw [spelled] at split
    exact referenceHandled (tokenName split _) source behind _ _ s

theorem ofDot (standard : r.Standard locals) :
    Writes locals input before ['.'] rest ⟨.outside, context⟩ ⟨.outside, context⟩
      (text (Leaf.dot.translate context.flags context.slots rest)) := by
  cases all : context.has .dotAll with
  | true =>
    have flag : context.flags.has .dotAll = true := all
    have seen : ∃ l, LocalRule.first? locals .outside context (size before) (['.'] ++ rest) =
        some (l, BuiltinRules.token 1) ∧ l.rule = BuiltinRules.dotRule :=
      LocalRule.firstDot standard all
    refine ofRule exceeds BuiltinRules.dotRule (BuiltinRules.token 1) (by simp) seen rfl ?_
    intro _ s
    rw [Leaf.translate, if_pos flag]
    rfl
  | false =>
    have flag : context.flags.has .dotAll = false := all
    have unread : LocalRule.Unread context (size before) ('.' :: rest) :=
      { dot := fun on => absurd on (by simp [all]) }
    have copied : text (Leaf.dot.translate context.flags context.slots rest) = ['.'] := by
      simp [Leaf.translate, flag, text]
    rw [copied]
    exact ofUnread standard unread rfl (by decide)

theorem ofEmptyClass (standard : r.Standard locals) {chunk out : Text}
    (seen : BuiltinRules.emptyClass ('[' :: chunk ++ rest) = some (BuiltinRules.token (size ('[' :: chunk))))
    (answer : (if '[' :: chunk = ['[', ']'] then BuiltinRules.noMatch else BuiltinRules.anyMatch) = out) :
    Writes locals input before ('[' :: chunk) rest ⟨.outside, context⟩ ⟨.outside, context⟩ out := by
  refine ofRule exceeds BuiltinRules.emptyClassRule _ (by simp) (LocalRule.firstEmptyClass standard seen) rfl ?_
  intro split s
  have source : (LocalRule.token input (size before)
      (BuiltinRules.token (size ('[' :: chunk)))).text = '[' :: chunk := (tokenReads split rfl).1
  dsimp only [BuiltinRules.emptyClassRule, BuiltinRules.constantly]
  rw [source, answer]
  rfl

theorem ofLeadingModes (standard : r.Standard locals) {letters : Text} {flags : FlagSet}
    (stalls : Stalls limit locals input [] ('(' :: '?' :: (letters ++ [')']) ++ rest) ⟨.outside, context⟩) (present : letters ≠ [])
    (modes : ∀ c ∈ letters, BuiltinRules.isModeLetter c) (known : FlagSet.ofLetters letters = .ok flags) :
    WritesUnless limit locals input [] ('(' :: '?' :: (letters ++ [')'])) rest ⟨.outside, context⟩
      ⟨.outside, context.setFlags flags⟩ [] := by
  have ascii : ∀ c ∈ letters, c.utf8Size = 1 := by
    intro c mem
    have listed : c ∈ ['i', 'm', 'n', 's', 'x'] := by simpa [BuiltinRules.isModeLetter] using modes c mem
    simp only [List.mem_cons, List.not_mem_nil, or_false] at listed
    rcases listed with rfl | rfl | rfl | rfl | rfl <;> rfl
  have length : size letters = letters.length := Text.sizeOfAscii ascii
  have run : (letters ++ ')' :: rest).takeWhile BuiltinRules.isModeLetter = letters :=
    Text.takeWhileEnds modes (by decide)
  have seen : BuiltinRules.leadingModes 0 ('(' :: '?' :: (letters ++ ')' :: rest)) =
      some (BuiltinRules.token (letters.length + 3) [⟨2, 2 + letters.length⟩]) := by
    simp [BuiltinRules.leadingModes, run, present]
  have whole : size ('(' :: '?' :: (letters ++ [')'])) = letters.length + 3 := by
    have signs : '('.utf8Size = 1 ∧ '?'.utf8Size = 1 ∧ ')'.utf8Size = 1 := ⟨rfl, rfl, rfl⟩
    simp only [size, Text.sizeAppend, length, signs]
    omega
  refine ofRule stalls BuiltinRules.leadingModesRule
    (BuiltinRules.token (letters.length + 3) [⟨2, 2 + letters.length⟩]) (by simp) ?_ ?_ ?_
  · obtain ⟨c, tail, rfl⟩ := List.exists_cons_of_ne_nil present
    simpa [size] using @LocalRule.firstLeadingModes _ _ context _ standard _ _ _ (modes c List.mem_cons_self) seen
  · rw [whole]
    rfl
  · intro split s
    have name := @tokenName _ [] ['(', '?'] letters (')' :: rest) (by simpa using split) (letters.length + 3)
    have front : size ['(', '?'] = 2 := rfl
    rw [front, length] at name
    dsimp only [BuiltinRules.leadingModesRule]
    rw [name, Option.getD_some, known]

theorem ofNativeOpener (standard : r.Standard locals) {tail : Text}
    (length : NativeToken.openerLength? (tail ++ rest) = some (size ('(' :: tail))) :
    Writes locals input before ('(' :: tail) rest ⟨.outside, context⟩ ⟨.outside, context⟩ ('(' :: tail) := by
  apply ofNativeToken exceeds
  · exact LocalRule.firstUnread standard .outside (LocalRule.unreadNativeOpener length)
  · exact length

theorem ofLone (standard : r.Standard locals) {d : Char} (ordinary : d ∉ ['(', '\\', '[', '.'])
    (solid : Unicode.isSpace d = false) (sign : d ≠ '#')
    (alone : NativeToken.length? .outside (d :: rest) = none) :
    Writes locals input before [d] rest ⟨.outside, context⟩ ⟨.outside, context⟩ [d] := by
  apply ofUnread standard (LocalRule.unreadElsewhere ordinary solid sign) alone
  simp only [List.mem_cons, not_or] at ordinary
  exact ordinary.2.2.1

theorem ofLiteral (standard : r.Standard locals) (c : Literal) :
    Writes locals input before [c.char] rest ⟨.outside, context⟩ ⟨.outside, context⟩ [c.char] := by
  obtain ⟨c, solid, sign, plain⟩ := c
  have operator : ∀ d ∈ ['(', '\\', '[', '.'], d ∈ operators := by simp [operators]
  have ordinary : c ∉ ['(', '\\', '[', '.'] := fun mem => plain (operator c mem)
  simp only [operators, List.mem_cons, List.not_mem_nil, or_false, not_or] at plain
  apply ofLone standard ordinary solid sign
  simp [NativeToken.length?, plain]

theorem ofLeaf (standard : r.Standard locals) (l : Leaf) :
    Writes locals input before (text l) rest ⟨.outside, context⟩ ⟨.outside, context⟩
      (text (l.translate context.flags context.slots rest)) := by
  cases l with
  | literal c => exact ofLiteral standard c
  | escaped e => exact ofEscape standard e .outside
  | dot => exact ofDot standard
  | caret => exact ofLone standard (by decide) (by decide) (by decide) rfl
  | dollar => exact ofLone standard (by decide) (by decide) (by decide) rfl
  | noChar => exact ofEmptyClass standard rfl rfl
  | anyChar => exact ofEmptyClass standard rfl rfl
  | members c => exact ofClass standard c
  | reference n => exact ofReference standard n

theorem ofOpener (standard : r.Standard locals) (o : Opener) (settled : rest.head? ≠ some '?') :
    Writes locals input before (text o) rest ⟨.outside, context⟩
      ⟨.outside, context.grow (o.slots context.flags)⟩ (text (o.translate context.flags)) := by
  cases o with
  | plain => exact ofPlainOpener standard settled
  | named n word => exact ofNamedOpener standard n word
  | grouping =>
    simp only [Opener.slots, Context.growNone]
    exact ofNativeOpener standard rfl
  | look ahead negative =>
    simp only [Opener.slots, Context.growNone]
    cases ahead <;> cases negative <;> exact ofNativeOpener standard rfl

theorem ofExpression (standard : r.Standard locals) (e : Extended) (settled : rest.head? ≠ some '?') :
    Writes locals input before e.print rest ⟨.outside, context⟩
      ⟨.outside, context.grow (e.slots context.flags)⟩
      (e.translate context.flags context.slots rest).print := by
  induction e generalizing before rest context with
  | empty =>
    simp only [Expression.slots, Context.growNone]
    exact nothing
  | atom l q =>
    simp only [Expression.slots, Context.growNone]
    exact andThen (ofLeaf standard l) (ofQuantified standard q settled)
  | group o body q ih =>
    have inner : (body.print ++ (')' :: text q ++ rest)).head? ≠ some '?' :=
      Expression.printHead body (by simp)
    have opener : Writes locals input before (text o) (body.print ++ (')' :: text q ++ rest))
        ⟨.outside, context⟩ ⟨.outside, context.grow (o.slots context.flags)⟩ _ :=
      ofOpener standard o inner
    have opened : Writes locals input before (text o ++ body.print) (')' :: text q ++ rest)
        ⟨.outside, context⟩ ⟨.outside, _⟩ _ := andThen opener (ih (by simp))
    rw [Context.growTwice] at opened
    have closing : Writes locals input (before ++ (text o ++ body.print)) [')'] (text q ++ rest)
        ⟨.outside, context.grow (o.slots context.flags ++ body.slots context.flags)⟩ _ [')'] :=
      ofLone standard (by decide) (by decide) (by decide) rfl
    exact andThen opened (andThen closing (ofQuantified standard q settled))
  | seq first second first_ih second_ih =>
    have former : Writes locals input before first.print (second.print ++ rest)
        ⟨.outside, context⟩ _ _ := first_ih (Expression.printHead second settled)
    have both : Writes locals input before (first.print ++ second.print) rest
        ⟨.outside, context⟩ ⟨.outside, _⟩ _ := andThen former (second_ih settled)
    rw [Context.growTwice] at both
    exact both
  | alt first second first_ih second_ih =>
    have former : Writes locals input before first.print ('|' :: second.print ++ rest)
        ⟨.outside, context⟩ _ _ := first_ih (by simp)
    have bar : Writes locals input (before ++ first.print) ['|'] (second.print ++ rest)
        ⟨.outside, context.grow (first.slots context.flags)⟩ _ ['|'] :=
      ofLone standard (by decide) (by decide) (by decide) rfl
    have latter : Writes locals input (before ++ first.print) ('|' :: second.print) rest
        ⟨.outside, context.grow (first.slots context.flags)⟩ ⟨.outside, _⟩ _ :=
      andThen bar (second_ih settled)
    rw [Context.growTwice] at latter
    exact andThen former latter

end Scanning

/-- With the built-in or the global rules every expression compiles, under all flags, to the text
of its translation, with a slot for each of its capturing groups, unless a plain group is too far
to be found. -/
theorem expressionCompiles {r : Registry} (standard : r = .builtins ∨ r = .global) (e : Extended)
    (flags : FlagSet) {s : Session} (idle : s.inRules = false) :
    (∃ (done : Compilation) (t : Session), compile e.print flags r s = (.ok done, t) ∧
      done.native = (e.translate flags [] []).print ∧ done.context = ⟨e.slots flags, flags⟩) ∨
      (compile e.print flags r s).1 = .error .backtrackLimit ∧ LocalRule.GroupTooFar e.print := by
  obtain ⟨locals, standard⟩ := Registry.Standard.ofLibrary standard
  have writes : Scanning.Writes locals e.print [] e.print [] ⟨.outside, .start flags⟩ ⟨.outside, _⟩ _ :=
    Scanning.ofExpression standard e (by simp)
  exact Scanning.compiledOrTooFar standard writes idle

theorem referenceKeepsDigitApart :
    ∃ (done : Compilation) (t : Session),
      compile "(?<a>.|[])*?\\k<a>1".toList (.single .dotAll) .global {} = (.ok done, t) ∧
        done.native = "([\\s\\S]|\\b\\B)*?\\1(?:)1".toList ∧
        done.context = ⟨[some ['a']], .single .dotAll⟩ := by
  let a : GroupName := ⟨['a'], by decide, by simp; decide⟩
  let body : Extended := .alt (.atom .dot none) (.atom .noChar none)
  let e : Extended := .seq (.group (.named a ⟨'a', by decide, by decide⟩) body (some ⟨.star, true⟩))
    (.seq (.atom (.reference a) none) (.atom (.literal ⟨'1', by decide, by decide⟩) none))
  have short : e.print.length < 1000000 := by decide
  exact (expressionCompiles (.inr rfl) e (.single .dotAll) rfl).resolve_right fun exceeded =>
    Nat.not_le.mpr short (LocalRule.farFits exceeded.2)

namespace Expression

def ofLetters : Nat → Extended
  | 0 => empty
  | n + 1 => seq (atom (.literal ⟨'a', by decide, by decide⟩) none) (ofLetters n)

theorem printLetters (n : Nat) : (ofLetters n).print = List.replicate n 'a' := by
  induction n with
  | zero => rfl
  | succ n ih => rw [ofLetters, print, ih]; rfl

end Expression

theorem lettersCompile {r : Registry} {locals : List LocalRule} (standard : r.Standard locals) {n : Nat} (few : n < 1000000)
    (flags : FlagSet) {s : Session} (idle : s.inRules = false) :
    ∃ done, (compile (List.replicate n 'a') flags r s).1 = .ok done := by
  rw [← Expression.printLetters]
  have short : (Expression.ofLetters n).print.length < 1000000 := by rwa [Expression.printLetters, List.length_replicate]
  have writes : Scanning.Writes locals (Expression.ofLetters n).print [] (Expression.ofLetters n).print []
      ⟨.outside, .start flags⟩ ⟨.outside, _⟩ _ := Scanning.ofExpression standard (Expression.ofLetters n) (by simp)
  obtain ⟨done, _, compiled, _⟩ := Scanning.compiled standard (standard.shortSearches short) writes idle
  exact ⟨done, congrArg Prod.fst compiled⟩

theorem lettersGiveUp {n : Nat} (many : 1000000 ≤ n) (flags : FlagSet) {s : Session} (idle : s.inRules = false) :
    (compile (Expression.ofLetters n).print flags .global s).1 = .error .backtrackLimit := by
  obtain ⟨n, rfl⟩ := Nat.exists_eq_succ_of_ne_zero (show n ≠ 0 by omega)
  have far : 1000000 ≤ LocalRule.passedOver (List.replicate (n + 1) 'a') := by
    rwa [LocalRule.passedWithout (by simp), List.length_replicate]
  rw [Expression.printLetters]
  rw [List.replicate_succ] at far ⊢
  exact Registry.Standard.global.givesUpAtStart (UnicodeNames.tokenElsewhere (by decide)) far flags idle

theorem millionLettersGiveUp : ∃ e : Extended, e.print.length = 1000000 ∧
    (compile e.print .empty .global {}).1 = .error .backtrackLimit := by
  refine ⟨Expression.ofLetters 1000000, ?_, lettersGiveUp (Nat.le_refl _) .empty rfl⟩
  rw [Expression.printLetters, List.length_replicate]

end ExtendedPattern
