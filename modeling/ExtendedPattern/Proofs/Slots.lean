import ExtendedPattern.Proofs.Translation
import ExtendedPattern.Search
import Mathlib.Data.List.Forall2

/-! Slots. The rules keep one for each parenthesis that they write for a group, under the name that the pattern
gives the group. -/
namespace ExtendedPattern
open Text (size)

namespace Segment

def opensGroup (g : Segment) : Bool := g.rewritten && g.fragment == ['(']

end Segment

/-- What opens a capturing group in an extended pattern, with the name that it gives the group. -/
inductive GroupOpener : Text → Option Text → Prop where
  | plain : GroupOpener ['('] none
  | named (n : GroupName) : GroupOpener (['(', '?', '<'] ++ n.name ++ ['>']) (some n.name)

namespace Compilation

def writtenGroups (c : Compilation) : List Segment := c.segments.filter Segment.opensGroup

end Compilation

namespace LocalRule

inductive Keeps (text : Text) (groups : Groups) (context after : Context) (out : Text) : Prop where
  | silent (other : out ≠ ['(']) (same : after.slots = context.slots)
  | opens {chunk more : Text} {name : Option Text} (written : out = ['(']) (split : text = chunk ++ more)
      (opener : GroupOpener chunk name) (whole : groups.head? = some (some ⟨0, size chunk⟩))
      (grown : after.slots = context.slots ++ [name])

def Accounts (recognize : Nat → Text → Option Groups) (handle : BuiltinRules.Handler) : Prop :=
  ∀ ⦃before c rest groups region context s out after t⦄,
    recognize (size before) (c :: rest) = some groups →
    handle (token (before ++ c :: rest) (size before) groups) region context s = (.ok (out, after), t) →
    Keeps (c :: rest) groups context after out

open BuiltinRules

theorem constantlyAccounts {f : TokenMatch → Text} (other : ∀ m, f m ≠ ['('])
    (recognize : Nat → Text → Option Groups) : Accounts recognize (constantly f) := by
  intro before c rest groups region context s out after t _ handled
  cases handled
  exact .silent (other _) rfl

theorem separatorOther (m : TokenMatch) : separator m ≠ ['('] := by
  unfold separator
  split <;> decide

theorem emptyClassOther (m : TokenMatch) : (if m.text = ['[', ']'] then noMatch else anyMatch) ≠ ['('] := by
  split <;> decide

theorem plainOpenerAccounts : Accounts (fun _ => plainOpener) plainOpenerRule.handle := by
  intro before c rest groups region context s out after t seen handled
  dsimp only [plainOpenerRule] at seen handled
  split at handled
  · cases handled
    exact .silent (by decide) rfl
  · cases handled
    unfold plainOpener at seen
    split at seen <;> try contradiction
    rename_i same
    cases same
    cases seen
    exact .opens rfl (List.singleton_append.symm) .plain rfl rfl

theorem nameTokenParts {opener : Nat} {t : Text} {groups : Groups} (seen : nameToken opener t = some groups) :
    ∃ (n : GroupName) (more : Text), t = n.name ++ '>' :: more ∧
      groups = BuiltinRules.token (opener + size n.name + 1) [⟨opener, opener + size n.name⟩] := by
  unfold nameToken at seen
  dsimp only at seen
  split at seen <;> try contradiction
  rename_i closed
  obtain ⟨nonempty, close⟩ := closed
  have allowed : ∀ c ∈ t.takeWhile isNameChar, isNameChar c := List.all_eq_true.mp List.all_takeWhile
  have parts : t.takeWhile isNameChar ++ t.dropWhile isNameChar = t := List.takeWhile_append_dropWhile
  generalize t.takeWhile isNameChar = name at *
  generalize t.dropWhile isNameChar = behind at parts
  subst parts
  have ascii : size name = name.length := Text.sizeOfAscii fun c mem => nameSize (allowed c mem)
  rw [List.getElem?_append_right (Nat.le_refl _), Nat.sub_self] at close
  obtain ⟨more, rfl⟩ : ∃ more, behind = '>' :: more := by
    cases behind with
    | nil => contradiction
    | cons d more => exact ⟨more, by rw [Option.some.inj close]⟩
  refine ⟨⟨name, nonempty, allowed⟩, more, rfl, ?_⟩
  rw [ascii]
  exact (Option.some.inj seen).symm

theorem namedOpenerAccounts : Accounts (fun _ => namedOpener) namedOpenerRule.handle := by
  intro before c rest groups region context s out after t seen handled
  dsimp only [namedOpenerRule] at seen handled
  split at handled
  · cases handled
  · cases handled
    unfold namedOpener at seen
    split at seen <;> try contradiction
    rename_i same
    cases same
    obtain ⟨n, more, rfl, rfl⟩ := nameTokenParts seen
    have split : before ++ '(' :: '?' :: '<' :: (n.name ++ '>' :: more) =
        before ++ (['(', '?', '<'] ++ (n.name ++ '>' :: more)) := rfl
    have named := Scanning.tokenName split (3 + size n.name + 1)
    have chunk : '(' :: '?' :: '<' :: (n.name ++ '>' :: more) = ['(', '?', '<'] ++ n.name ++ ['>'] ++ more := by
      simp
    refine .opens rfl chunk (.named n) ?_ ?_
    · simp only [Text.sizeAppend]
      rfl
    · exact congrArg (fun name => context.slots ++ [some (name.getD [])]) named

theorem leadingModesAccounts : Accounts leadingModes leadingModesRule.handle := by
  intro before c rest groups region context s out after t _ handled
  dsimp only [leadingModesRule] at handled
  split at handled
  · cases handled
    exact .silent (by decide) rfl
  · cases handled

theorem unicodePlaceholderAccounts : Accounts (fun _ => unicodeToken) unicodePlaceholder.handle := by
  intro before c rest groups region context s out after t _ handled
  cases handled

theorem tokenHead {before rest : Text} {c d : Char} {groups : Groups}
    (anchored : ∃ stop more, groups = some ⟨0, stop⟩ :: more) (other : c ≠ d) :
    (token (before ++ c :: rest) (size before) groups).text ≠ [d] := by
  obtain ⟨stop, more, rfl⟩ := anchored
  have source : (token (before ++ c :: rest) (size before) (some ⟨0, stop⟩ :: more)).text =
      Text.takeBytes (c :: rest) stop := by
    simp [TokenMatch.text, TokenMatch.group?, TokenMatch.groupSpan?, token, Span.shift, Text.slice,
      Text.dropBytesSize]
  rw [source, Text.takeBytes]
  split <;> simp [other]

theorem referenceAccounts : Accounts (fun _ => reference) referenceRule.handle := by
  intro before c rest groups region context s out after t seen handled
  have backslash : c = '\\' := by
    apply Decidable.byContradiction
    intro other
    have unseen : reference (c :: rest) = none := referenceElsewhere other
    exact absurd (unseen.symm.trans seen) (by simp)
  have unnamed : (token (before ++ c :: rest) (size before) groups).text ≠ ['('] :=
    tokenHead (@referenceAnchored 0 _ _ seen) (by rw [backslash]; decide)
  dsimp only [referenceRule] at handled
  cases handled
  refine .silent ?_ rfl
  unfold referenceText
  split
  · simp
  · exact unnamed

theorem classBodyOther (s : CodePointSet) : s.classBody ≠ ['('] := by
  unfold CodePointSet.classBody
  cases s.ranges.flatMap CodePointSet.withoutSurrogates with
  | nil => simp
  | cons r more => 
    simp [CodePointSet.renderRange, CodePointSet.unit]
    split <;> simp

theorem unicodeAccounts (names : UnicodeNames) : Accounts (fun _ => UnicodeNames.token) names.handle := by
  intro before c rest groups region context s out after t _ handled
  unfold UnicodeNames.handle at handled
  split at handled
  · cases handled
  · cases found : names.find? (((token (before ++ c :: rest) (size before) groups).group? 3).getD []) with
    | none =>
      rw [found] at handled
      cases handled
    | some s =>
      rw [found] at handled
      cases handled
      refine .silent ?_ rfl
      unfold UnicodeNames.nativeText
      split
      · split <;> exact classBodyOther _
      · split
        · split <;> decide
        · split <;> simp

theorem standardAccounts {locals : List LocalRule} {r : Registry} (standard : r.Standard locals) :
    ∀ l ∈ locals, Accounts l.recognize l.rule.handle := by
  have builtin : ∀ l ∈ builtins, Accounts l.recognize l.rule.handle := by
    simp only [builtins, List.forall_mem_cons]
    exact ⟨plainOpenerAccounts, namedOpenerAccounts, constantlyAccounts (fun _ => by decide) _,
      constantlyAccounts separatorOther _, referenceAccounts, leadingModesAccounts,
      constantlyAccounts separatorOther _, constantlyAccounts emptyClassOther _,
      unicodePlaceholderAccounts, by simp⟩
  have named (names : UnicodeNames) : ∀ l ∈ unicode names :: builtins, Accounts l.recognize l.rule.handle :=
    List.forall_mem_cons.mpr ⟨unicodeAccounts names, builtin⟩
  cases standard with
  | builtins => exact builtin
  | global => exact named _

end LocalRule

namespace Uncached
variable {locals : List LocalRule} {input before rest : Text} {c : Char} {p q : Progress} {s t : Session}

def Progress.Accounted (p : Progress) : Prop :=
  List.Forall₂ (fun g name => GroupOpener g.source name) (p.segments.reverse.filter Segment.opensGroup) p.context.slots

theorem copyAccounted (accounted : p.Accounted) (rest : Text) (length : Nat) :
    (p.copy rest length).Accounted := by
  simpa [Progress.Accounted, Progress.copy, Segment.opensGroup] using accounted

theorem firedAccounted {groups : Groups} {out : Text} {after : Context} {next : Nat}
    (accounted : p.Accounted) (keeps : LocalRule.Keeps (c :: rest) groups p.context after out)
    (stop : ∀ g, groups.head? = some (some g) → 0 < g.stop → next = size before + g.stop) :
    Progress.Accounted { p with
      context := after
      segments := ⟨Text.takeBytes (c :: rest) (next - size before), out, true⟩ :: p.segments } := by
  unfold Progress.Accounted at accounted ⊢
  cases keeps with
  | silent other same => simpa [Segment.opensGroup, other, same] using accounted
  | @opens chunk more name written split opener whole grown =>
    have positive : 0 < size chunk := by
      have parenthesis := '('.utf8Size_pos
      cases opener <;> simp only [size, Text.sizeAppend] <;> omega
    have length : next - size before = size chunk := by
      rw [stop _ whole positive]
      exact Nat.add_sub_cancel_left _ _
    rw [split, length, Text.takeBytesSize, grown, written]
    simp only [List.reverse_cons, List.filter_append]
    exact List.rel_append accounted (.cons opener .nil)

theorem moveAccounted (accounts : ∀ l ∈ locals, LocalRule.Accounts l.recognize l.rule.handle)
    (move : Scanning.Moves locals input p q) (accounted : p.Accounted) : q.Accounted := by
  obtain ⟨before, rest, c, next, s, t, rfl, stepped⟩ := move
  simp only [step, Session.whileInRules, LocalRule.fireFirst] at stepped
  by_cases calm : LocalRule.anyGivesUp p.region p.context (size before) (c :: rest) locals = true
  · simp only [if_pos calm] at stepped
    cases stepped
  simp only [if_neg calm] at stepped
  cases first : LocalRule.first? locals p.region p.context (size before) (c :: rest) with
  | none =>
    simp only [first, LocalRule.respond] at stepped
    split at stepped
    · cases stepped
      exact copyAccounted accounted _ _
    · cases stepped
      exact copyAccounted accounted _ _
  | some found =>
    obtain ⟨l, groups⟩ := found
    obtain ⟨mem, _, seen⟩ := LocalRule.firstParts first
    simp only [first, LocalRule.respond, LocalRule.answer] at stepped
    generalize handling : l.rule.handle _ _ _ _ = handled at stepped
    obtain ⟨result, s'⟩ := handled
    cases result with
    | error e => cases stepped
    | ok outcome =>
      obtain ⟨out, after⟩ := outcome
      cases stepped
      refine firedAccounted accounted (accounts l mem seen handling) ?_
      intro g whole positive
      have forward : size before < size before + g.stop := by omega
      rw [LocalRule.tokenStop whole, if_pos forward]

theorem movesAccounted (accounts : ∀ l ∈ locals, LocalRule.Accounts l.recognize l.rule.handle)
    (moves : Relation.ReflTransGen (Scanning.Moves locals input) p q) (accounted : p.Accounted) : q.Accounted := by
  induction moves with
  | refl => exact accounted
  | tail _ move ih => exact moveAccounted accounts move ih

theorem scanMoves (split : input = before ++ rest) {next : Nat}
    (scanned : scan (locals.map LocalRule.rule) input rest (size before) next p s = (.ok q, t)) :
    Relation.ReflTransGen (Scanning.Moves locals input) p q := by
  induction rest generalizing before p s next with
  | nil => cases scanned; exact .refl
  | cons c rest ih =>
    have moved : size before + c.utf8Size = size (before ++ [c]) := by simp [Text.sizeAppend, size]
    have split' : input = (before ++ [c]) ++ rest := by simpa using split
    rw [scan] at scanned
    split at scanned
    · rw [moved] at scanned
      exact ih split' scanned
    · split at scanned
      · rename_i stepped
        rw [moved] at scanned
        exact .head ⟨before, rest, c, _, _, _, split, stepped⟩ (ih split' scanned)
      · cases scanned

end Uncached

theorem slotsOfWrittenGroups {r : Registry} {locals : List LocalRule} (standard : r.Standard locals)
    {source : Text} {flags : FlagSet} {s t : Session} {done : Compilation} (compiled : compile source flags r s = (.ok done, t)) :
    List.Forall₂ (fun g name => GroupOpener g.source name) done.writtenGroups done.context.slots := by
  rw [standard.compiles, Uncached.rewrite] at compiled
  split at compiled
  · cases compiled
  · split at compiled
    · cases compiled
    · rename_i scanned
      cases compiled
      have start : Uncached.Progress.Accounted { context := .start flags } := .nil
      exact Uncached.movesAccounted (LocalRule.standardAccounts standard) (Uncached.scanMoves (List.nil_append _).symm scanned) start

namespace Pattern

theorem assembleParts {source native : Text} {flags : FlagSet} {names : Option (List (Option Text))}
    {limits : Engine.Limits} {p : Pattern} (built : assemble source native flags names limits = .ok p) :
    p.native = native ∧ p.flags = flags ∧ p.names = names ∧
      Engine.Program.build? limits (p.flags.openNative p.native) = some p.program := by
  unfold assemble at built
  split at built
  · rename_i same
    cases built
    exact ⟨rfl, rfl, rfl, same⟩
  · cases built

theorem withFlagsParts {source letters : Text} {p : Pattern} {s t : Session}
    (built : withFlags source letters s = (.ok p, t)) :
    ∃ (flags : FlagSet) (done : Compilation), FlagSet.ofLetters letters = .ok flags ∧
      compile source flags .global s = (.ok done, t) ∧
      assemble source done.native done.context.flags done.context.names {} = .ok p := by
  obtain ⟨flags, _, letters, built⟩ := Action.andThenOk built
  obtain ⟨known, rfl⟩ := Prod.mk.inj letters
  obtain ⟨done, _, compiled, built⟩ := Action.andThenOk built
  obtain ⟨assembled, rfl⟩ := Prod.mk.inj built
  exact ⟨flags, done, known, compiled, assembled⟩

theorem withRulesOf (rules : List TokenRule) (source : Text) (flags : FlagSet) (limits : Engine.Limits) (s : Session) :
    (withRules rules source flags limits s).1 = (rewrite rules source flags s).1.bind fun done =>
      assemble source done.native done.context.flags done.context.names limits := by
  change (Action.andThen _ _ s).1 = _
  unfold Action.andThen
  rcases rewrite rules source flags s with ⟨_ | done, t⟩ <;> rfl

theorem withFlagsOf {source letters : Text} {flags : FlagSet} {done : Compilation} {p : Pattern}
    {s t : Session} (known : FlagSet.ofLetters letters = .ok flags)
    (compiled : compile source flags .global s = (.ok done, t))
    (assembled : assemble source done.native done.context.flags done.context.names {} = .ok p) :
    withFlags source letters s = (.ok p, t) := by
  change rewrite (Registry.rules .global) source flags s = _ at compiled
  simp only [withFlags, withFlagsBy, byGlobal, withRegistry, withLimits, withRules, bind, Action.andThen, liftM,
    monadLift, MonadLift.monadLift, Action.ofExcept, known, compiled, assembled]

end Pattern

namespace Scanning
variable {locals : List LocalRule} {r : Registry} {input before rest : Text} {context : Context}

theorem ofComment (standard : r.Standard locals) {words : Text} (plain : ∀ c ∈ words, (c != ')') = true) :
    Writes locals input before (['(', '?', '#'] ++ (words ++ [')'])) rest ⟨.outside, context⟩
      ⟨.outside, context⟩ (if NativeToken.startsWithQuantifier rest then [] else "(?:)".toList) := by
  have inner : (words ++ ')' :: rest).takeWhile (· != ')') = words := Text.takeWhileEnds plain rfl
  have seen : BuiltinRules.comment ('(' :: '?' :: '#' :: (words ++ ')' :: rest)) =
      some (BuiltinRules.token (3 + size words + 1)) := by
    simp [BuiltinRules.comment, BuiltinRules.closedToken, inner]
  have spelled : ['(', '?', '#'] ++ (words ++ [')']) ++ rest = '(' :: '?' :: '#' :: (words ++ ')' :: rest) := by
    simp
  have whole : (BuiltinRules.token (3 + size words + 1)).head? =
      some (some ⟨0, size (['(', '?', '#'] ++ (words ++ [')']))⟩) := by
    simp only [Text.sizeAppend, ← Nat.add_assoc]
    rfl
  refine ofRule exceeds BuiltinRules.commentRule _ (by simp) ?_ whole ?_
  · rw [spelled]
    exact LocalRule.firstComment standard seen
  · intro split s
    have behind := (tokenReads split whole).2
    dsimp only [BuiltinRules.commentRule, BuiltinRules.constantly, BuiltinRules.separator]
    rw [behind]
    rfl

end Scanning

end ExtendedPattern
