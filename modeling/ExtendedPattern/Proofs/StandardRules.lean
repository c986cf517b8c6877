import ExtendedPattern.Proofs.GlobalRegistry
import ExtendedPattern.Proofs.SearchLimit

/-! The built-in rules and the rule for Unicode tokens see their tokens on the spot. Compiling
with the built-in or the global registry therefore fires, at every place, the first of them
that sees a token there. -/
namespace ExtendedPattern

namespace BuiltinRules
open TokenRule (Anchored)

theorem nameTokenAnchored {opener : Nat} {t : Text} {found : Groups}
    (seen : nameToken opener t = some found) : ∃ stop more, found = some ⟨0, stop⟩ :: more := by
  unfold nameToken at seen
  dsimp only at seen
  split at seen
  · cases seen; exact ⟨_, _, rfl⟩
  · contradiction

theorem closedTokenAnchored {close : Char} {opener : Nat} {t : Text} {found : Groups}
    (seen : closedToken close opener t = some found) : ∃ stop more, found = some ⟨0, stop⟩ :: more := by
  unfold closedToken at seen
  dsimp only at seen
  split at seen
  · cases seen; exact ⟨_, _, rfl⟩
  · contradiction

theorem unicodeTokenAnchored : Anchored fun _ => unicodeToken := by
  intro _ t found seen
  dsimp only at seen
  unfold unicodeToken at seen
  split at seen
  · exact closedTokenAnchored seen
  · exact closedTokenAnchored seen
  · contradiction

theorem emptyClassAnchored : Anchored fun _ => emptyClass := by
  intro _ t found seen
  dsimp only at seen
  unfold emptyClass at seen
  split at seen <;> try contradiction
  all_goals cases seen; exact ⟨_, _, rfl⟩

theorem commentAnchored : Anchored fun _ => comment := by
  intro _ t found seen
  dsimp only at seen
  unfold comment at seen
  split at seen
  · exact closedTokenAnchored seen
  · contradiction

theorem leadingModesParts {offset : Nat} {t : Text} {groups : Groups} (seen : leadingModes offset t = some groups) :
    offset = 0 ∧ ∃ letters rest, letters ≠ [] ∧ (∀ c ∈ letters, isModeLetter c) ∧ t = '(' :: '?' :: (letters ++ ')' :: rest) ∧
      groups = token (letters.length + 3) [⟨2, 2 + letters.length⟩] := by
  unfold leadingModes at seen
  split at seen <;> try contradiction
  rename_i rest
  dsimp only at seen
  split at seen <;> try contradiction
  rename_i fits
  obtain ⟨atStart, present, close⟩ := fits
  have letters : ∀ c ∈ rest.takeWhile isModeLetter, isModeLetter c := List.all_eq_true.mp List.all_takeWhile
  have parts : rest.takeWhile isModeLetter ++ rest.dropWhile isModeLetter = rest := List.takeWhile_append_dropWhile
  generalize rest.takeWhile isModeLetter = front at *
  generalize rest.dropWhile isModeLetter = behind at parts
  subst parts
  rw [List.getElem?_append_right (Nat.le_refl _), Nat.sub_self] at close
  cases behind with
  | nil => contradiction
  | cons d behind =>
    obtain rfl := Option.some.inj close
    exact ⟨atStart, front, behind, present, letters, rfl, (Option.some.inj seen).symm⟩

theorem modeLetterSize {c : Char} (letter : isModeLetter c) : c.utf8Size = 1 := by
  have listed : c ∈ ['i', 'm', 'n', 's', 'x'] := by simpa [isModeLetter] using letter
  simp only [List.mem_cons, List.not_mem_nil, or_false] at listed
  rcases listed with rfl | rfl | rfl | rfl | rfl <;> rfl

theorem leadingModesAnchored : Anchored leadingModes := by
  intro offset t found seen
  obtain ⟨_, letters, _, _, _, _, rfl⟩ := leadingModesParts seen
  exact ⟨_, _, rfl⟩

theorem referenceAnchored : Anchored fun _ => reference := by
  intro _ t found seen
  dsimp only at seen
  unfold reference at seen
  split at seen
  · exact nameTokenAnchored seen
  · contradiction

theorem blankAnchored : Anchored fun _ => blank := by
  intro _ t found seen
  dsimp only [blank] at seen
  split at seen
  · contradiction
  · cases seen; exact ⟨_, _, rfl⟩

theorem dotAnchored : Anchored fun _ => dot := by
  intro _ t found seen
  dsimp only at seen
  unfold dot at seen
  split at seen
  · cases seen; exact ⟨_, _, rfl⟩
  · contradiction

theorem namedOpenerAnchored : Anchored fun _ => namedOpener := by
  intro _ t found seen
  dsimp only at seen
  unfold namedOpener at seen
  split at seen
  · exact nameTokenAnchored seen
  · contradiction

end BuiltinRules

theorem UnicodeNames.tokenAnchored : TokenRule.Anchored fun _ => UnicodeNames.token := by
  intro _ t found seen
  dsimp only at seen
  unfold UnicodeNames.token at seen
  split at seen <;> try contradiction
  rename_i letter rest
  generalize (if rest.head? = some '^' then 1 else 0) = caret at seen
  split at seen <;> try contradiction
  dsimp only at seen
  split at seen <;> try contradiction
  cases seen; exact ⟨_, _, rfl⟩

namespace LocalRule
open TokenRule (Anchored)

theorem ungated {rule : TokenRule} (free : rule.trigger = none) (region : Region) (context : Context) (s : Session) :
    rule.applies region context s = (rule.regions.has region, s) := by
  cases place : rule.regions.has region <;> simp [TokenRule.applies, place, free]

def always (rule : TokenRule) (recognize : Nat → Text → Option Groups)
    (finder : rule.find = TokenRule.finderOf recognize) (free : rule.trigger = none)
    (anchored : Anchored recognize) : LocalRule where
  rule
  takesPart region _ := rule.regions.has region
  recognize
  reach := none
  applies := ungated free
  finds := finder ▸ TokenRule.unlimitedFinds recognize
  anchored
  uniform := .inl rfl

def underFlag (rule : TokenRule) (flag : Flag) (recognize : Nat → Text → Option Groups)
    (finder : rule.find = TokenRule.finderOf recognize)
    (gate : rule.trigger = some (BuiltinRules.onFlag flag)) (anchored : Anchored recognize) :
    LocalRule where
  rule
  takesPart region context := rule.regions.has region && context.has flag
  recognize
  reach := none
  applies := by
    intro region context s
    cases place : rule.regions.has region <;>
      simp [TokenRule.applies, place, gate, BuiltinRules.onFlag]
  finds := finder ▸ TokenRule.unlimitedFinds recognize
  anchored
  uniform := .inl rfl

open BuiltinRules

def passedOver (t : Text) : Nat := TokenRule.gap (fun _ => BuiltinRules.plainOpener) t 0

/-- Somewhere in the pattern the search for a plain parenthesis has to pass over too many characters. -/
def GroupTooFar (pattern : Text) : Prop := ∃ before after, pattern = before ++ after ∧ 1000000 ≤ passedOver after

theorem farFits {pattern : Text} (far : GroupTooFar pattern) : 1000000 ≤ pattern.length := by
  obtain ⟨before, after, rfl, far⟩ := far
  have within : passedOver after ≤ after.length := TokenRule.gapAtMost _ after 0
  rw [List.length_append]
  omega

theorem passedBehind {c : Char} {rest : Text} (unseen : BuiltinRules.plainOpener (c :: rest) = none) :
    passedOver (c :: rest) = passedOver rest + 1 := by
  rw [passedOver, TokenRule.gap, unseen, if_neg (by simp), TokenRule.gapSame (fun _ _ _ => rfl) rest _ 0]
  rfl

theorem passedWithout {t : Text} (absent : '(' ∉ t) : passedOver t = t.length := by
  induction t with
  | nil => rfl
  | cons c rest ih =>
    have other : c ≠ '(' := fun same => absent (same ▸ List.mem_cons_self)
    rw [passedBehind (by simp [BuiltinRules.plainOpener, other]), ih fun mem => absent (List.mem_cons_of_mem c mem)]
    rfl

def plainGroup : LocalRule where
  rule := plainOpenerRule
  takesPart region _ := RegionSet.outsideOnly.has region
  recognize _ := BuiltinRules.plainOpener
  reach := some 1000000
  applies := ungated rfl
  finds := plainOpenerFinds
  anchored := plainOpenerAnchored
  uniform := .inr ⟨fun _ _ _ => rfl, fun _ _ _ => rfl⟩

def builtins : List LocalRule := [
  plainGroup,
  always namedOpenerRule (fun _ => namedOpener) rfl rfl namedOpenerAnchored,
  underFlag dotRule .dotAll (fun _ => dot) rfl rfl dotAnchored,
  underFlag blankRule .extended (fun _ => blank) rfl rfl blankAnchored,
  always referenceRule (fun _ => reference) rfl rfl referenceAnchored,
  always leadingModesRule leadingModes rfl rfl leadingModesAnchored,
  always commentRule (fun _ => comment) rfl rfl commentAnchored,
  always emptyClassRule (fun _ => emptyClass) rfl rfl emptyClassAnchored,
  always unicodePlaceholder (fun _ => unicodeToken) rfl rfl unicodeTokenAnchored]

theorem groupGivesUp (context : Context) (offset : Nat) (t : Text) :
    plainGroup.givesUp .outside context offset t = decide (1000000 ≤ passedOver t) := by
  rw [givesUpSame plainGroup .outside context context offset 0]
  rfl

theorem unlimitedGoOn {locals : List LocalRule} (unlimited : ∀ l ∈ locals, l.reach = none) (region : Region)
    (context : Context) (offset : Nat) (t : Text) : anyGivesUp region context offset t locals = false := by
  induction locals with
  | nil => rfl
  | cons l others ih =>
    obtain ⟨head, tail⟩ := List.forall_mem_cons.mp unlimited
    simp [anyGivesUp, givesUp, head, ih tail]

theorem builtinsGiveUp (region : Region) (context : Context) (offset : Nat) (t : Text) :
    anyGivesUp region context offset t builtins = plainGroup.givesUp region context offset t := by
  rw [builtins, anyGivesUp, unlimitedGoOn (by simp [always, underFlag]), Bool.and_false, Bool.or_false]

theorem builtinLimited {l : LocalRule} (mem : l ∈ builtins) {n : Nat} (limit : l.reach = some n) : l = plainGroup := by
  simp only [builtins, List.mem_cons, List.not_mem_nil, or_false] at mem
  rcases mem with rfl | rfl | rfl | rfl | rfl | rfl | rfl | rfl | rfl <;> cases limit
  rfl

theorem goesOnInside {locals : List LocalRule} (limited : ∀ l ∈ locals, ∀ n, l.reach = some n → l = plainGroup)
    (context : Context) (offset : Nat) (t : Text) : anyGivesUp .inside context offset t locals = false := by
  induction locals with
  | nil => rfl
  | cons l others ih =>
    obtain ⟨head, tail⟩ := List.forall_mem_cons.mp limited
    have goesOn : l.givesUp .inside context offset t = false := by
      cases limit : l.reach with
      | none => simp [givesUp, limit]
      | some n => rw [head n limit]; rfl
    rw [anyGivesUp, goesOn, ih tail, Bool.and_false, Bool.or_false]

theorem goesOnBefore {l : LocalRule} (unlimited : l.reach = none) {region : Region} {context : Context} {offset : Nat}
    {t : Text} {groups : Groups} (seen : l.sees? region context offset t = some groups) (others : List LocalRule) :
    anyGivesUp region context offset t (l :: others) = false := by
  simp [anyGivesUp, givesUp, unlimited, seen]

def unicode (names : UnicodeNames) : LocalRule :=
  always names.rule (fun _ => UnicodeNames.token) rfl rfl UnicodeNames.tokenAnchored

theorem builtinsRules : builtins.map LocalRule.rule = BuiltinRules.all.reverse := rfl

end LocalRule

inductive Registry.Standard : Registry → List LocalRule → Prop where
  | builtins : Standard .builtins LocalRule.builtins
  | global : Standard .global (.unicode Registry.global.names :: LocalRule.builtins)

namespace Registry.Standard

theorem ofLibrary {r : Registry} (library : r = .builtins ∨ r = .global) : ∃ locals, r.Standard locals := by
  rcases library with same | same <;> rw [same]
  · exact ⟨_, .builtins⟩
  · exact ⟨_, .global⟩

theorem givesUp {r : Registry} {locals : List LocalRule} (standard : r.Standard locals) (region : Region)
    (context : Context) (offset : Nat) {t : Text} (unread : UnicodeNames.token t = none) :
    LocalRule.anyGivesUp region context offset t locals = LocalRule.plainGroup.givesUp region context offset t := by
  cases standard with
  | builtins => exact LocalRule.builtinsGiveUp region context offset t
  | global =>
    have unseen : (LocalRule.unicode Registry.global.names).sees? region context offset t = none := by
      simp [LocalRule.sees?, LocalRule.unicode, LocalRule.always, unread]
    rw [LocalRule.anyGivesUp, unseen, LocalRule.builtinsGiveUp]
    simp [LocalRule.givesUp, LocalRule.unicode, LocalRule.always]

theorem rules {r : Registry} {locals : List LocalRule} (standard : r.Standard locals) :
    r.rules = locals.map LocalRule.rule := by
  cases standard with
  | builtins => exact builtinRules
  | global => rw [globalRules, List.map_cons, LocalRule.builtinsRules]; rfl

theorem compiles {r : Registry} {locals : List LocalRule} (standard : r.Standard locals)
    (pattern : Text) (flags : FlagSet) (s : Session) :
    compile pattern flags r s = Uncached.rewrite (locals.map LocalRule.rule) pattern flags s :=
  compilesLocally standard.rules pattern flags s

theorem limited {r : Registry} {locals : List LocalRule} (standard : r.Standard locals) :
    ∀ l ∈ locals, ∀ n, l.reach = some n → l = LocalRule.plainGroup := by
  intro l mem n limit
  cases standard with
  | builtins => exact LocalRule.builtinLimited mem limit
  | global =>
    rcases List.mem_cons.mp mem with rfl | mem
    · cases limit
    · exact LocalRule.builtinLimited mem limit

theorem hasGroup {r : Registry} {locals : List LocalRule} (standard : r.Standard locals) :
    LocalRule.plainGroup ∈ locals := by
  cases standard with
  | builtins => exact List.mem_cons_self
  | global => exact List.mem_cons_of_mem _ List.mem_cons_self

theorem searches {r : Registry} {locals : List LocalRule} (standard : r.Standard locals) {pattern : Text} :
    r.Searches pattern ↔ ∀ l ∈ locals, l.rule.Searches pattern :=
  LocalRule.searchesRules standard.rules

theorem searchesNear {r : Registry} {locals : List LocalRule} (standard : r.Standard locals) {pattern : Text} :
    r.Searches pattern ↔ ¬ LocalRule.GroupTooFar pattern := by
  have same (after : Text) (offset : Nat) :
      TokenRule.gap LocalRule.plainGroup.recognize after offset = LocalRule.passedOver after :=
    TokenRule.gapSame (fun _ _ _ => rfl) after offset 0
  rw [standard.searches]
  constructor
  · rintro searches ⟨before, after, rfl, far⟩
    obtain ⟨found, search⟩ := searches LocalRule.plainGroup standard.hasGroup Text.placeBefore
    rw [LocalRule.plainGroup.finds, TokenRule.limitedFinds] at search
    have near := same after _ ▸ search.1 1000000 rfl
    exact Nat.not_lt.mpr far near
  · rintro near l mem _ ⟨before, after, rfl, rfl⟩
    refine ⟨_, (l.finds before after).trans (TokenRule.limitedFinds.mpr ⟨fun n limit => ?_, rfl⟩)⟩
    obtain rfl := standard.limited l mem n limit
    obtain rfl : 1000000 = n := Option.some.inj limit
    exact (same after _).symm ▸ Nat.lt_of_not_le fun far => near ⟨before, after, rfl, far⟩

theorem shortSearches {r : Registry} {locals : List LocalRule} (standard : r.Standard locals) {pattern : Text}
    (short : pattern.length < 1000000) : r.Searches pattern :=
  standard.searchesNear.mpr fun far => Nat.not_le.mpr short (LocalRule.farFits far)

theorem givesUpAtStart {r : Registry} {locals : List LocalRule} (standard : r.Standard locals) {c : Char} {rest : Text}
    (unread : UnicodeNames.token (c :: rest) = none) (far : 1000000 ≤ LocalRule.passedOver (c :: rest))
    (flags : FlagSet) {s : Session} (idle : s.inRules = false) :
    (compile (c :: rest) flags r s).1 = .error .backtrackLimit := by
  have gives : LocalRule.anyGivesUp .outside (.start flags) 0 (c :: rest) locals = true := by
    rw [standard.givesUp .outside (.start flags) 0 unread, LocalRule.groupGivesUp]
    exact decide_eq_true far
  have fires (s : Session) : Uncached.fire (c :: rest) 0 .outside (.start flags) (locals.map LocalRule.rule) s = _ :=
    LocalRule.fireFirst locals [] c rest .outside (.start flags) s
  simp only [Text.size, gives, if_true] at fires
  rw [standard.compiles, Uncached.rewrite, if_neg (by simp [idle]), Uncached.scan, if_neg (Nat.lt_irrefl 0), Uncached.step,
    Session.whileInRules, fires]

end Registry.Standard

section Unnamed
variable {names : UnicodeNames} {locals : List LocalRule} {before t : Text} {c : Char} {region : Region} {context : Context}

theorem UnicodeNames.tokenUnbraced (unbraced : '{' ∉ t) : token t = none := by
  unfold token
  split
  · exact absurd (by simp) unbraced
  · rfl

theorem Uncached.stepUnnamed (unbraced : '{' ∉ c :: t) (p : Progress) (s : Session) :
    step ((LocalRule.unicode names :: locals).map LocalRule.rule) (before ++ c :: t) c t (Text.size before) p s =
      step (locals.map LocalRule.rule) (before ++ c :: t) c t (Text.size before) p s := by
  have unseen : (LocalRule.unicode names).sees? p.region p.context (Text.size before) (c :: t) = none := by
    simp [LocalRule.sees?, LocalRule.unicode, LocalRule.always, UnicodeNames.tokenUnbraced unbraced]
  have goesOn : (LocalRule.unicode names).givesUp p.region p.context (Text.size before) (c :: t) = false := by
    simp [LocalRule.givesUp, LocalRule.unicode, LocalRule.always]
  have first : LocalRule.first? (.unicode names :: locals) p.region p.context (Text.size before) (c :: t) =
      LocalRule.first? locals p.region p.context (Text.size before) (c :: t) := by
    rw [LocalRule.first?, List.findSome?_cons, unseen]
    rfl
  simp only [step, Session.whileInRules, LocalRule.fireFirst, LocalRule.anyGivesUp, goesOn, unseen, first, Option.isNone_none,
    Bool.false_or, Bool.true_and]

theorem Uncached.scanUnnamed (unbraced : '{' ∉ t) (next : Nat) (p : Progress) (s : Session) :
    scan ((LocalRule.unicode names :: locals).map LocalRule.rule) (before ++ t) t (Text.size before) next p s =
      scan (locals.map LocalRule.rule) (before ++ t) t (Text.size before) next p s := by
  induction t generalizing before next p s with
  | nil => rfl
  | cons c rest ih =>
    have behind : '{' ∉ rest := fun mem => unbraced (List.mem_cons_of_mem c mem)
    have onward := fun next p s => @ih (before ++ [c]) behind next p s
    simp only [List.append_assoc, List.singleton_append, Text.sizeAppend, Text.size, Nat.add_zero] at onward
    simp only [scan, Uncached.stepUnnamed unbraced, onward]

end Unnamed

theorem compileUnnamed {pattern : Text} (unbraced : '{' ∉ pattern) (flags : FlagSet) (s : Session) :
    compile pattern flags .global s = compile pattern flags .builtins s := by
  rw [Registry.Standard.global.compiles, Registry.Standard.builtins.compiles, Uncached.rewrite, Uncached.rewrite]
  have same := @Uncached.scanUnnamed Registry.global.names LocalRule.builtins [] pattern unbraced 0 { context := .start flags } s
  rw [List.nil_append, Text.size] at same
  rw [same]

end ExtendedPattern
