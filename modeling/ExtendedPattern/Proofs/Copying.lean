import ExtendedPattern.Proofs.BundledRules
import ExtendedPattern.Proofs.FlagMembers
import ExtendedPattern.Proofs.Places
import ExtendedPattern.Proofs.Slots

/-! Copies under other flags. Rewriting asks for three flags only, so a pattern compiled under flags that agree on
these is written in the same way, and a copy is what compiling again would give. -/
namespace ExtendedPattern
open Text (size)

def Text.Leads (source : Text) (flag : Flag) : Prop :=
  ∃ letters rest, source = '(' :: '?' :: (letters ++ ')' :: rest) ∧
    (∀ c ∈ letters, BuiltinRules.isModeLetter c) ∧ flag.letter ∈ letters

def FlagSet.RewritesAs (f g : FlagSet) : Prop :=
  ∀ flag ∈ [Flag.explicitCapture, .dotAll, .extended], f.has flag = g.has flag

structure Context.Beside (source : Text) (f g : FlagSet) (c d : Context) : Prop where
  slots : c.slots = d.slots
  modes : ∃ modes : FlagSet, (∀ flag, modes.has flag → source.Leads flag) ∧
    c.flags = f.union modes ∧ d.flags = g.union modes

def Pairing.underFlags (source : Text) (f g : FlagSet) : Pairing := ⟨Context.Beside source f g, Eq, fun _ => rfl⟩

namespace Context.Beside
variable {source : Text} {f g : FlagSet} {c d : Context}

theorem start (source : Text) (f g : FlagSet) : Beside source f g (.start f) (.start g) where
  slots := rfl
  modes := by
    refine ⟨.empty, by simp, ?_, ?_⟩ <;> exact FlagSet.sameMembers (by simp [Context.start])

theorem push (beside : Beside source f g c d) (name : Option Text) : Beside source f g (c.push name) (d.push name) where
  slots := congrArg (· ++ [name]) beside.slots
  modes := beside.modes

theorem setFlags (beside : Beside source f g c d) {more : FlagSet} (leads : ∀ flag, more.has flag → source.Leads flag) :
    Beside source f g (c.setFlags more) (d.setFlags more) where
  slots := beside.slots
  modes := by
    obtain ⟨modes, known, left, right⟩ := beside.modes
    refine ⟨modes.union more, ?_, ?_, ?_⟩
    · intro flag member
      rw [FlagSet.hasUnion, Bool.or_eq_true] at member
      exact member.elim (known flag) (leads flag)
    · exact FlagSet.sameMembers (by simp [Context.setFlags, left, Bool.or_assoc])
    · exact FlagSet.sameMembers (by simp [Context.setFlags, right, Bool.or_assoc])

theorem has (beside : Beside source f g c d) (alike : f.RewritesAs g) {flag : Flag}
    (asked : flag ∈ [Flag.explicitCapture, .dotAll, .extended]) : c.has flag = d.has flag := by
  obtain ⟨modes, _, left, right⟩ := beside.modes
  rw [Context.has, Context.has, left, right, FlagSet.hasUnion, FlagSet.hasUnion, alike flag asked]

end Context.Beside

structure Pairing.Carried (P : Pairing) (source : Text) : Prop where
  asked : ∀ {c d}, P.contexts c d → ∀ flag ∈ [Flag.dotAll, .extended], c.has flag = d.has flag
  named : ∀ {c d}, P.contexts c d → ∀ name, P.contexts (c.push (some name)) (d.push (some name))
  modes : ∀ {c d}, P.contexts c d → ∀ {more : FlagSet}, (∀ flag, more.has flag → source.Leads flag) →
    P.contexts (c.setFlags more) (d.setFlags more)
  reference : ∀ {c d}, P.contexts c d → ∀ m, P.fragments (BuiltinRules.referenceText m c) (BuiltinRules.referenceText m d)
  opener : ∀ {c d}, P.contexts c d → ∀ m region s u,
    P.Answers (BuiltinRules.plainOpenerRule.handle m region c s).1 (BuiltinRules.plainOpenerRule.handle m region d u).1

namespace LocalRule
open BuiltinRules
variable {P : Pairing} {source : Text} {c d : Context}

theorem Bundled.takesPartAlike {l : LocalRule} (bundled : l.Bundled) (carried : P.Carried source) (contexts : P.contexts c d)
    (region : Region) : l.takesPart region c = l.takesPart region d := by
  have dots : c.has .dotAll = d.has .dotAll := carried.asked contexts _ (by simp)
  have blanks : c.has .extended = d.has .extended := carried.asked contexts _ (by simp)
  cases bundled with
  | unicode names => rfl
  | builtin mem =>
    revert l
    simp only [builtins, List.forall_mem_cons]
    exact ⟨rfl, rfl, congrArg (dotRule.regions.has region && ·) dots,
      congrArg (blankRule.regions.has region && ·) blanks, rfl, rfl, rfl, rfl, rfl, by simp⟩

theorem sameText (text : Text) (contexts : P.contexts c d) : P.Answers (.ok (text, c)) (.ok (text, d)) :=
  .write (P.copied text) contexts

theorem namedOpenerAlike (carried : P.Carried source) (contexts : P.contexts c d) (m : TokenMatch) (region : Region)
    (s u : Session) : P.Answers (namedOpenerRule.handle m region c s).1 (namedOpenerRule.handle m region d u).1 := by
  dsimp only [namedOpenerRule]
  split
  · exact .fail _
  · exact .write (P.copied _) (carried.named contexts _)

theorem unicodeAlike (contexts : P.contexts c d) (names : UnicodeNames) (m : TokenMatch) (region : Region) (s u : Session) :
    P.Answers (names.handle m region c s).1 (names.handle m region d u).1 := by
  unfold UnicodeNames.handle
  split
  · exact .fail _
  · cases names.find? ((m.group? 3).getD []) with
    | none => exact .fail _
    | some set => exact sameText _ contexts

theorem leadingModesAlike (carried : P.Carried source) (contexts : P.contexts c d) {before t : Text} (split : source = before ++ t)
    {groups : Groups} (seen : leadingModes (size before) t = some groups) (region : Region) (s u : Session) :
    P.Answers (leadingModesRule.handle (token source (size before) groups) region c s).1
      (leadingModesRule.handle (token source (size before) groups) region d u).1 := by
  obtain ⟨atStart, letters, rest, present, modes, rfl, rfl⟩ := leadingModesParts seen
  obtain rfl := Text.sizeZero.mp atStart
  have length : size letters = letters.length := Text.sizeOfAscii fun c mem => modeLetterSize (modes c mem)
  have name : (token source (size []) (BuiltinRules.token (letters.length + 3) [⟨2, 2 + letters.length⟩])).group? 1 =
      some letters := by
    rw [split, groupRead, ← length]
    exact congrArg some (Text.sliceOfParts ['(', '?'] letters (')' :: rest))
  dsimp only [leadingModesRule]
  rw [name, Option.getD_some]
  cases known : FlagSet.ofLetters letters with
  | error e => exact .fail e
  | ok more =>
    refine .write (P.copied _) (carried.modes contexts fun flag member => ⟨letters, rest, split, modes, ?_⟩)
    exact (FlagSet.lettersHas known flag).mp member

theorem Bundled.pairsCarried {l : LocalRule} (bundled : l.Bundled) (carried : P.Carried source) {before t : Text}
    (split : source = before ++ t) : l.Pairs P before before t where
  seen := by
    intro c d region contexts
    rw [sees?, sees?, bundled.takesPartAlike carried contexts]
  answers := by
    intro c d region groups contexts seen s u
    subst split
    obtain ⟨_, seen⟩ := seesParts seen
    cases bundled with
    | unicode names => exact unicodeAlike contexts names _ region s u
    | builtin mem =>
      simp only [builtins, List.mem_cons, List.not_mem_nil, or_false] at mem
      rcases mem with rfl | rfl | rfl | rfl | rfl | rfl | rfl | rfl | rfl
      · exact carried.opener contexts _ region s u
      · exact namedOpenerAlike carried contexts _ region s u
      · exact sameText _ contexts
      · exact sameText _ contexts
      · exact .write (carried.reference contexts _) contexts
      · exact leadingModesAlike carried contexts rfl seen region s u
      · exact sameText _ contexts
      · exact sameText _ contexts
      · exact .fail _

end LocalRule

theorem compilesCarried {P : Pairing} {source : Text} (carried : P.Carried source) {r : Registry} {locals : List LocalRule}
    (bundled : r.Bundled locals) {f g : FlagSet} (contexts : P.contexts (.start f) (.start g)) {s u : Session}
    (idle : s.inRules = false) (idle' : u.inRules = false) :
    P.Compilations (compile source f r s).1 (compile source g r u).1 :=
  compilesPair bundled.rules (fun split _ l mem => (bundled.known l mem).pairsCarried carried split) contexts idle idle'

theorem Context.Beside.carried {f g : FlagSet} (alike : f.RewritesAs g) (source : Text) :
    (Pairing.underFlags source f g).Carried source where
  asked beside flag mem := beside.has alike (List.mem_cons_of_mem _ mem)
  named beside name := beside.push (some name)
  modes beside _ leads := beside.setFlags leads
  reference := by
    intro c d beside m
    change BuiltinRules.referenceText m c = BuiltinRules.referenceText m d
    rw [BuiltinRules.referenceText, BuiltinRules.referenceText, Context.index?, Context.index?, beside.slots]
  opener := by
    intro c d beside m region s u
    dsimp only [BuiltinRules.plainOpenerRule]
    rw [beside.has alike (by simp : Flag.explicitCapture ∈ _)]
    split
    · exact .write rfl beside
    · exact .write rfl (beside.push none)

theorem compileBeside {r : Registry} {locals : List LocalRule} (bundled : r.Bundled locals) {f g : FlagSet}
    (alike : f.RewritesAs g) (source : Text) {s u : Session} (idle : s.inRules = false) (idle' : u.inRules = false) :
    (Pairing.underFlags source f g).Compilations (compile source f r s).1 (compile source g r u).1 :=
  compilesCarried (Context.Beside.carried alike source) bundled (Context.Beside.start source f g) idle idle'

def Compilation.SameText (result result' : Except Failure Compilation) : Prop :=
  (∃ e, result = .error e ∧ result' = .error e) ∨
  ∃ done done', result = .ok done ∧ result' = .ok done' ∧ done.native = done'.native ∧
    done.context.slots = done'.context.slots

theorem compileSameText {source : Text} {f g : FlagSet} {result result' : Except Failure Compilation}
    (compiled : (Pairing.underFlags source f g).Compilations result result') : Compilation.SameText result result' := by
  cases compiled with
  | fail e => exact .inl ⟨e, rfl, rfl⟩
  | done segments context => exact .inr ⟨_, _, rfl, rfl, Pairing.sameFragments id segments, context.slots⟩

namespace Pattern

theorem withRegistryOf (source : Text) (flags : FlagSet) (r : Registry) (s : Session) :
    (withRegistry source flags r s).1 = (compile source flags r s).1.bind fun done =>
      assemble source done.native done.context.flags done.context.names {} :=
  withRulesOf r.rules source flags {} s

theorem compiledIdle {source : Text} {flags : FlagSet} {r : Registry} {done : Compilation} {s t : Session}
    (compiled : compile source flags r s = (.ok done, t)) : s.inRules = false := by
  unfold compile rewrite at compiled
  split at compiled
  · cases compiled
  · rename_i idle
    simpa using idle

theorem withFlagsIdle {source letters : Text} {p : Pattern} {s t : Session}
    (built : withFlags source letters s = (.ok p, t)) : s.inRules = false := by
  obtain ⟨flags, done, _, compiled, _⟩ := withFlagsParts built
  exact compiledIdle compiled

theorem copySets {flags add remove modes : FlagSet} (kept : ∀ flag, remove.has flag → modes.has flag = false) :
    ((flags.union modes).union add).diff remove = ((flags.union add).diff remove).union modes := by
  refine FlagSet.sameMembers fun flag => ?_
  simp only [FlagSet.hasDiff, FlagSet.hasUnion]
  cases removed : remove.has flag with
  | false => simp [Bool.or_assoc, Bool.or_comm (add.has flag)]
  | true => simp [kept flag removed]

theorem assembleRest {source native : Text} {flags : FlagSet} {names : Option (List (Option Text))}
    {limits : Engine.Limits} {p : Pattern} (built : assemble source native flags names limits = .ok p) :
    p.source = source ∧ p.limits = limits ∧ p.cursor = 0 := by
  unfold assemble at built
  split at built
  · cases built
    exact ⟨rfl, rfl, rfl⟩
  · cases built

theorem copyAssembles {source letters : Text} {flags add remove : FlagSet} {p : Pattern} {s t u : Session}
    (known : FlagSet.ofLetters letters = .ok flags) (built : withFlags source letters s = (.ok p, t))
    (searching : ∀ flag, add.has flag ∨ remove.has flag → flag ∈ [Flag.global, .ignoreCase, .multiline, .sticky])
    (disjoint : ∀ flag, add.has flag → remove.has flag → False) (kept : ∀ flag, remove.has flag → ¬ source.Leads flag)
    (idle : u.inRules = false) :
    p.copyWith add remove = (withRegistry source ((flags.union add).diff remove) .global u).1 := by
  obtain ⟨flags', done, known', compiled, assembled⟩ := withFlagsParts built
  obtain rfl := Except.ok.inj (known.symm.trans known')
  obtain ⟨native, under, names, _⟩ := assembleParts assembled
  obtain ⟨written, limits, _⟩ := assembleRest assembled
  have apart : add.intersects remove = false := by
    rw [FlagSet.intersects, FlagSet.apart disjoint]
    rfl
  have alike : flags.RewritesAs ((flags.union add).diff remove) := by
    intro flag asked
    have rewriting : flag ∉ [Flag.global, .ignoreCase, .multiline, .sticky] := by
      intro search
      revert asked search
      cases flag <;> decide
    have notAdded : add.has flag = false := Bool.eq_false_iff.mpr fun member => rewriting (searching flag (.inl member))
    have notRemoved : remove.has flag = false := Bool.eq_false_iff.mpr fun member => rewriting (searching flag (.inr member))
    simp [notAdded, notRemoved]
  -- Search flags do not steer the rules, so both compilations write the same text and slots.
  have pair := compileBeside Registry.Standard.global.bundled alike source (withFlagsIdle built) idle
  rw [compiled] at pair
  rw [withRegistryOf, copyWith, if_neg (by simp [apart]), written, native, under, names, limits]
  generalize compile source _ _ u = result at pair ⊢
  obtain ⟨result, u'⟩ := result
  cases pair with
  | done segments context =>
    rename_i done'
    obtain ⟨modes, leads, left, right⟩ := context.modes
    have text : done.native = done'.native := Pairing.sameFragments id segments
    have slots : done.context.names = done'.context.names := by
      rw [Context.names, Context.names, Context.hasNamed, Context.hasNamed, context.slots]
    have sets : (done.context.flags.union add).diff remove = done'.context.flags := by
      rw [left, right]
      exact copySets fun flag member => Bool.eq_false_iff.mpr fun lead => kept flag member (leads flag lead)
    rw [text, slots, sets]
    rfl

end Pattern

/-- Copying is compiling again. A copy with search flags added and removed, none of those removed among the letters of a
leading modifier, is the pattern compiled under the flags changed in that way, at the start again, or fails as it
does; for flags steer the text, the slots and the failures of rewriting in three ways only. -/
theorem copyIsFresh {source letters : Text} {flags add remove : FlagSet} {p : Pattern} {s t u : Session}
    (known : FlagSet.ofLetters letters = .ok flags) (built : Pattern.withFlags source letters s = (.ok p, t))
    (searching : ∀ flag, add.has flag ∨ remove.has flag → flag ∈ [Flag.global, .ignoreCase, .multiline, .sticky])
    (disjoint : ∀ flag, add.has flag → remove.has flag → False) (kept : ∀ flag, remove.has flag → ¬ source.Leads flag)
    (idle : u.inRules = false) :
    (∀ cursor, (p.moveTo cursor).copyWith add remove =
      (Pattern.withRegistry source ((flags.union add).diff remove) .global u).1) ∧
    (∀ {q}, p.copyWith add remove = .ok q → q.source = source ∧ q.native = p.native ∧ q.names = p.names ∧
      q.flags = (p.flags.union add).diff remove ∧ q.cursor = 0) ∧
    (∀ {r locals}, Registry.Bundled r locals → ∀ {f g : FlagSet}, f.RewritesAs g → ∀ {s u : Session},
      s.inRules = false → u.inRules = false → Compilation.SameText (compile source f r s).1 (compile source g r u).1) := by
  refine ⟨fun cursor => ?_, ?_, ?_⟩
  · change p.copyWith add remove = _
    exact Pattern.copyAssembles known built searching disjoint kept idle
  · intro q copied
    obtain ⟨_, done, _, _, assembled⟩ := Pattern.withFlagsParts built
    obtain ⟨written, _, _⟩ := Pattern.assembleRest assembled
    unfold Pattern.copyWith at copied
    split at copied
    · cases copied
    · obtain ⟨native, under, names, _⟩ := Pattern.assembleParts copied
      obtain ⟨source, _, cursor⟩ := Pattern.assembleRest copied
      exact ⟨source.trans written, native, names, under, cursor⟩
  · intro r locals bundled f g alike s u idle idle'
    exact compileSameText (compileBeside bundled alike source idle idle')

theorem Text.leadsIff {letters rest : Text} (modes : ∀ c ∈ letters, BuiltinRules.isModeLetter c) (flag : Flag) :
    Text.Leads ('(' :: '?' :: (letters ++ ')' :: rest)) flag ↔ flag.letter ∈ letters := by
  constructor
  · rintro ⟨letters', rest', same, modes', mem⟩
    have behind : letters ++ ')' :: rest = letters' ++ ')' :: rest' := by simpa using same
    have front := congrArg (List.takeWhile BuiltinRules.isModeLetter) behind
    rw [Text.takeWhileEnds modes (by decide), Text.takeWhileEnds modes' (by decide)] at front
    rwa [front]
  · intro mem
    exact ⟨letters, rest, rfl, modes, mem⟩

theorem copyKeepsLeadingMode :
    let source := "(?i)(?<y>b)".toList
    ∃ (p q : Pattern) (t : Session), Pattern.withFlags source ['m'] {} = (.ok p, t) ∧
      (∀ flag, (FlagSet.single .multiline).has flag → ¬ Text.Leads source flag) ∧
      p.copyWith (.single .global) (.single .multiline) = .ok q ∧
      (Pattern.withRegistry source (.single .global) .global {}).1 = .ok q ∧
      q.flags = .ofList [.global, .ignoreCase] ∧ q.names = some [some ['y']] := by
  intro source
  let y : GroupName := ⟨['y'], by decide, by simp; decide⟩
  let e : Extended := .group (.named y ⟨'y', by decide, by decide⟩)
    (.atom (.literal ⟨'b', by decide, by decide⟩) none) none
  have modes : ∀ c ∈ ['i'], BuiltinRules.isModeLetter c := by simp [BuiltinRules.isModeLetter]
  have kept : ∀ flag, (FlagSet.single .multiline).has flag → ¬ Text.Leads source flag := by
    intro flag member lead
    have lead : Text.Leads ('(' :: '?' :: (['i'] ++ ')' :: e.print)) flag := lead
    have letter : flag.letter ∈ ['i'] := (Text.leadsIff modes flag).mp lead
    revert member letter
    cases flag <;> decide
  have writes : Scanning.Writes (.unicode Registry.global.names :: LocalRule.builtins) source [] source []
      ⟨.outside, .start (.single .multiline)⟩ ⟨.outside, ⟨[some ['y']], .ofList [.ignoreCase, .multiline]⟩⟩ "(b)".toList := by
    have present : ['i'] ≠ ([] : Text) := by decide
    exact Scanning.andThen (Scanning.ofLeadingModes .global Scanning.exceeds present modes rfl)
      (Scanning.ofExpression .global e (by decide))
  have idle : ({} : Session).inRules = false := rfl
  have short : source.length < 1000000 := by decide
  obtain ⟨done, t, compiled, native, context⟩ :=
    Scanning.compiled .global (Registry.Standard.global.shortSearches short) writes idle
  have built : ((Pattern.assemble source "(b)".toList (.ofList [.ignoreCase, .multiline]) (some [some ['y']]) {}).bind
      fun p => p.copyWith (.single .global) (.single .multiline)).toOption.isSome := by
    decide +kernel
  obtain ⟨q, copied⟩ := okOfSome built
  cases assembled : Pattern.assemble source "(b)".toList (.ofList [.ignoreCase, .multiline]) (some [some ['y']]) {} with
  | error e =>
    rw [assembled] at copied
    cases copied
  | ok p =>
    rw [assembled] at copied
    have copied : p.copyWith (.single .global) (.single .multiline) = .ok q := copied
    have compiles : Pattern.withFlags source ['m'] {} = (.ok p, t) :=
      Pattern.withFlagsOf rfl compiled (by rw [native, context]; exact assembled)
    have searching : ∀ flag, (FlagSet.single .global).has flag ∨ (FlagSet.single .multiline).has flag →
        flag ∈ [Flag.global, .ignoreCase, .multiline, .sticky] := by
      intro flag
      cases flag <;> decide
    have fresh := copyIsFresh rfl compiles searching (by intro flag; cases flag <;> decide) kept idle
    obtain ⟨_, _, names, flags, _⟩ := fresh.2.1 copied
    obtain ⟨_, under, named, _⟩ := Pattern.assembleParts assembled
    refine ⟨p, q, t, compiles, kept, copied, (fresh.1 0).symm.trans copied, ?_, ?_⟩
    · rw [flags, under]
      rfl
    · rw [names, named]

end ExtendedPattern
