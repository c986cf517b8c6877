import ExtendedPattern.Proofs.Segments
import ExtendedPattern.Proofs.Vanishing

/-! A leading mode modifier stands for flags. Behind it the scan is where that of the rest begins under the
flags united with its letters. The rules then see the same tokens in both, but for one: a modifier counts
at the start of a pattern only, so the rest must not start with another. -/
namespace ExtendedPattern
open Text (size)

def Text.LedByModes (t : Text) : Prop :=
  ∃ letters rest, letters ≠ [] ∧ (∀ c ∈ letters, BuiltinRules.isModeLetter c) ∧ t = '(' :: '?' :: (letters ++ ')' :: rest)

namespace BuiltinRules

theorem modesLead {offset : Nat} {t : Text} {groups : Groups} (seen : leadingModes offset t = some groups) : t.LedByModes := by
  obtain ⟨_, letters, rest, present, modes, split, _⟩ := leadingModesParts seen
  exact ⟨letters, rest, present, modes, split⟩

theorem modesElsewhere {t : Text} (plain : ¬ t.LedByModes) (offset : Nat) : leadingModes offset t = none :=
  Option.eq_none_iff_forall_ne_some.mpr fun _ seen => plain (modesLead seen)

theorem modeFlag {c : Char} (letter : isModeLetter c) : ∃ f, Flag.ofLetter? c = some f := by
  simp only [isModeLetter, List.contains_iff_mem, List.mem_cons, List.not_mem_nil, or_false] at letter
  rcases letter with rfl | rfl | rfl | rfl | rfl <;> exact ⟨_, rfl⟩

end BuiltinRules

theorem FlagSet.modesKnown {letters : Text} (modes : ∀ c ∈ letters, BuiltinRules.isModeLetter c) (a : FlagSet) :
    ∃ more, letters.foldlM addLetter a = .ok more := by
  induction letters generalizing a with
  | nil => exact ⟨a, rfl⟩
  | cons c rest ih =>
    obtain ⟨mode, modes⟩ := List.forall_mem_cons.mp modes
    obtain ⟨f, letter⟩ := BuiltinRules.modeFlag mode
    obtain ⟨more, known⟩ := ih modes (a.union (single f))
    refine ⟨more, ?_⟩
    rw [List.foldlM_cons, addLetter, letter]
    exact known

namespace LocalRule
open BuiltinRules
variable {l : LocalRule} {t : Text}

theorem Bundled.recognizesPlain (bundled : l.Bundled) (plain : ¬ t.LedByModes) (offset offset' : Nat) :
    l.recognize offset t = l.recognize offset' t :=
  bundled.recognizesAlike (by rw [modesElsewhere plain, modesElsewhere plain])

end LocalRule

section Modifier
variable {r : Registry} {locals : List LocalRule} {front out letters p : Text} {flags more : FlagSet}

theorem prefixCompiles (standard : r.Standard locals) (present : front ≠ [])
    (read : Scanning.WritesUnless False locals (front ++ p) [] front p ⟨.outside, .start flags⟩ ⟨.outside, .start more⟩ out)
    (plain : ¬ p.LedByModes) {s : Session} (idle : s.inRules = false) :
    (compile (front ++ p) flags r s).1.map Compilation.result =
      ((compile p more r s).1.map Compilation.result).map fun behind => (out ++ behind.1, behind.2) := by
  rw [standard.compilesTo _ _ idle, standard.compilesTo _ _ idle]
  obtain ⟨q, t, goesOn, region, context, text, _⟩ := (read rfl { context := .start flags } s rfl rfl).resolve_right And.right
  have pairs : ∀ {middle u}, p = middle ++ u → u ≠ [] → ∀ l ∈ locals, l.Pairs .same (front ++ middle) ([] ++ middle) u := by
    intro middle u split _ l mem
    have bundled := standard.bundled.known l mem
    cases middle with
    | nil =>
      obtain rfl : p = u := split
      exact bundled.pairsAlike (bundled.recognizesPlain plain ..)
    | cons c middle =>
      refine bundled.pairs (iff_of_false ?_ ?_) u
      · simp [Text.sizeZero, present]
      · simp [Text.sizeZero]
  let begun : Uncached.Progress := { context := .start more }
  have ends := @Uncached.scansPair .same locals front [] q begun _ _ p rfl (List.nil_append p).symm pairs region context _ _
    ((Nat.sub_self _).trans (Nat.sub_self _).symm) t s
  obtain ⟨behind, left, right⟩ := Uncached.endsAlike ends
  have written : Scanning.written q = out := text
  rw [written] at left
  refine (congrArg (·.1.map Uncached.Progress.result) goesOn).trans (left.trans ?_)
  refine .trans ?_ (congrArg (Except.map fun behind => (out ++ behind.1, behind.2)) right).symm
  cases behind <;> rfl

theorem startsCalmly (standard : r.Standard locals) {t : Text} {c : Char} {tail : Text} (start : t = c :: tail) (sign : c ≠ '\\')
    (near : LocalRule.passedOver t < 1000000) : Scanning.Stalls False locals t [] t ⟨.outside, .start flags⟩ := by
  subst start
  intro _ gives
  rw [standard.givesUp _ _ _ (UnicodeNames.tokenElsewhere sign), LocalRule.groupGivesUp, decide_eq_true_eq] at gives
  omega

theorem modifierCompiles (standard : r.Standard locals) (present : letters ≠ [])
    (modes : ∀ c ∈ letters, BuiltinRules.isModeLetter c) (known : FlagSet.ofLetters letters = .ok more)
    (plain : ¬ p.LedByModes) {s : Session} (idle : s.inRules = false)
    (near : LocalRule.passedOver ('(' :: '?' :: (letters ++ ')' :: p)) < 1000000) :
    (compile ('(' :: '?' :: (letters ++ ')' :: p)) flags r s).1.map Compilation.result =
      (compile p (flags.union more) r s).1.map Compilation.result := by
  have spelled : '(' :: '?' :: (letters ++ ')' :: p) = '(' :: '?' :: (letters ++ [')']) ++ p := by simp
  rw [spelled] at near ⊢
  have read : Scanning.WritesUnless False locals ('(' :: '?' :: (letters ++ [')']) ++ p) [] ('(' :: '?' :: (letters ++ [')'])) p
      ⟨.outside, .start flags⟩ ⟨.outside, .start (flags.union more)⟩ [] :=
    Scanning.ofLeadingModes standard (startsCalmly standard rfl (by decide) near) present modes known
  rw [prefixCompiles standard (List.cons_ne_nil _ _) read plain idle]
  cases (compile p (flags.union more) r s).1 <;> rfl

/-- Mode letters in front of a pattern that starts with none do what the same letters do as flags, unless the
first search for a plain group has to pass over too many characters. -/
theorem modifierActsAsFlags (standard : r = .builtins ∨ r = .global) (present : letters ≠ [])
    (modes : ∀ c ∈ letters, BuiltinRules.isModeLetter c) (plain : ¬ p.LedByModes) (flags : FlagSet) (s : Session) :
    ∃ more, FlagSet.ofLetters letters = .ok more ∧
      (compile ('(' :: '?' :: (letters ++ ')' :: p)) flags r s).1.map Compilation.result =
        if s.inRules = false ∧ 1000000 ≤ LocalRule.passedOver ('(' :: '?' :: (letters ++ ')' :: p)) then .error .backtrackLimit
        else (compile p (flags.union more) r s).1.map Compilation.result := by
  obtain ⟨more, known⟩ : ∃ more, FlagSet.ofLetters letters = .ok more := FlagSet.modesKnown modes .empty
  obtain ⟨locals, standard⟩ := Registry.Standard.ofLibrary standard
  refine ⟨more, known, ?_⟩
  by_cases idle : s.inRules = false
  · by_cases far : 1000000 ≤ LocalRule.passedOver ('(' :: '?' :: (letters ++ ')' :: p))
    · rw [if_pos ⟨idle, far⟩, standard.givesUpAtStart (UnicodeNames.tokenElsewhere (by decide)) far flags idle]
      rfl
    · rw [if_neg fun both => far both.2]
      exact modifierCompiles standard present modes known plain idle (Nat.lt_of_not_le far)
  · rw [if_neg fun both => idle both.1]
    have busy : s.inRules = true := by simpa using idle
    simp [compile, rewrite, busy]

theorem freeSpacingModifierActsAsFlag :
    ∃ more, FlagSet.ofLetters ['x', 'n'] = .ok more ∧
      (compile "(?xn)( a )#".toList (.single .dotAll) .global {}).1.map Compilation.result =
        (compile "( a )#".toList ((FlagSet.single .dotAll).union more) .global {}).1.map Compilation.result := by
  have plain : ¬ Text.LedByModes "( a )#".toList := by
    rintro ⟨letters, rest, _, _, same⟩
    cases same
  obtain ⟨more, known, same⟩ := modifierActsAsFlags (.inr rfl) (List.cons_ne_nil 'x' ['n']) (by simp [BuiltinRules.isModeLetter])
    plain (.single .dotAll) {}
  refine ⟨more, known, same.trans (if_neg ?_)⟩
  have within : LocalRule.passedOver "(?xn)( a )#".toList ≤ 11 := TokenRule.gapAtMost _ _ 0
  exact fun both => absurd (both.2.trans within) (by decide)

theorem modifierIsPassedOver :
    (compile ("(?i)".toList ++ List.replicate 999998 'a') .empty .global {}).1 = .error .backtrackLimit ∧
      ∃ done, (compile (List.replicate 999998 'a') (.single .ignoreCase) .global {}).1 = .ok done := by
  refine ⟨?_, lettersCompile .global (by decide) (.single .ignoreCase) rfl⟩
  have passed (n : Nat) : LocalRule.passedOver ('(' :: ("?i)".toList ++ List.replicate n 'a')) = n + 4 := by
    rw [LocalRule.passedBehind rfl, LocalRule.passedWithout (by simp), List.length_append, List.length_replicate]
    exact congrArg (· + 1) (Nat.add_comm 3 n)
  have far := (passed 999998).symm ▸ (by decide : 1000000 ≤ 999998 + 4)
  exact Registry.Standard.global.givesUpAtStart (UnicodeNames.tokenElsewhere (by decide)) far .empty rfl

end Modifier
end ExtendedPattern
