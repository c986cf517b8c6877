import ExtendedPattern.Proofs.LeadingModes
import ExtendedPattern.Proofs.TokenPlaces

/-! Classes with anything in them. Inside a class only names of code points have tokens. An escape takes what
it takes before the next backslash and the next bracket, so the class ends at the first closing bracket that
stands behind no backslash, and there the scan is where it was in front of the class. -/
namespace ExtendedPattern
open Text (size)

inductive ClassBody : Text → Prop
  | nil : ClassBody []
  | plain {c : Char} {rest : Text} : c ≠ '\\' → c ≠ ']' → ClassBody rest → ClassBody (c :: rest)
  | pair {c : Char} {rest : Text} : (c = 'p' ∨ c = 'P' → rest.head? ≠ some '\x7b') → ClassBody rest →
      ClassBody ('\\' :: c :: rest)

namespace ClassBody
variable {b front rest w : Text} {c : Char}

theorem behindEscape (inner : ∀ d ∈ front, NativeToken.inEscape d) (body : ClassBody (front ++ rest)) : ClassBody rest := by
  induction front with
  | nil => exact body
  | cons d front ih =>
    obtain ⟨first, inner⟩ := List.forall_mem_cons.mp inner
    rw [List.cons_append] at body
    generalize front ++ rest = behind at body ih
    cases body with
    | plain _ _ body => exact ih inner body
    | pair _ _ => cases first

theorem escapeEnds (body : ClassBody rest) (c : Char) (w : Text) :
    ∃ front behind, rest = front ++ behind ∧ ClassBody behind ∧
      NativeToken.escapeLength? .inside (c :: (rest ++ ']' :: w)) = some (size ('\\' :: c :: front)) := by
  obtain ⟨n, known⟩ := NativeToken.everyEscape .inside c (rest ++ ']' :: w)
  obtain ⟨_, length, front, behind, split, inner, rfl⟩ := NativeToken.escapeBegins known
  have backslash : '\\'.utf8Size = 1 := rfl
  have taken : n = size ('\\' :: c :: front) := by simp only [length, size, backslash, Nat.add_assoc]
  rcases List.append_eq_append_iff.mp split with ⟨middle, rfl, same⟩ | ⟨middle, rfl, _⟩
  · cases middle with
    | nil => exact ⟨rest, [], (List.append_nil rest).symm, .nil, by rw [known, taken, List.append_nil]⟩
    | cons d middle =>
      obtain rfl : ']' = d := List.head_eq_of_cons_eq same
      have bracket := inner ']' (by simp)
      cases bracket
  · exact ⟨front, middle, rfl, behindEscape inner body, by rw [known, taken]⟩

theorem full (body : ClassBody b) (present : b ≠ []) (positive : b ≠ ['^']) (w : Text) :
    BuiltinRules.emptyClass ('[' :: (b ++ ([']'] ++ w))) = none := by
  unfold BuiltinRules.emptyClass
  split
  · rename_i same
    cases body with
    | nil => exact absurd rfl present
    | plain _ bracket _ => exact absurd (List.head_eq_of_cons_eq (List.tail_eq_of_cons_eq same)) bracket
    | pair _ _ => cases same
  · rename_i same
    cases body with
    | nil => exact absurd rfl present
    | pair _ _ => cases same
    | plain _ _ body =>
      cases body with
      | nil => simp_all
      | plain _ bracket _ => simp_all
      | pair _ _ => simp_all
  · rfl

end ClassBody

namespace Scanning
variable {limit : Prop} {r : Registry} {locals : List LocalRule} {input before rest b : Text} {context : Context}

theorem ofClassBody (standard : r.Standard locals) (body : ClassBody b) :
    WritesUnless limit locals input before b ([']'] ++ rest) ⟨.inside, context⟩ ⟨.inside, context⟩ b := by
  -- An escape may take several characters of the body, so what is behind it is shorter, not the next part.
  induction more : b.length using Nat.strong_induction_on generalizing before b with
  | _ n ih =>
    subst more
    cases body with
    | nil => exact nothing
    | @plain c behind backslash bracket body =>
      have stays : Rewrite.regionAfter .inside c = .inside := by
        unfold Rewrite.regionAfter
        split <;> simp_all
      have alone : NativeToken.length? .inside (c :: (behind ++ ([']'] ++ rest))) = none := by
        simp [NativeToken.length?, backslash]
      exact @andThen _ _ _ _ _ _ _ _ [c] _ _ _ (ofCharacter (inside standard.limited) (LocalRule.firstInside standard backslash) alone stays)
        (ih _ (Nat.lt_succ_self _) body rfl)
    | @pair c behind plain body =>
      obtain ⟨front, behind, rfl, body, length⟩ := body.escapeEnds c rest
      have unnamed : c = 'p' ∨ c = 'P' → (front ++ (behind ++ ([']'] ++ rest))).head? ≠ some '\x7b' := by
        intro named
        have start := plain named
        rw [← List.append_assoc]
        cases whole : front ++ behind with
        | nil => simp
        | cons d more => simpa [whole] using start
      obtain ⟨token, name⟩ := LocalRule.escapeUnnamed unnamed
      have escape : WritesUnless limit locals input before ('\\' :: c :: front) (behind ++ ([']'] ++ rest)) ⟨.inside, context⟩
          ⟨.inside, context⟩ ('\\' :: c :: front) := by
        apply ofNativeToken (inside standard.limited) (LocalRule.firstUnnamed standard token name)
        simpa [NativeToken.length?] using length
      exact andThen escape (ih _ (by simp; omega) body rfl)

end Scanning

section Class
variable {r : Registry} {locals : List LocalRule} {b w : Text} {flags : FlagSet}

theorem classCompiles (standard : r.Standard locals) (body : ClassBody b) (present : b ≠ []) (positive : b ≠ ['^'])
    (plain : ¬ w.LedByModes) {s : Session} (idle : s.inRules = false)
    (near : LocalRule.passedOver ('[' :: b ++ ']' :: w) < 1000000) :
    (compile ('[' :: b ++ ']' :: w) flags r s).1.map Compilation.result =
      ((compile w flags r s).1.map Compilation.result).map fun behind => ('[' :: b ++ ']' :: behind.1, behind.2) := by
  have spelled : '[' :: b ++ ']' :: w = '[' :: b ++ [']'] ++ w := by simp
  rw [spelled] at near ⊢
  have calm : Scanning.Stalls False locals ('[' :: b ++ [']'] ++ w) [] ('[' :: b ++ [']'] ++ w)
      ⟨.outside, .start flags⟩ := startsCalmly standard rfl (by decide) near
  have read : Scanning.WritesUnless False locals ('[' :: b ++ [']'] ++ w) [] ('[' :: b ++ [']']) w ⟨.outside, .start flags⟩
      ⟨.outside, .start flags⟩ ('[' :: b ++ [']']) :=
    Scanning.ofBrackets standard (by simpa using calm) (body.full present positive w) (Scanning.ofClassBody standard body)
  simpa using prefixCompiles standard (by simp) read plain idle

/-- A class stands in the native pattern as it is. It opens no group and does nothing to what is written behind it,
unless the first search for a plain group has to pass over too many characters. -/
theorem classStaysAsItIs (standard : r = .builtins ∨ r = .global) (body : ClassBody b) (present : b ≠ []) (positive : b ≠ ['^'])
    (plain : ¬ w.LedByModes) (flags : FlagSet) (s : Session) :
    (compile ('[' :: b ++ ']' :: w) flags r s).1.map Compilation.result =
      if s.inRules = false ∧ 1000000 ≤ LocalRule.passedOver ('[' :: b ++ ']' :: w) then .error .backtrackLimit
      else ((compile w flags r s).1.map Compilation.result).map fun behind => ('[' :: b ++ ']' :: behind.1, behind.2) := by
  obtain ⟨locals, standard⟩ := Registry.Standard.ofLibrary standard
  by_cases idle : s.inRules = false
  · by_cases far : 1000000 ≤ LocalRule.passedOver ('[' :: b ++ ']' :: w)
    · rw [if_pos ⟨idle, far⟩]
      exact congrArg (Except.map _) (standard.givesUpAtStart (UnicodeNames.tokenElsewhere (by decide)) far flags idle)
    · rw [if_neg fun both => far both.2]
      exact classCompiles standard body present positive plain idle (Nat.lt_of_not_le far)
  · rw [if_neg fun both => idle both.1]
    have busy : s.inRules = true := by simpa using idle
    simp [compile, rewrite, busy, Except.map]

theorem classHidesSyntax :
    (compile "[^ #(?#.(?<n>\\k<n>\\c\\][\\x41] (.)".toList ((FlagSet.single .extended).union (.single .dotAll)) .builtins {}).1.map
        Compilation.result =
      .ok ("[^ #(?#.(?<n>\\k<n>\\c\\][\\x41](?:)([\\s\\S])".toList, ⟨[none], (FlagSet.single .extended).union (.single .dotAll)⟩) := by
  have body : ClassBody "^ #(?#.(?<n>\\k<n>\\c\\][\\x41".toList := by
    repeat first | exact .nil | apply ClassBody.pair (by decide) | apply ClassBody.plain (by decide) (by decide)
  have plain : ¬ Text.LedByModes " (.)".toList := by
    rintro ⟨_, _, _, _, same⟩
    cases same
  have behind : (compile " (.)".toList ((FlagSet.single .extended).union (.single .dotAll)) .builtins {}).1.map Compilation.result =
      .ok ("(?:)([\\s\\S])".toList, ⟨[none], (FlagSet.single .extended).union (.single .dotAll)⟩) := by cbv
  refine (classStaysAsItIs (.inl rfl) body (List.cons_ne_nil _ _) (by decide) plain _ _).trans ?_
  have within : LocalRule.passedOver "[^ #(?#.(?<n>\\k<n>\\c\\][\\x41] (.)".toList ≤ 32 := TokenRule.gapAtMost _ _ 0
  rw [if_neg fun both => absurd (both.2.trans within) (by decide), behind]
  rfl

theorem classIsPassedOver :
    (compile ("[b]".toList ++ List.replicate 999998 'a') .empty .global {}).1 = .error .backtrackLimit ∧
      ∃ done, (compile (List.replicate 999998 'a') .empty .global {}).1 = .ok done := by
  refine ⟨?_, lettersCompile .global (by decide) .empty rfl⟩
  have passed (n : Nat) : LocalRule.passedOver ('[' :: ("b]".toList ++ List.replicate n 'a')) = n + 3 := by
    rw [LocalRule.passedWithout (by simp), List.length_cons, List.length_append, List.length_replicate]
    exact congrArg (· + 1) (Nat.add_comm 2 n)
  have far := (passed 999998).symm ▸ (by decide : 1000000 ≤ 999998 + 3)
  exact Registry.Standard.global.givesUpAtStart (UnicodeNames.tokenElsewhere (by decide)) far .empty rfl

end Class
end ExtendedPattern
