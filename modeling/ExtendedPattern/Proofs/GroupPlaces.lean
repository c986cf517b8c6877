import ExtendedPattern.Proofs.GroupReading
import ExtendedPattern.Proofs.QuantifiersInside

/-! Places of groups in a native text. Whatever the engine reads leaves it less text, so the places of the
groups that open along a reading get smaller. -/
namespace ExtendedPattern.Engine

section Escapes
variable {t u : Text}

theorem nameBehind {close : Char} {name : Text} (read : name? close t = some (name, u)) :
    t.drop (t.takeWhile isNameChar).length = close :: u := by
  unfold name? at read
  dsimp only at read
  split at read <;> try contradiction
  rename_i follows
  split at read <;> cases read
  rename_i closed
  rw [follows, closed.1]

theorem nameShrinks {close : Char} {name : Text} (read : name? close t = some (name, u)) : u.length ≤ t.length := by
  have dropped := congrArg List.length (nameBehind read)
  rw [List.length_drop, List.length_cons] at dropped
  omega

theorem decimalShrinks {n : Nat} (read : decimal? t = some (n, u)) : u.length ≤ t.length := by
  unfold decimal? at read
  dsimp only at read
  split at read <;> try contradiction
  split at read <;> cases read
  exact (List.drop_suffix _ _).length_le

theorem namedReferenceShrinks {e : Escape} (read : namedReference? t = some (e, u)) : u.length ≤ t.length := by
  unfold namedReference? at read
  split at read <;> try contradiction
  all_goals
    obtain ⟨⟨name, rest⟩, named, same⟩ := Option.map_eq_some_iff.mp read
    cases same
    exact Nat.le_succ_of_le (nameShrinks named)

theorem hexEscapeShrinks {digits : Nat} {e : Escape} (read : hexEscape? digits t = some (e, u)) : u.length ≤ t.length := by
  unfold hexEscape? at read
  dsimp only at read
  split at read
  · obtain ⟨_, _, same⟩ := Option.map_eq_some_iff.mp read
    cases same
    exact (List.drop_suffix _ _).length_le
  · split at read <;> try contradiction
    split at read <;> try contradiction
    rename_i follows
    split at read <;> try contradiction
    obtain ⟨_, _, same⟩ := Option.map_eq_some_iff.mp read
    cases same
    have dropped := congrArg List.length follows
    rw [List.length_drop, List.length_cons] at dropped
    rw [List.length_cons]
    omega

theorem choiceHolds {α : Type} {p : Prop} [Decidable p] {a b : Option α} {r : α} {goal : Prop} (one : a = some r → goal)
    (other : b = some r → goal) (read : (if p then a else b) = some r) : goal := by
  split at read
  · exact one read
  · exact other read

theorem escapeShrinks {inClass : Bool} {e : Escape} (read : escape? inClass t = some (e, u)) : u.length ≤ t.length := by
  cases t with
  | nil => contradiction
  | cons c rest =>
    have stays {e' : Escape} : some (e', rest) = some (e, u) → u.length ≤ (c :: rest).length := by
      rintro ⟨⟩
      exact Nat.le_succ _
    have hex {digits : Nat} (read : hexEscape? digits rest = some (e, u)) : u.length ≤ (c :: rest).length :=
      Nat.le_succ_of_le (hexEscapeShrinks read)
    simp only [escape?] at read
    refine choiceHolds (fun read => ?_) (choiceHolds (fun read => Nat.le_succ_of_le (namedReferenceShrinks read)) fun read => ?_) read
    · obtain ⟨⟨n, behind⟩, number, same⟩ := Option.map_eq_some_iff.mp read
      cases same
      exact decimalShrinks number
    split at read
    · exact stays read
    split at read
    · exact stays read
    refine choiceHolds stays (choiceHolds stays (choiceHolds hex (choiceHolds hex (choiceHolds hex
      (choiceHolds stays (choiceHolds stays fun read => ?_)))))) read
    split at read
    · exact stays read
    · exact choiceHolds (fun none => by contradiction) stays read

end Escapes

namespace ClassReader
variable {t u : Text}

theorem marksShrink {fuel depth : Nat} {ms : List Mark} (read : marks? fuel depth t = some (ms, u)) : u.length ≤ t.length := by
  induction fuel generalizing depth t ms with
  | zero => contradiction
  | succ fuel ih =>
    have behind (front : List Mark) {depth : Nat} {rest : Text} (shorter : rest.length ≤ t.length)
        (read : ((marks? fuel depth rest).map fun m => (front ++ m.1, m.2)) = some (ms, u)) : u.length ≤ t.length := by
      obtain ⟨⟨marks, behind⟩, inner, same⟩ := Option.map_eq_some_iff.mp read
      obtain rfl : behind = u := congrArg Prod.snd same
      exact Nat.le_trans (ih inner) shorter
    cases t with
    | nil => contradiction
    | cons c rest =>
      by_cases escaped : c = '\\'
      · subst escaped
        rw [marks?] at read
        split at read <;> try contradiction
        all_goals
          rename_i escape
          have shorter := Nat.le_succ_of_le (escapeShrinks escape)
        · exact behind [.char _] shorter read
        · exact behind [.set _] shorter read
        · exact behind _ shorter read
      · rw [marks?] at read
        · split at read
          · cases read
            exact Nat.le_succ _
          · exact behind [.raw c] (Nat.le_succ _) read
        all_goals exact escaped

theorem classShrinks {ignoreCase : Bool} {s : CharSet} {plain : List Char} (read : class? ignoreCase t = some (s, plain, u)) :
    u.length ≤ t.length := by
  simp only [class?, Option.bind_eq_bind, Option.bind_eq_some_iff] at read
  obtain ⟨⟨ms, rest⟩, opening, _, _, _, _, same⟩ := read
  cases same
  rw [openingParts, bodyMarks?] at opening
  obtain ⟨⟨inner, behind⟩, marks, same⟩ := Option.map_eq_some_iff.mp opening
  obtain rfl : behind = rest := congrArg Prod.snd same
  have negation : (negationMarks t).2.length ≤ t.length := by
    unfold negationMarks
    split
    · exact Nat.le_succ _
    · exact Nat.le_refl _
  have bracket (v : Text) : (bracketMarks v).2.length ≤ v.length := by
    unfold bracketMarks
    split
    · exact Nat.le_succ _
    · exact Nat.le_refl _
  exact Nat.le_trans (marksShrink marks) (Nat.le_trans (bracket _) negation)

end ClassReader

namespace Reader
variable {limit fuel : Nat} {t u : Text} {p q : Progress} {n m : Node}

theorem skipBlankShrinks {free : Bool} (skipped : skipBlank? free fuel t = some u) : u.length ≤ t.length := by
  induction fuel generalizing t with
  | zero =>
    cases skipped
    exact Nat.le_refl _
  | succ fuel ih =>
    cases skipStep skipped with
    | comment comment onward =>
      have shorter := Nat.le_trans (ih onward) (commentShrinks comment)
      simp only [List.length_cons]
      omega
    | line on onward => exact Nat.le_succ_of_le (Nat.le_trans (ih onward) (skipLineShrinks _))
    | blank on mark onward => exact Nat.le_succ_of_le (ih onward)
    | stops same => exact Nat.le_of_eq (congrArg List.length same)
    | ended same => exact Nat.le_of_eq (congrArg List.length same)

theorem skipShrinks (skipped : skip? p t = some u) : u.length ≤ t.length := skipBlankShrinks skipped

theorem lowBoundShrinks {low : Nat} (read : lowBound? t = some (low, u)) : u.length ≤ t.length := by
  unfold lowBound? at read
  split at read
  · cases read
    exact Nat.le_refl _
  · exact decimalShrinks read

theorem highBoundShrinks {low : Nat} {high : Option Nat} (read : highBound? p low t = some (high, u)) :
    u.length ≤ t.length := by
  unfold highBound? at read
  split at read <;> try contradiction
  · cases read
    exact Nat.le_refl _
  · obtain ⟨v, skipped, read⟩ := Option.bind_eq_some_iff.mp read
    have shorter := Nat.le_succ_of_le (skipShrinks skipped)
    split at read <;> cases read
    · rename_i number
      exact Nat.le_trans (decimalShrinks number) shorter
    · exact shorter

theorem closingShrinks {low n : Nat} {high m : Option Nat} (read : closing? p low high t = some (n, m, u)) :
    u.length ≤ t.length := by
  obtain ⟨v, skipped, read⟩ := Option.bind_eq_some_iff.mp read
  split at read <;> cases read
  exact Nat.le_of_succ_le (skipShrinks skipped)

theorem boundsShrinks {low : Nat} {high : Option Nat} (read : bounds? p t = some (low, high, u)) : u.length ≤ t.length := by
  simp only [boundsParts, Option.bind_eq_some_iff] at read
  obtain ⟨_, before, ⟨_, _⟩, low, _, between, ⟨_, _⟩, high, closing⟩ := read
  exact Nat.le_trans (closingShrinks closing) <| Nat.le_trans (highBoundShrinks high) <|
    Nat.le_trans (skipShrinks between) <| Nat.le_trans (lowBoundShrinks low) (skipShrinks before)

theorem quantifierShrinks {low : Nat} {high : Option Nat} (read : quantifier? p t = some (low, high, u)) :
    u.length ≤ t.length := by
  unfold quantifier? at read
  split at read
  · cases read; exact Nat.le_succ _
  · cases read; exact Nat.le_succ _
  · cases read; exact Nat.le_succ _
  · exact Nat.le_succ_of_le (boundsShrinks read)
  · contradiction

theorem quantifiedShrinks (read : quantified? p n t = some (m, u)) : u.length ≤ t.length := by
  rw [quantifiedParts] at read
  obtain ⟨v, skipped, read⟩ := Option.bind_eq_some_iff.mp read
  split at read
  · cases read
    exact skipShrinks skipped
  · rename_i low high w quantifier
    split at read <;> try contradiction
    obtain ⟨x, behind, same⟩ := Option.map_eq_some_iff.mp read
    have suffix : (lazy x).2.length ≤ x.length := by
      unfold lazy
      split
      · exact Nat.le_succ _
      · exact Nat.le_refl _
    have possessive (node : Node) (x : Text) : (possessed node x).2.length ≤ x.length := by
      unfold possessed
      split
      · exact Nat.le_succ _
      · exact Nat.le_refl _
    obtain rfl : (marked p low high n x).2 = u := congrArg Prod.snd same
    exact Nat.le_trans (possessive _ _) <| Nat.le_trans suffix <| Nat.le_trans (skipShrinks behind) <|
      Nat.le_trans (quantifierShrinks quantifier) (skipShrinks skipped)

theorem atomShrinks (read : atom? limit p t = some (n, q, u)) : u.length ≤ t.length := by
  cases t with
  | nil => contradiction
  | cons c t =>
    have stays {n' : Node} {q' : Progress} (same : some (n', q', t) = some (n, q, u)) : u.length ≤ (c :: t).length := by
      cases same
      exact Nat.le_succ _
    rw [atom?] at read
    refine choiceHolds stays (choiceHolds stays (choiceHolds stays (choiceHolds (fun none => by contradiction)
      (choiceHolds (fun read => ?_) (choiceHolds (fun read => ?_) stays))))) read
    · simp only [Option.bind_eq_bind, Option.bind_eq_some_iff] at read
      obtain ⟨⟨e, rest⟩, escape, _, _, same⟩ := read
      cases same
      exact Nat.le_succ_of_le (escapeShrinks escape)
    · simp only [Option.bind_eq_bind, Option.bind_eq_some_iff] at read
      obtain ⟨⟨s, plain, rest⟩, made, same⟩ := read
      cases same
      exact Nat.le_succ_of_le (ClassReader.classShrinks made)

theorem modesShrink {before : Modes} {letters : Nat} {negated : Bool} {o : Opened}
    (read : modes? before p letters negated fuel t = some (o, q, u)) : u.length ≤ t.length := by
  induction fuel generalizing p letters negated t with
  | zero => contradiction
  | succ fuel ih =>
    simp only [modes?, Option.bind_eq_bind, Option.bind_eq_some_iff] at read
    obtain ⟨v, skipped, read⟩ := read
    have shorter := skipShrinks skipped
    split at read
    · contradiction
    · split at read <;> cases read
      exact Nat.le_of_succ_le shorter
    · split at read <;> cases read
      exact Nat.le_of_succ_le shorter
    · split at read <;> try contradiction
      exact Nat.le_trans (ih read) (Nat.le_of_succ_le shorter)
    · obtain ⟨_, _, read⟩ := Option.bind_eq_some_iff.mp read
      exact Nat.le_trans (ih read) (Nat.le_of_succ_le shorter)

theorem openNamedShrinks {o : Opened} (read : openNamed? p t = some (o, q, u)) : u.length ≤ t.length := by
  simp only [openNamed?, Option.bind_eq_bind, Option.bind_eq_some_iff] at read
  obtain ⟨_, named, same⟩ := read
  cases same
  exact nameShrinks named

theorem openShrinks {o : Opened} (read : open? p t = some (o, q, u)) : u.length ≤ t.length := by
  simp only [open?, Option.bind_eq_bind, Option.bind_eq_some_iff] at read
  obtain ⟨v, skipped, read⟩ := read
  have shorter := skipShrinks skipped
  have behind (front : Text) {w : Text} (same : front ++ w = v) (less : u.length ≤ w.length) : u.length ≤ t.length := by
    rw [← same, List.length_append] at shorter
    omega
  split at read
  · cases read; exact behind ['?', '='] rfl (Nat.le_refl _)
  · cases read; exact behind ['?', '!'] rfl (Nat.le_refl _)
  · cases read; exact behind ['?', '<', '='] rfl (Nat.le_refl _)
  · cases read; exact behind ['?', '<', '!'] rfl (Nat.le_refl _)
  · exact behind ['?', '<'] rfl (openNamedShrinks read)
  · exact behind ['?', 'P', '<'] rfl (openNamedShrinks read)
  · simp only [Option.bind_eq_some_iff] at read
    obtain ⟨_, named, _, _, same⟩ := read
    cases same
    exact behind ['?', 'P', '='] rfl (nameShrinks named)
  · cases read; exact behind ['?', '>'] rfl (Nat.le_refl _)
  · contradiction
  · exact behind ['?'] rfl (modesShrink read)
  · cases read; exact shorter

theorem readsDescend {frame : Frame} {outer : List Frame} {opened : List (Nat × Nat)}
    (reads : Reads limit t p frame outer opened n q) :
    (opened.map Prod.snd).Pairwise (· > ·) ∧ ∀ x ∈ opened.map Prod.snd, x ≤ t.length := by
  have further {opened : List (Nat × Nat)} {u t : Text} (shorter : u.length ≤ t.length)
      (ih : (opened.map Prod.snd).Pairwise (· > ·) ∧ ∀ x ∈ opened.map Prod.snd, x ≤ u.length) :
      (opened.map Prod.snd).Pairwise (· > ·) ∧ ∀ x ∈ opened.map Prod.snd, x ≤ t.length :=
    ⟨ih.1, fun x mem => Nat.le_trans (ih.2 x mem) shorter⟩
  induction reads with
  | done => simp
  | bar blank _ ih => exact further (Nat.le_of_succ_le (skipShrinks blank)) ih
  | close blank _ quantified _ ih =>
    exact further (Nat.le_trans (quantifiedShrinks quantified) (Nat.le_of_succ_le (skipShrinks blank))) ih
  | @group t rest behind _ _ _ _ opening _ _ _ blank _ opens _ ih =>
    have shorter := skipShrinks blank
    have inner := openShrinks opens
    rw [List.length_cons] at shorter
    cases index : opening.index? with
    | none => exact further (by omega) ih
    | some k =>
      obtain ⟨descends, within⟩ := ih
      simp only [Option.map_some, Option.toList_some, List.singleton_append, List.map_cons, List.pairwise_cons,
        List.forall_mem_cons]
      refine ⟨⟨fun x mem => ?_, descends⟩, shorter, fun x mem => ?_⟩
      · have place := within x mem
        omega
      · have place := within x mem
        omega
  | settled blank _ opens quantified _ ih =>
    exact further (Nat.le_trans (quantifiedShrinks quantified) <| Nat.le_trans (openShrinks opens) <|
      Nat.le_of_succ_le (skipShrinks blank)) ih
  | atom blank _ reads quantified _ ih =>
    exact further (Nat.le_trans (quantifiedShrinks quantified) <| Nat.le_trans (atomShrinks reads) (skipShrinks blank)) ih

theorem Opens.descend {pattern : Text} {opened : List (Nat × Nat)} (opens : Opens pattern opened) :
    (opened.map Prod.snd).Pairwise (· > ·) := by
  obtain ⟨_, _, reads⟩ := opens
  exact (readsDescend reads).1

end Reader
end ExtendedPattern.Engine
