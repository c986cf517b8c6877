import ExtendedPattern.Proofs.GroupPlaces
import ExtendedPattern.Proofs.Translation

/-! How the engine reads the leaves and the quantifiers of an expression. Each is taken up to its end, whatever
stands behind it; only bounds that are no machine words are left, as characters of their own. -/
namespace ExtendedPattern.Engine
open NativeToken (isDigit isLetter)

section Escapes
variable {t u : Text}

theorem escapableTakes (e : Escapable) {inClass : Bool} {x : Escape} (read : escape? inClass (e.char :: t) = some (x, u)) :
    u = t := by
  obtain ⟨c, allowed⟩ := e
  have stays {x' : Escape} (same : some (x', t) = some (x, u)) : u = t := by
    cases same
    rfl
  rcases allowed with ⟨noDigit, noLetter⟩ | letter
  · have other {d : Char} (letter : isLetter d) : c ≠ d := by
      rintro rfl
      rw [letter] at noLetter
      cases noLetter
    have noDecimal : isDecimal c = false := noDigit
    have mark : ((c = 'k' || c = 'g') && !inClass) = false := by
      simp [other (by decide : isLetter 'k'), other (by decide : isLetter 'g')]
    simp only [escape?, noDecimal, mark, Bool.false_eq_true, if_false] at read
    split at read
    · exact stays read
    split at read
    · exact stays read
    rw [if_neg (other (by decide)), if_neg (other (by decide)), if_neg (other (by decide)), if_neg (other (by decide)),
      if_neg (other (by decide))] at read
    refine choiceHolds stays (choiceHolds stays fun read => ?_) read
    split at read
    · exact stays read
    · exact choiceHolds (fun none => by contradiction) stays read
  · simp only [escapableLetters, List.mem_cons, List.not_mem_nil, or_false] at letter
    rcases letter with rfl | rfl | rfl | rfl | rfl | rfl | rfl | rfl <;> cases inClass <;> exact stays read

theorem decimalTakes {digits : Text} (decimal : ∀ d ∈ digits, isDigit d) (apart : ∀ c ∈ t.head?, isDigit c = false) {n : Nat}
    (read : decimal? (digits ++ t) = some (n, u)) :
    u = t ∧ n = digits.foldl (fun n c => 10 * n + (c.toNat - '0'.toNat)) 0 := by
  have decimal : ∀ d ∈ digits, isDecimal d := decimal
  have run : (digits ++ t).takeWhile isDecimal = digits := by
    rw [List.takeWhile_append_of_pos decimal]
    cases t with
    | nil => simp
    | cons c t =>
      have stops : isDecimal c = false := apart c rfl
      rw [List.takeWhile_cons_of_neg (by simp [stops]), List.append_nil]
  unfold decimal? at read
  dsimp only at read
  rw [run] at read
  split at read <;> try contradiction
  split at read <;> cases read
  exact ⟨List.drop_left, rfl⟩

theorem nameTakes {name word : Text} {close : Char} (other : isNameChar close = false) (open_ : close ∉ name)
    (read : name? close (name ++ close :: t) = some (word, u)) : u = t := by
  have follows := nameBehind read
  clear read
  induction name with
  | nil =>
    rw [List.nil_append, List.takeWhile_cons_of_neg (by simp [other])] at follows
    exact (List.cons.inj follows).2.symm
  | cons d name ih =>
    rw [List.mem_cons, not_or] at open_
    by_cases named : isNameChar d
    · rw [List.cons_append, List.takeWhile_cons_of_pos named] at follows
      exact ih open_.2 follows
    · rw [List.cons_append, List.takeWhile_cons_of_neg named] at follows
      exact absurd (List.cons.inj follows).1.symm open_.1

end Escapes

namespace ClassReader
variable {t u : Text}

theorem membersTake {fuel : Nat} {members : List Member} {ms : List Mark}
    (read : marks? fuel 0 (members.flatMap text ++ ']' :: t) = some (ms, u)) : u = t := by
  induction members generalizing fuel ms with
  | nil =>
    cases fuel with
    | zero => contradiction
    | succ fuel =>
      rw [List.flatMap_nil, List.nil_append, marks?, if_pos ⟨rfl, rfl⟩] at read
      · cases read
        rfl
      all_goals decide
  | cons m members ih =>
    have behind {fuel : Nat} (front : List Mark)
        (read : ((marks? fuel 0 (members.flatMap text ++ ']' :: t)).map fun m => (front ++ m.1, m.2)) = some (ms, u)) :
        u = t := by
      obtain ⟨⟨marks, rest⟩, inner, same⟩ := Option.map_eq_some_iff.mp read
      obtain rfl : rest = u := congrArg Prod.snd same
      exact ih inner
    cases fuel with
    | zero => contradiction
    | succ fuel =>
      cases m with
      | plain c ordinary =>
        have spelled : (Member.plain c ordinary :: members).flatMap text ++ ']' :: t = c :: (members.flatMap text ++ ']' :: t) := rfl
        obtain ⟨opening, closing, backslash⟩ := ordinary
        rw [spelled, marks?, if_neg fun close => closing close.1] at read
        · simp only [if_neg opening, if_neg closing] at read
          exact behind [.raw c] read
        all_goals exact backslash
      | escaped e =>
        have spelled : (Member.escaped e :: members).flatMap text ++ ']' :: t =
            '\\' :: e.char :: (members.flatMap text ++ ']' :: t) := rfl
        rw [spelled, marks?] at read
        split at read <;> try contradiction
        all_goals
          rename_i escape
          rw [escapableTakes e escape] at read
        · exact behind [.char _] read
        · exact behind [.set _] read
        · exact behind _ read

theorem memberOpens (m : Member) (t : Text) : bracketMarks (text m ++ t) = ([], text m ++ t) := by
  cases m with
  | plain c ordinary => exact bracketOrdinary ordinary.2.1 t
  | escaped e => exact bracketOrdinary (by decide) (e.char :: t)

theorem flatClassTakes (c : FlatClass) {ignoreCase : Bool} {s : CharSet} {plain : List Char}
    (read : class? ignoreCase (c.body ++ ']' :: t) = some (s, plain, u)) : u = t := by
  simp only [class?, Option.bind_eq_bind, Option.bind_eq_some_iff] at read
  obtain ⟨⟨ms, rest⟩, opening, _, _, _, _, same⟩ := read
  cases same
  obtain ⟨negated, first, others, distinct⟩ := c
  have inner : (negationMarks (FlatClass.body ⟨negated, first, others, distinct⟩ ++ ']' :: t)).2 =
      (first :: others).flatMap text ++ ']' :: t := by
    cases negated with
    | true => rfl
    | false =>
      cases first with
      | escaped e => rfl
      | plain d ordinary =>
        have caret : d ≠ '^' := by simpa [text] using distinct rfl
        exact congrArg Prod.snd (negationOrdinary caret _)
  rw [openingParts, inner, bodyMarks?, List.flatMap_cons, List.append_assoc, memberOpens] at opening
  obtain ⟨⟨marks, behind⟩, read, same⟩ := Option.map_eq_some_iff.mp opening
  obtain rfl : behind = rest := congrArg Prod.snd same
  rw [← List.append_assoc, ← List.flatMap_cons] at read
  exact membersTake read

end ClassReader
end ExtendedPattern.Engine

namespace ExtendedPattern

def Numeral.Positive (n : Numeral) : Prop := ∃ d ∈ n.digits, d ≠ '0'

def Bounds.Positive : Bounds → Prop
  | .exactly n => n.Positive
  | .between _ high => high.Positive
  | _ => True

namespace Engine
open NativeToken (isDigit)

theorem valuePositive {digits : Text} (decimal : ∀ d ∈ digits, isDigit d) {k : Nat} (positive : 0 < k ∨ ∃ d ∈ digits, d ≠ '0') :
    0 < digits.foldl (fun n c => 10 * n + (c.toNat - '0'.toNat)) k := by
  induction digits generalizing k with
  | nil => simpa using positive
  | cons c digits ih =>
    obtain ⟨digit, others⟩ := List.forall_mem_cons.mp decimal
    refine ih others ?_
    dsimp only
    rcases positive with positive | ⟨d, mem, nonzero⟩
    · exact .inl (by omega)
    · rcases List.mem_cons.mp mem with rfl | mem
      · have least : '0'.toNat < d.toNat := by
          simp only [isDigit, Bool.and_eq_true, decide_eq_true_eq] at digit
          have low : '0'.toNat ≤ d.toNat := digit.1
          exact Nat.lt_of_le_of_ne low fun same => nonzero (Char.toNat_inj.mp same.symm)
        exact .inl (by omega)
      · exact .inr ⟨d, mem, nonzero⟩

theorem numeralReads (n : Numeral) {c : Char} (stop : isDigit c = false) (t : Text) : decimal? (n.digits ++ c :: t) = none ∨
    ∃ v, decimal? (n.digits ++ c :: t) = some (v, c :: t) ∧ (n.Positive → v ≠ 0) := by
  cases read : decimal? (n.digits ++ c :: t) with
  | none => exact .inl rfl
  | some found =>
    obtain ⟨v, u⟩ := found
    obtain ⟨rfl, value⟩ := decimalTakes n.decimal (by simpa using stop) read
    refine .inr ⟨v, rfl, fun positive => ?_⟩
    rw [value]
    exact Nat.pos_iff_ne_zero.mp (valuePositive n.decimal (.inr positive))

namespace Reader
variable {p : Progress} {t u rest : Text} {n m : Node}

/-- What may stand behind a part of an expression: no quantifier, and no comment. -/
structure Settled (t : Text) : Prop where
  unquantified : ∀ c ∈ t.head?, c ∉ ['?', '*', '+', '{']
  uncommented : ¬ ['(', '?', '#'] <+: t

theorem Settled.sign {c : Char} (other : c ∉ ['?', '*', '+', '{', '(']) (t : Text) : Settled (c :: t) := by
  simp only [List.mem_cons, List.not_mem_nil, or_false, not_or] at other
  refine ⟨by simp [other], ?_⟩
  rintro ⟨more, same⟩
  exact other.2.2.2.2 (List.cons.inj same).1.symm

theorem skipsSolid (solid : p.modes.freeSpacing = false) (uncommented : ¬ ['(', '?', '#'] <+: t) : skip? p t = some t := by
  cases t with
  | nil => rfl
  | cons c t =>
    refine plainStands (fun more opens behind => uncommented ⟨more, ?_⟩) (fun on => ?_) _
    · rw [opens, behind]
      rfl
    · rw [solid] at on
      cases on

theorem skipsOther (solid : p.modes.freeSpacing = false) {c : Char} (other : c ≠ '(') (t : Text) :
    skip? p (c :: t) = some (c :: t) := by
  refine skipsSolid solid ?_
  rintro ⟨more, same⟩
  exact other (List.cons.inj same).1.symm

theorem Settled.unmarked (settled : Settled t) (solid : p.modes.freeSpacing = false) (n : Node) :
    quantified? p n t = some (n, t) := by
  have none : quantifier? p t = none := by
    have signs := settled.unquantified
    unfold quantifier?
    split <;> simp_all
  rw [quantifiedParts, skipsSolid solid settled.uncommented, Option.bind_some, none]

inductive BoundsRead (p : Progress) (b : Bounds) (t : Text) : Prop where
  | taken {low : Nat} {high : Option Nat} (read : quantifier? p (text b ++ t) = some (low, high, t))
      (positive : b.Positive → high ≠ some 0)
  | left (body : Text) (spelled : text b = '{' :: (body ++ ['}'])) (plain : ∀ c ∈ body, c = ',' ∨ isDigit c)
      (none : quantifier? p (text b ++ t) = none)

theorem numeralStarts (n : Numeral) : ∃ d digits, n.digits = d :: digits ∧ isDigit d := by
  obtain ⟨d, digits, same⟩ := List.exists_cons_of_ne_nil n.nonempty
  exact ⟨d, digits, same, n.decimal d (same ▸ List.mem_cons_self)⟩

theorem digitOther {c d : Char} (digit : isDigit c) (other : isDigit d = false) : c ≠ d := by
  rintro rfl
  rw [digit] at other
  cases other

theorem skipsNumeral (solid : p.modes.freeSpacing = false) (n : Numeral) (t : Text) :
    skip? p (n.digits ++ t) = some (n.digits ++ t) := by
  obtain ⟨d, digits, same, digit⟩ := numeralStarts n
  rw [same]
  exact skipsOther solid (digitOther digit (by decide)) _

theorem lowNumeral (n : Numeral) (t : Text) : lowBound? (n.digits ++ t) = decimal? (n.digits ++ t) := by
  obtain ⟨d, digits, same, digit⟩ := numeralStarts n
  unfold lowBound?
  split
  · rename_i follows
    rw [same] at follows
    exact absurd (List.cons.inj follows).1 (digitOther digit (by decide))
  · rfl

theorem closesBounds (solid : p.modes.freeSpacing = false) (low : Nat) (high : Option Nat) (t : Text) :
    closing? p low high ('}' :: t) = some (low, high, t) := by
  rw [closing?, skipsOther solid (by decide)]
  rfl

theorem boundsFrom (solid : p.modes.freeSpacing = false) (n : Numeral) {c : Char} (stop : isDigit c = false) (other : c ≠ '(')
    (t : Text) : bounds? p (n.digits ++ c :: t) = none ∨ ∃ v, (n.Positive → v ≠ 0) ∧ bounds? p (n.digits ++ c :: t) =
      (highBound? p v (c :: t)).bind fun (high, t) => closing? p v high t := by
  rw [boundsParts, skipsNumeral solid, Option.bind_some, lowNumeral]
  rcases numeralReads n stop t with refused | ⟨v, read, positive⟩
  · exact .inl (by rw [refused, Option.bind_none])
  · refine .inr ⟨v, positive, ?_⟩
    rw [read, Option.bind_some]
    dsimp only
    rw [skipsOther solid other, Option.bind_some]

theorem boundsRead (solid : p.modes.freeSpacing = false) (b : Bounds) (t : Text) : BoundsRead p b t := by
  cases b with
  | star => exact .taken rfl fun _ => by simp
  | plus => exact .taken rfl fun _ => by simp
  | option => exact .taken rfl fun _ => by simp
  | exactly n =>
    have parts : quantifier? p (text (Bounds.exactly n) ++ t) = bounds? p (n.digits ++ '}' :: t) := by
      simp [text, quantifier?]
    rcases boundsFrom solid n (by decide : isDigit '}' = false) (by decide) t with refused | ⟨v, positive, bounds⟩
    · exact .left n.digits rfl (fun c mem => .inr (n.decimal c mem)) (parts.trans refused)
    · have high : highBound? p v ('}' :: t) = some (some v, '}' :: t) := rfl
      rw [high] at bounds
      exact .taken (parts.trans (bounds.trans (closesBounds solid v (some v) t))) fun occurs => by simpa using positive occurs
  | atLeast n =>
    have parts : quantifier? p (text (Bounds.atLeast n) ++ t) = bounds? p (n.digits ++ ',' :: '}' :: t) := by
      simp [text, quantifier?]
    have body : text (Bounds.atLeast n) = '{' :: (n.digits ++ [','] ++ ['}']) := by simp [text]
    rcases boundsFrom solid n (by decide : isDigit ',' = false) (by decide) ('}' :: t) with refused | ⟨v, _, bounds⟩
    · refine .left _ body (fun c mem => ?_) (parts.trans refused)
      rcases List.mem_append.mp mem with digit | comma
      · exact .inr (n.decimal c digit)
      · exact .inl (List.mem_singleton.mp comma)
    · have high : highBound? p v (',' :: '}' :: t) = some (none, '}' :: t) := by
        simp [highBound?, skipsOther solid, decimal?, isDecimal]
      rw [high] at bounds
      exact .taken (parts.trans (bounds.trans (closesBounds solid v none t))) fun _ => by simp
  | between low high =>
    have parts : quantifier? p (text (Bounds.between low high) ++ t) =
        bounds? p (low.digits ++ ',' :: (high.digits ++ '}' :: t)) := by
      simp [text, quantifier?]
    have body : text (Bounds.between low high) = '{' :: (low.digits ++ ',' :: high.digits ++ ['}']) := by simp [text]
    have plain : ∀ c ∈ low.digits ++ ',' :: high.digits, c = ',' ∨ isDigit c := by
      intro c mem
      rcases List.mem_append.mp mem with digit | mem
      · exact .inr (low.decimal c digit)
      · exact (List.mem_cons.mp mem).imp_right (high.decimal c)
    rcases boundsFrom solid low (by decide : isDigit ',' = false) (by decide) (high.digits ++ '}' :: t) with
      refused | ⟨v, _, bounds⟩
    · exact .left _ body plain (parts.trans refused)
    · rcases numeralReads high (by decide : isDigit '}' = false) t with refused | ⟨w, read, positive⟩
      · have behind : highBound? p v (',' :: (high.digits ++ '}' :: t)) = some (none, high.digits ++ '}' :: t) := by
          simp only [highBound?, skipsNumeral solid, Option.bind_eq_bind, Option.bind_some, refused]
        rw [behind, Option.bind_some] at bounds
        refine .left _ body plain (parts.trans (bounds.trans ?_))
        obtain ⟨d, digits, same, digit⟩ := numeralStarts high
        dsimp only
        rw [closing?, skipsNumeral solid, same]
        simp only [Option.bind_eq_bind, Option.bind_some, List.cons_append]
        split
        · rename_i follows
          exact absurd (List.cons.inj follows).1 (digitOther digit (by decide))
        · rfl
      · have behind : highBound? p v (',' :: (high.digits ++ '}' :: t)) = some (some w, '}' :: t) := by
          simp only [highBound?, skipsNumeral solid, Option.bind_eq_bind, Option.bind_some, read]
        rw [behind, Option.bind_some] at bounds
        exact .taken (parts.trans (bounds.trans (closesBounds solid v (some w) t))) fun occurs => by simpa using positive occurs

theorem lazyTakes (settled : Settled rest) (reluctant : Bool) :
    lazy (NativeToken.reluctance reluctant ++ rest) = (!reluctant, rest) := by
  cases reluctant with
  | true => rfl
  | false =>
    have signs := settled.unquantified
    change lazy rest = _
    unfold lazy
    split <;> simp_all

theorem possessedTakes (settled : Settled rest) (node : Node) : possessed node rest = (node, rest) := by
  have signs := settled.unquantified
  unfold possessed
  split <;> simp_all

theorem quantifiedTakes (solid : p.modes.freeSpacing = false) (q : Quantifier) (settled : Settled rest)
    (read : quantified? p n (text q ++ rest) = some (m, u)) :
    (u = rest ∧ ∃ low high greedy, m = .repeated low high greedy n ∧ (q.bounds.Positive → high ≠ some 0)) ∨
    (m = n ∧ u = text q ++ rest ∧ ∃ body, text q.bounds = '{' :: (body ++ ['}']) ∧ ∀ c ∈ body, c = ',' ∨ isDigit c) := by
  have parts : text q ++ rest = text q.bounds ++ (NativeToken.reluctance q.reluctant ++ rest) := List.append_assoc ..
  have uncommented : ¬ ['(', '?', '#'] <+: text q.bounds ++ (NativeToken.reluctance q.reluctant ++ rest) := by
    cases q.bounds <;> simp [text]
  have behind : skip? p (NativeToken.reluctance q.reluctant ++ rest) = some (NativeToken.reluctance q.reluctant ++ rest) := by
    cases q.reluctant with
    | true => exact skipsOther solid (by decide) rest
    | false => exact skipsSolid solid settled.uncommented
  rw [parts, quantifiedParts, skipsSolid solid uncommented, Option.bind_some] at read
  rw [parts]
  cases boundsRead solid q.bounds (NativeToken.reluctance q.reluctant ++ rest) with
  | taken bounds positive =>
    rw [bounds] at read
    dsimp only at read
    split at read <;> try contradiction
    rw [behind, Option.map_some, marked, lazyTakes settled, possessedTakes settled] at read
    cases read
    exact .inl ⟨rfl, _, _, _, rfl, positive⟩
  | left body spelled plain none =>
    rw [none] at read
    cases read
    exact .inr ⟨rfl, rfl, body, spelled, plain⟩

end Reader
end Engine
end ExtendedPattern
