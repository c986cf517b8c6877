import ExtendedPattern.Engine.Reader
import ExtendedPattern.Proofs.EscapesInside

/-! Reading inside a group: what is skipped, and quantifiers. Trees that differ in the numbers of groups only are
quantified alike, and a brace that begins no bounds begins none inside a group either. -/
namespace ExtendedPattern.Engine

namespace Node

mutual

def unnumbered : Node → Node
  | .seq items => .seq (unnumberedAll items)
  | .alt branches => .alt (unnumberedAll branches)
  | .group _ body => .group 0 (unnumbered body)
  | .repeated low high greedy body => .repeated low high greedy (unnumbered body)
  | .look ahead negative body => .look ahead negative (unnumbered body)
  | .atomic body => .atomic (unnumbered body)
  | .backref _ => .backref 0
  | n => n

def unnumberedAll : List Node → List Node
  | [] => []
  | n :: rest => unnumbered n :: unnumberedAll rest

end

theorem unnumberedMap (items : List Node) : unnumberedAll items = items.map unnumbered := by
  induction items with
  | nil => rfl
  | cons n rest ih => rw [unnumberedAll, ih, List.map_cons]

theorem unnumberedEmpty (n : Node) : n.unnumbered.isEmpty = n.isEmpty := by cases n <;> rfl

theorem unnumberedRepeatable (n : Node) : n.unnumbered.isRepeatable = n.isRepeatable := by cases n <;> rfl

theorem unnumberedItems (items : List Node) : (ofItems items).unnumbered = ofItems (items.map unnumbered) := by
  match items with
  | [] => rfl
  | [n] => rfl
  | n :: m :: rest => simp [ofItems, unnumbered, unnumberedMap]

def Alike (n m : Node) : Prop := n.unnumbered = m.unnumbered

theorem Alike.isEmpty {n m : Node} (alike : n.Alike m) : n.isEmpty = m.isEmpty := by
  rw [← unnumberedEmpty, alike, unnumberedEmpty]

theorem Alike.isRepeatable {n m : Node} (alike : n.Alike m) : n.isRepeatable = m.isRepeatable := by
  rw [← unnumberedRepeatable, alike, unnumberedRepeatable]

end Node

variable {t u x : Text}

namespace Reader

theorem commentInside (skipped : skipComment? t = some u) : skipComment? (t ++ x) = some (u ++ x) := by
  induction t using skipComment?.induct with
  | case1 => contradiction
  | case2 rest =>
    cases skipped
    rfl
  | case3 d rest ih =>
    rw [skipComment?] at skipped
    exact ih skipped
  | case4 c rest noClose noEscape ih =>
    rw [skipComment?] at skipped
    · cases rest with
      | nil => contradiction
      | cons d rest =>
        have plain : c ≠ '\\' := fun same => noEscape d rest same rfl
        rw [List.cons_append, skipComment?]
        · exact ih skipped
        · exact noClose
        · exact fun d rest same _ => plain same
    · exact noClose
    · exact noEscape

theorem fenceStays (fence : Fence x) (free : Bool) (fuel : Nat) : skipBlank? free fuel x = some x := by
  cases fuel with
  | zero => rfl
  | succ fuel => cases fence <;> simp [skipBlank?]

theorem commentShrinks (skipped : skipComment? t = some u) : u.length ≤ t.length := by
  induction t using skipComment?.induct with
  | case1 => contradiction
  | case2 rest =>
    cases skipped
    simp
  | case3 d rest ih =>
    rw [skipComment?] at skipped
    have shorter := ih skipped
    simp only [List.length_cons]
    omega
  | case4 c rest noClose noEscape ih =>
    rw [skipComment?] at skipped
    · have shorter := ih skipped
      simp only [List.length_cons]
      omega
    · exact noClose
    · exact noEscape

theorem skipLineShrinks (t : Text) : (skipLine t).length ≤ t.length := by
  have within := (List.dropWhile_suffix (l := t) (· != '\n')).length_le
  rw [skipLine, List.length_drop]
  omega

theorem skipLineInside (solid : skipLine t ≠ []) (x : Text) : skipLine (t ++ x) = skipLine t ++ x := by
  unfold skipLine at solid ⊢
  rw [List.dropWhile_append]
  cases follows : t.dropWhile (· != '\n') with
  | nil => simp [follows] at solid
  | cons c rest => simp

theorem plainStands {free : Bool} {c : Char} {rest : Text} (noComment : ∀ more, c = '(' → rest = '?' :: '#' :: more → False)
    (plain : free → c ∉ ['#', ' ', '\r', '\n', '\t']) (fuel : Nat) : skipBlank? free fuel (c :: rest) = some (c :: rest) := by
  cases fuel with
  | zero => rfl
  | succ fuel =>
    have still : ¬ (free && [' ', '\r', '\n', '\t'].contains c) := by
      rw [Bool.and_eq_true, List.contains_iff_mem]
      exact fun blank => plain blank.1 (List.mem_cons_of_mem _ blank.2)
    unfold skipBlank?
    split
    · rename_i same
      exact (noComment _ (List.cons.inj same).1 (List.cons.inj same).2).elim
    · rename_i same
      cases same
      exact if_neg fun on => plain on List.mem_cons_self
    · rename_i same
      cases same
      exact if_neg still
    · contradiction

inductive SkipStep (free : Bool) (fuel : Nat) (u : Text) : Text → Prop where
  | comment {rest behind : Text} (comment : skipComment? rest = some behind) (onward : skipBlank? free fuel behind = some u) :
      SkipStep free fuel u ('(' :: '?' :: '#' :: rest)
  | line {rest : Text} (on : free) (onward : skipBlank? free fuel (skipLine rest) = some u) : SkipStep free fuel u ('#' :: rest)
  | blank {c : Char} {rest : Text} (on : free) (mark : [' ', '\r', '\n', '\t'].contains c)
      (onward : skipBlank? free fuel rest = some u) : SkipStep free fuel u (c :: rest)
  | stops {c : Char} {rest : Text} (same : u = c :: rest) (noComment : ∀ more, c = '(' → rest = '?' :: '#' :: more → False)
      (plain : free → c ∉ ['#', ' ', '\r', '\n', '\t']) : SkipStep free fuel u (c :: rest)
  | ended (same : u = []) : SkipStep free fuel u []

theorem skipStep {free : Bool} {fuel : Nat} (skipped : skipBlank? free (fuel + 1) t = some u) : SkipStep free fuel u t := by
  unfold skipBlank? at skipped
  split at skipped
  · obtain ⟨behind, comment, onward⟩ := Option.bind_eq_some_iff.mp skipped
    exact .comment comment onward
  · split at skipped
    · exact .line ‹_› skipped
    · cases skipped
      exact .stops rfl (fun more same => by cases same) fun on => absurd on ‹_›
  · rename_i c rest noComment noLine
    split at skipped
    · rename_i blank
      rw [Bool.and_eq_true] at blank
      exact .blank blank.1 blank.2 skipped
    · rename_i solid
      cases skipped
      refine .stops rfl noComment fun on mem => ?_
      rcases List.mem_cons.mp mem with sign | blank
      · exact noLine sign
      · exact solid (Bool.and_eq_true_iff.mpr ⟨on, List.contains_iff_mem.mpr blank⟩)
  · cases skipped
    exact .ended rfl

theorem skipBlankInside {free : Bool} {fuel more : Nat} (skipped : skipBlank? free fuel t = some u) (fence : Fence x)
    (solid : u ≠ [] ∨ free = false) (enough : t.length ≤ fuel) (again : t.length ≤ more) :
    skipBlank? free more (t ++ x) = some (u ++ x) := by
  have stays := fenceStays fence free
  induction fuel generalizing t more with
  | zero =>
    obtain rfl := List.eq_nil_of_length_eq_zero (Nat.le_zero.mp enough)
    cases skipped
    exact stays more
  | succ fuel ih =>
    have onward {rest : Text} (present : 0 < t.length) (shorter : rest.length < t.length)
        (skipped : skipBlank? free fuel rest = some u) :
        ∃ k, more = k + 1 ∧ skipBlank? free k (rest ++ x) = some (u ++ x) := by
      obtain ⟨k, rfl⟩ := Nat.exists_eq_add_of_le' (Nat.le_trans present again)
      exact ⟨k, rfl, ih skipped (by omega) (by omega)⟩
    cases skipStep skipped with
    | @comment rest behind comment goesOn =>
      have shorter := commentShrinks comment
      obtain ⟨k, rfl, skips⟩ := onward (by simp) (by simp only [List.length_cons]; omega) goesOn
      simp only [List.cons_append, skipBlank?, commentInside comment, Option.bind_some]
      exact skips
    | @line rest on goesOn =>
      have shorter := skipLineShrinks rest
      have open_ : skipLine rest ≠ [] := by
        intro none
        rw [none] at goesOn
        cases fuel <;> cases goesOn <;> simp [on] at solid
      obtain ⟨k, rfl, skips⟩ := onward (by simp) (by simp only [List.length_cons]; omega) goesOn
      simp only [List.cons_append, skipBlank?, if_pos on, skipLineInside open_]
      exact skips
    | @blank c rest on mark goesOn =>
      obtain ⟨k, rfl, skips⟩ := onward (by simp) (by simp) goesOn
      rw [List.cons_append, skipBlank?]
      · rw [if_pos (Bool.and_eq_true_iff.mpr ⟨on, mark⟩), skips]
      · rintro _ rfl
        contradiction
      · rintro rfl
        contradiction
    | @stops c rest same noComment plain =>
      subst same
      exact plainStands (fun behind opens => fence.noComment (fun more => noComment more opens) behind) plain more
    | ended same =>
      subst same
      exact stays more

theorem skipBlankStops {free : Bool} {fuel : Nat} (skipped : skipBlank? free fuel t = some u) (enough : t.length ≤ fuel)
    (more : Nat) : skipBlank? free more u = some u := by
  have nothing (more : Nat) : skipBlank? free more [] = some [] := by cases more <;> rfl
  induction fuel generalizing t with
  | zero =>
    obtain rfl := List.eq_nil_of_length_eq_zero (Nat.le_zero.mp enough)
    cases skipped
    exact nothing more
  | succ fuel ih =>
    cases skipStep skipped with
    | comment comment goesOn =>
      have shorter := commentShrinks comment
      simp only [List.length_cons] at enough
      exact ih goesOn (by omega)
    | @line rest on goesOn =>
      have shorter := skipLineShrinks rest
      simp only [List.length_cons] at enough
      exact ih goesOn (by omega)
    | blank on mark goesOn => exact ih goesOn (Nat.le_of_succ_le_succ enough)
    | stops same noComment plain =>
      subst same
      exact plainStands noComment plain more
    | ended same =>
      subst same
      exact nothing more

variable {p p' : Progress}

theorem skipAgain (skipped : skip? p t = some u) : skip? p u = some u :=
  skipBlankStops skipped (Nat.le_refl _) _

theorem skipInside (skipped : skip? p t = some u) (fence : Fence x) (same : p'.modes = p.modes)
    (solid : u ≠ [] ∨ p.modes.freeSpacing = false) : skip? p' (t ++ x) = some (u ++ x) := by
  rw [skip?, same]
  exact skipBlankInside skipped fence solid (Nat.le_refl _) (by simp)

def isLoose (c : Char) : Bool := c == '{' || c == ',' || isDecimal c

inductive Loose (p : Progress) : Text → Prop where
  | unclosed {t : Text} (skipped : skip? p t = none) : Loose p t
  | ended {t : Text} (skipped : skip? p t = some []) (free : p.modes.freeSpacing) : Loose p t
  | goesOn {t : Text} {c rest} (skipped : skip? p t = some (c :: rest)) (loose : isLoose c) (behind : Loose p rest) : Loose p t

theorem looseSkips {c : Char} (loose : isLoose c) (rest : Text) : skip? p (c :: rest) = some (c :: rest) := by
  have apart : c ≠ '(' ∧ c ≠ '#' ∧ c ≠ ' ' ∧ c ≠ '\r' ∧ c ≠ '\n' ∧ c ≠ '\t' := by
    refine ⟨?_, ?_, ?_, ?_, ?_, ?_⟩ <;> rintro rfl <;> contradiction
  simp [skip?, skipBlank?, apart]

namespace Loose

theorem front {c : Char} {rest : Text} (mark : isLoose c) : Loose p (c :: rest) ↔ Loose p rest := by
  have still := looseSkips (p := p) mark rest
  refine ⟨fun loose => ?_, .goesOn still mark⟩
  cases loose with
  | unclosed skipped => cases still.symm.trans skipped
  | ended skipped => cases still.symm.trans skipped
  | goesOn skipped _ behind =>
    cases still.symm.trans skipped
    exact behind

theorem digits {front : Text} (decimal : ∀ d ∈ front, isDecimal d) (rest : Text) : Loose p
    (front ++ rest) ↔ Loose p rest := by
  induction front with
  | nil => exact Iff.rfl
  | cons d more ih =>
    obtain ⟨first, others⟩ := List.forall_mem_cons.mp decimal
    rw [List.cons_append, Loose.front (by simp [isLoose, first]), ih others]

theorem number {n : Nat} (read : decimal? t = some (n, u)) : Loose p t ↔ Loose p u := by
  unfold decimal? at read
  dsimp only at read
  split at read <;> try contradiction
  split at read <;> cases read
  have parts := Loose.digits (p := p) (List.all_eq_true.mp (List.all_takeWhile (p := isDecimal) (l := t)))
    (t.drop (t.takeWhile isDecimal).length)
  rwa [List.prefix_iff_eq_append.mp (List.takeWhile_prefix isDecimal)] at parts

theorem skip (skipped : skip? p t = some u) : Loose p t ↔ Loose p u := by
  have again := skipAgain skipped
  constructor
  · intro loose
    cases loose with
    | unclosed none => cases skipped.symm.trans none
    | ended none free =>
      cases skipped.symm.trans none
      exact .ended again free
    | goesOn next mark behind =>
      cases skipped.symm.trans next
      exact .goesOn again mark behind
  · intro loose
    cases loose with
    | unclosed none => cases again.symm.trans none
    | ended none free =>
      cases again.symm.trans none
      exact .ended skipped free
    | goesOn next mark behind =>
      cases again.symm.trans next
      exact .goesOn skipped mark behind

end Loose

def lowBound? (t : Text) : Option (Nat × Text) :=
  match t with
  | ',' :: _ => some (0, t)
  | _ => decimal? t

def highBound? (p : Progress) (low : Nat) (t : Text) : Option (Option Nat × Text) :=
  match t with
  | '}' :: _ => some (some low, t)
  | ',' :: rest => do
    let t ← skip? p rest
    match decimal? t with
    | some (high, t) => some (some high, t)
    | none => some (none, t)
  | _ => none

def closing? (p : Progress) (low : Nat) (high : Option Nat) (t : Text) : Option (Nat × Option Nat × Text) := do
  match ← skip? p t with
  | '}' :: rest => some (low, high, rest)
  | _ => none

theorem boundsBehind (p : Progress) (low : Nat) (t : Text) : (do
    let t ← skip? p t
    let (high, t) ← match t with
      | '}' :: _ => some (some low, t)
      | ',' :: rest => do
        let t ← skip? p rest
        match decimal? t with
        | some (high, t) => some (some high, t)
        | none => some (none, t)
      | _ => none
    let t ← skip? p t
    match t with
    | '}' :: rest => some (low, high, rest)
    | _ => none) = (skip? p t).bind fun t => (highBound? p low t).bind fun (high, t) => closing? p low high t := by
  cases skip? p t with
  | none => rfl
  | some t =>
    simp only [Option.bind_eq_bind, Option.bind_some]
    unfold highBound?
    split
    · rfl
    · rename_i rest
      simp only [Option.bind_eq_bind]
      cases skip? p rest with
      | none => rfl
      | some t =>
        simp only [Option.bind_some]
        cases decimal? t <;> rfl
    · rfl

theorem boundsParts (p : Progress) (t : Text) : bounds? p t = (skip? p t).bind fun t => (lowBound? t).bind fun (low, t) =>
    (skip? p t).bind fun t => (highBound? p low t).bind fun (high, t) => closing? p low high t := by
  unfold bounds?
  cases skip? p t with
  | none => rfl
  | some t =>
    simp only [Option.bind_eq_bind, Option.bind_some]
    split
    · exact boundsBehind p 0 _
    · rename_i plain
      have low : lowBound? t = decimal? t := by
        unfold lowBound?
        split
        · exact absurd rfl (plain _)
        · rfl
      rw [low]
      cases decimal? t with
      | none => rfl
      | some read => exact boundsBehind p read.1 read.2

theorem skipOrLoose (p : Progress) (t : Text) (fence : Fence x) (same : p'.modes = p.modes) :
    Loose p t ∨ ∃ u, skip? p t = some u ∧ skip? p' (t ++ x) = some (u ++ x) := by
  cases skipped : skip? p t with
  | none => exact .inl (.unclosed skipped)
  | some u =>
    cases free : p.modes.freeSpacing with
    | false => exact .inr ⟨u, rfl, skipInside skipped fence same (.inr free)⟩
    | true =>
      cases u with
      | nil => exact .inl (.ended skipped free)
      | cons c rest => exact .inr ⟨_, rfl, skipInside skipped fence same (.inl (List.cons_ne_nil _ _))⟩

theorem lowBoundInside (fence : Fence x) (t : Text) :
    lowBound? (t ++ x) = (lowBound? t).map fun (low, rest) => (low, rest ++ x) := by
  cases t with
  | nil =>
    have read := decimalInside fence []
    cases fence <;> exact read
  | cons c t =>
    by_cases comma : c = ','
    · subst comma
      rfl
    · have read := decimalInside fence (c :: t)
      rw [List.cons_append] at read ⊢
      unfold lowBound?
      split
      · rename_i same
        exact absurd (List.cons.inj same).1 comma
      · split
        · rename_i same
          exact absurd (List.cons.inj same).1 comma
        · exact read

theorem Loose.low {low : Nat} (read : lowBound? t = some (low, u)) : Loose p t ↔ Loose p u := by
  unfold lowBound? at read
  split at read
  · cases read
    exact Iff.rfl
  · exact Loose.number read

theorem highBoundInside (fence : Fence x) (same : p'.modes = p.modes) (low : Nat) (t : Text) :
    Loose p t ∨ highBound? p' low (t ++ x) = (highBound? p low t).map fun (high, rest) => (high, rest ++ x) := by
  cases t with
  | nil => exact .inr (by cases fence <;> rfl)
  | cons c t =>
    by_cases brace : c = '}'
    · subst brace
      exact .inr rfl
    by_cases comma : c = ','
    · subst comma
      rcases skipOrLoose p t fence same with loose | ⟨u, skipped, inside⟩
      · exact .inl ((Loose.front (by decide)).mpr loose)
      · refine .inr ?_
        simp only [List.cons_append, highBound?, Option.bind_eq_bind, skipped, inside, Option.bind_some,
          decimalInside fence]
        cases decimal? u <;> rfl
    · refine .inr ?_
      rw [List.cons_append]
      unfold highBound?
      split <;> simp_all

theorem Loose.high {low : Nat} {high : Option Nat} (read : highBound? p low t = some (high, u)) :
    Loose p t ↔ Loose p u := by
  unfold highBound? at read
  split at read
  · cases read
    exact Iff.rfl
  · simp only [Option.bind_eq_bind, Option.bind_eq_some_iff] at read
    obtain ⟨v, skipped, read⟩ := read
    rw [Loose.front (by decide), Loose.skip skipped]
    split at read
    · rename_i number
      cases read
      exact Loose.number number
    · cases read
      exact Iff.rfl
  · contradiction

theorem closingInside (fence : Fence x) (same : p'.modes = p.modes) (low : Nat) (high : Option Nat) (t : Text) :
    Loose p t ∨ closing? p' low high (t ++ x) = (closing? p low high t).map fun (low, high, rest) => (low, high, rest ++ x) := by
  rcases skipOrLoose p t fence same with loose | ⟨u, skipped, inside⟩
  · exact .inl loose
  · refine .inr ?_
    simp only [closing?, Option.bind_eq_bind, skipped, inside, Option.bind_some]
    cases u with
    | nil => cases fence <;> rfl
    | cons c u =>
      rw [List.cons_append]
      by_cases brace : c = '}'
      · subst brace
        rfl
      · split <;> simp_all

theorem Loose.closes (loose : Loose p t) (low : Nat) (high : Option Nat) : closing? p low high t = none := by
  cases loose with
  | unclosed skipped => simp [closing?, skipped]
  | ended skipped free => simp [closing?, skipped]
  | @goesOn _ c rest skipped mark behind =>
    have other : c ≠ '}' := by
      rintro rfl
      contradiction
    simp only [closing?, Option.bind_eq_bind, skipped, Option.bind_some]
    split
    · rename_i same
      exact absurd (List.cons.inj same).1 other
    · rfl

theorem Loose.bounds (loose : Loose p t) : bounds? p t = none := by
  refine Option.eq_none_iff_forall_ne_some.mpr fun read made => ?_
  simp only [boundsParts, Option.bind_eq_some_iff] at made
  obtain ⟨u, skipped, ⟨low, v⟩, lows, w, again, ⟨high, y⟩, highs, closes⟩ := made
  have open_ := (Loose.high highs).mp ((Loose.skip again).mp ((Loose.low lows).mp ((Loose.skip skipped).mp loose)))
  cases (open_.closes low high).symm.trans closes

theorem boundsInside (fence : Fence x) (same : p'.modes = p.modes) (t : Text) :
    Loose p t ∨ bounds? p' (t ++ x) = (bounds? p t).map fun (low, high, rest) => (low, high, rest ++ x) := by
  rw [boundsParts, boundsParts]
  rcases skipOrLoose p t fence same with loose | ⟨u, skipped, inside⟩
  · exact .inl loose
  rw [Loose.skip skipped, skipped, inside]
  simp only [Option.bind_some, lowBoundInside fence]
  cases lows : lowBound? u with
  | none => exact .inr rfl
  | some read =>
    obtain ⟨low, u⟩ := read
    rw [Loose.low lows]
    simp only [Option.map_some, Option.bind_some]
    rcases skipOrLoose p u fence same with loose | ⟨v, skipped, inside⟩
    · exact .inl loose
    rw [Loose.skip skipped, skipped, inside]
    simp only [Option.bind_some]
    rcases highBoundInside fence same low v with loose | inside
    · exact .inl loose
    rw [inside]
    cases highs : highBound? p low v with
    | none => exact .inr rfl
    | some read =>
      obtain ⟨high, v⟩ := read
      rw [Loose.high highs]
      exact closingInside fence same low high v

theorem quantifierInside (fence : Fence x) (same : p'.modes = p.modes) (t : Text) :
    Loose p t ∨ quantifier? p' (t ++ x) = (quantifier? p t).map fun (low, high, rest) => (low, high, rest ++ x) := by
  cases t with
  | nil => exact .inr (by cases fence <;> rfl)
  | cons c t =>
    by_cases brace : c = '{'
    · subst brace
      exact (boundsInside fence same t).imp (Loose.front (by decide)).mpr id
    · refine .inr ?_
      rw [List.cons_append]
      unfold quantifier?
      split <;> simp_all

theorem Loose.starts (loose : Loose p t) (skipped : skip? p t = some u) :
    quantifier? p u = none ∧ ∀ c rest, u = c :: rest → c ≠ '?' ∧ c ≠ '+' := by
  rw [Loose.skip skipped] at loose
  have still := skipAgain skipped
  cases loose with
  | unclosed none => cases still.symm.trans none
  | ended none free =>
    cases still.symm.trans none
    simp [quantifier?]
  | @goesOn _ c rest next mark behind =>
    cases still.symm.trans next
    have others : c ≠ '?' ∧ c ≠ '+' ∧ c ≠ '*' := by
      refine ⟨?_, ?_, ?_⟩ <;> rintro rfl <;> contradiction
    refine ⟨?_, ?_⟩
    · unfold quantifier?
      split <;> simp_all [Loose.bounds]
    · rintro d rest' same
      cases same
      exact ⟨others.1, others.2.1⟩

def possessed (node : Node) : Text → Node × Text
  | '+' :: rest => (.atomic node, rest)
  | t => (node, t)

def lazy : Text → Bool × Text
  | '?' :: rest => (false, rest)
  | t => (true, t)

def marked (p : Progress) (low : Nat) (high : Option Nat) (n : Node) (t : Text) : Node × Text :=
  possessed (.repeated low high ((lazy t).1 != p.modes.swapGreed) n) (lazy t).2

theorem quantifiedParts (p : Progress) (n : Node) (t : Text) : quantified? p n t = (skip? p t).bind fun t =>
    match quantifier? p t with
    | none => some (n, t)
    | some (low, high, t) =>
      if n.isRepeatable then (skip? p t).map (marked p low high n) else none := by
  unfold quantified?
  cases skip? p t with
  | none => rfl
  | some t =>
    simp only [Option.bind_eq_bind, Option.bind_some]
    cases quantifier? p t with
    | none => rfl
    | some read =>
      have ends (front : Bool × Text) (node : Node) : (match front.2 with
          | '+' :: rest => some (Node.atomic node, rest)
          | t => some (node, t)) = some (possessed node front.2) := by
        unfold possessed
        split <;> rfl
      obtain ⟨low, high, t⟩ := read
      dsimp only
      split
      · cases skip? p t with
        | none => rfl
        | some t => exact ends (lazy t) _
      · rfl

theorem markedInside (fence : Fence x) (same : p'.modes = p.modes) {n n' : Node} (alike : n.Alike n') (low : Nat)
    (high : Option Nat) (t : Text) :
    (marked p low high n t).1.Alike (marked p' low high n' (t ++ x)).1 ∧
      (marked p' low high n' (t ++ x)).2 = (marked p low high n t).2 ++ x := by
  have greed : lazy (t ++ x) = ((lazy t).1, (lazy t).2 ++ x) := by
    cases t with
    | nil => cases fence <;> rfl
    | cons c t =>
      rw [List.cons_append]
      unfold lazy
      split <;> simp_all
  have ends {node node' : Node} (alike : node.Alike node') (t : Text) :
      (possessed node t).1.Alike (possessed node' (t ++ x)).1 ∧ (possessed node' (t ++ x)).2 = (possessed node t).2 ++ x := by
    cases t with
    | nil =>
      cases fence <;> exact ⟨alike, rfl⟩
    | cons c t =>
      rw [List.cons_append]
      unfold possessed
      split <;> simp_all [Node.Alike, Node.unnumbered]
  unfold marked
  rw [greed, same]
  refine ends ?_ _
  simp only [Node.Alike, Node.unnumbered]
  rw [alike]

theorem Loose.unmarked (loose : Loose p t) (skipped : skip? p t = some u) (low : Nat) (high : Option Nat) (n : Node) :
    (marked p low high n u).2 = u := by
  have starts := (loose.starts skipped).2
  cases u with
  | nil => rfl
  | cons c u =>
    obtain ⟨noLazy, noPlus⟩ := starts c u rfl
    have greedy : lazy (c :: u) = (true, c :: u) := by
      unfold lazy
      split <;> simp_all
    rw [marked, greedy]
    unfold possessed
    split <;> simp_all

theorem quantifiedInside {n n' m : Node} (read : quantified? p n t = some (m, u)) (fence : Fence x)
    (same : p'.modes = p.modes) (alike : n.Alike n') :
    Loose p u ∨ ∃ m', quantified? p' n' (t ++ x) = some (m', u ++ x) ∧ m.Alike m' := by
  rw [quantifiedParts] at read ⊢
  obtain ⟨v, skipped, read⟩ := Option.bind_eq_some_iff.mp read
  -- Wherever blanks are skipped the text may be loose from there on, and then no more of a quantifier is read.
  rcases skipOrLoose p t fence same with loose | ⟨w, again, inside⟩
  · rw [(loose.starts skipped).1] at read
    cases read
    exact .inl ((Loose.skip skipped).mp loose)
  cases skipped.symm.trans again
  rw [inside, Option.bind_some]
  rcases quantifierInside fence same v with loose | quantifier
  · rw [(loose.starts (skipAgain skipped)).1] at read
    cases read
    exact .inl loose
  rw [quantifier]
  cases bounds : quantifier? p v with
  | none =>
    rw [bounds] at read
    cases read
    exact .inr ⟨n', rfl, alike⟩
  | some found =>
    obtain ⟨low, high, w⟩ := found
    simp only [bounds, Option.map_some] at read ⊢
    rw [← alike.isRepeatable]
    split at read <;> try contradiction
    rename_i repeatable
    rw [if_pos repeatable]
    obtain ⟨y, skipped, made⟩ := Option.map_eq_some_iff.mp read
    rcases skipOrLoose p w fence same with loose | ⟨z, again, inside⟩
    · obtain rfl : y = u := (loose.unmarked skipped low high n).symm.trans (congrArg Prod.snd made)
      exact .inl ((Loose.skip skipped).mp loose)
    · cases skipped.symm.trans again
      obtain ⟨like, behind⟩ := markedInside fence same alike low high y
      rw [made] at like behind
      refine .inr ⟨_, ?_, like⟩
      rw [inside, Option.map_some, ← behind]

end Reader
end ExtendedPattern.Engine
