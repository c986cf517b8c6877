import ExtendedPattern.Proofs.GlobalRegistry
import Mathlib.Data.Nat.Digits.Defs
import Mathlib.Data.List.Forall2
import Mathlib.Tactic.Ring
import Mathlib.Tactic.SplitIfs

/-! Data of code points: which texts are data, what they denote, and the ranges that are kept of it. Sorting,
joining, inverting and leaving out the surrogates change no member, and all that is kept ascends. -/
namespace ExtendedPattern.CodePointSet

def Digits : Text → List Nat → Prop := List.Forall₂ fun c v => hexValue? c = some v

inductive Field : Text → Nat → Prop where
  | digits {t : Text} {vs : List Nat} (four : t.length = 4) (digits : Digits t vs) : Field t (Nat.ofDigits 16 vs.reverse)
  | signed {t : Text} {vs : List Nat} (three : t.length = 3) (digits : Digits t vs) :
      Field ('+' :: t) (Nat.ofDigits 16 vs.reverse)

inductive Lists : Text → List (Nat × Nat) → Prop where
  | nothing : Lists [] []
  | single {field rest : Text} {n : Nat} {items : List (Nat × Nat)} (one : Field field n) (more : Lists rest items) :
      Lists (field ++ rest) ((n, n) :: items)
  | range {field field' rest : Text} {first last : Nat} {items : List (Nat × Nat)} (one : Field field first)
      (two : Field field' last) (order : first ≤ last) (more : Lists rest items) :
      Lists (field ++ '-' :: (field' ++ rest)) ((first, last) :: items)

def Within (rs : List (Nat × Nat)) (n : Nat) : Prop := ∃ r ∈ rs, r.1 ≤ n ∧ n ≤ r.2

instance (rs : List (Nat × Nat)) (n : Nat) : Decidable (Within rs n) := inferInstanceAs (Decidable (∃ r ∈ rs, _))

variable {t : Text} {vs : List Nat} {items rs : List (Nat × Nat)} {r last : Nat × Nat} {n low : Nat}

theorem digitSpelled {c : Char} {v : Nat} : hexValue? c = some v ↔ v < 16 ∧ (c = v.digitChar ∨ c = v.digitChar.toUpper) := by
  constructor
  · intro value
    have ascii : c.toNat < 128 := by
      unfold hexValue? at value
      split_ifs at value with inside inside inside
      all_goals
        simp only [Char.le_def, UInt32.le_iff_toNat_le, Char.toNat_val, Char.reduceToNat] at inside
        omega
    have each : ∀ n < 128, ∀ v ∈ hexValue? (Char.ofNat n),
        v < 16 ∧ (Char.ofNat n = v.digitChar ∨ Char.ofNat n = v.digitChar.toUpper) := by
      decide
    rw [← Char.ofNat_toNat c] at value ⊢
    exact each c.toNat ascii v value
  · have each : ∀ v < 16, hexValue? v.digitChar = some v ∧ hexValue? v.digitChar.toUpper = some v := by decide
    rintro ⟨small, rfl | rfl⟩
    · exact (each v small).1
    · exact (each v small).2

theorem digitsSmall (digits : Digits t vs) : ∀ v ∈ vs, v < 16 := by
  induction digits with
  | nil => exact nofun
  | cons value _ ih => exact List.forall_mem_cons.mpr ⟨(digitSpelled.mp value).1, ih⟩

theorem digitsRead (start : Nat) :
    t.foldlM (fun n c => (hexValue? c).map (16 * n + ·)) start = some n ↔
      ∃ vs, Digits t vs ∧ n = start * 16 ^ vs.length + Nat.ofDigits 16 vs.reverse := by
  induction t generalizing start with
  | nil => simp [Digits, List.forall₂_nil_left_iff, eq_comm]
  | cons c rest ih =>
    simp only [List.foldlM_cons, bind, Option.bind_eq_some_iff, Option.map_eq_some_iff, ih, Digits]
    constructor
    · rintro ⟨_, ⟨v, value, rfl⟩, vs, digits, rfl⟩
      refine ⟨v :: vs, .cons value digits, ?_⟩
      rw [Nat.ofDigits_reverse_cons, List.length_cons]
      ring
    · rintro ⟨_, digits, rfl⟩
      cases digits with
      | @cons _ v _ vs value digits =>
        refine ⟨_, ⟨v, value, rfl⟩, vs, digits, ?_⟩
        rw [Nat.ofDigits_reverse_cons, List.length_cons]
        ring

theorem numberRead : hexNumber? t = some n ↔ ∃ vs, Digits t vs ∧ n = Nat.ofDigits 16 vs.reverse := by
  rw [hexNumber?, digitsRead]
  simp

theorem fieldRead {a b c d : Char} : field? a b c d = some n ↔ Field [a, b, c, d] n := by
  unfold field?
  split
  · rename_i plus
    subst plus
    rw [numberRead]
    constructor
    · rintro ⟨vs, digits, rfl⟩
      exact .signed rfl digits
    · intro field
      generalize spelled : ['+', b, c, d] = t at field
      cases field with
      | digits _ digits =>
        subst spelled
        cases digits with
        | cons value => cases value
      | @signed _ vs _ digits =>
        cases spelled
        exact ⟨vs, digits, rfl⟩
  · rename_i other
    rw [numberRead]
    constructor
    · rintro ⟨vs, digits, rfl⟩
      exact .digits rfl digits
    · intro field
      generalize spelled : [a, b, c, d] = t at field
      cases field with
      | @digits _ vs _ digits =>
        subst spelled
        exact ⟨vs, digits, rfl⟩
      | signed =>
        cases spelled
        contradiction

theorem fieldLong {field : Text} (one : Field field n) : ∃ a b c d, field = [a, b, c, d] := by
  have long : field.length = 4 := by
    cases one with
    | digits four => exact four
    | signed three => rw [List.length_cons, three]
  match field, long with
  | [a, b, c, d], _ => exact ⟨a, b, c, d, rfl⟩

theorem fieldSmall {field : Text} (one : Field field n) : n ≤ 0xFFFF := by
  have small {t : Text} {vs : List Nat} (short : t.length ≤ 4) (digits : Digits t vs) : Nat.ofDigits 16 vs.reverse ≤ 0xFFFF := by
    have below : Nat.ofDigits 16 vs.reverse < 16 ^ vs.reverse.length :=
      Nat.ofDigits_lt_base_pow_length (by decide) fun v mem => digitsSmall digits v (List.mem_reverse.mp mem)
    rw [List.length_reverse, ← digits.length_eq] at below
    have bound : 16 ^ t.length ≤ 16 ^ 4 := Nat.pow_le_pow_right (by decide) short
    omega
  cases one with
  | digits four digits => exact small (Nat.le_of_eq four) digits
  | signed three digits => exact small (by omega) digits

theorem itemsRead : items? t = some items ↔ Lists t items := by
  constructor
  · intro read
    fun_induction items? t generalizing items with
    | case1 a b c d e f g h rest ih =>
      simp only [bind, Option.bind_eq_some_iff] at read
      obtain ⟨first, one, last, two, read⟩ := read
      split at read <;> try contradiction
      obtain ⟨more, others, same⟩ := Option.bind_eq_some_iff.mp read
      cases same
      exact .range (fieldRead.mp one) (fieldRead.mp two) ‹_› (ih others)
    | case2 a b c d rest _ ih =>
      simp only [bind, Option.bind_eq_some_iff] at read
      obtain ⟨n, one, more, others, same⟩ := read
      cases same
      exact .single (fieldRead.mp one) (ih others)
    | case3 =>
      cases read
      exact .nothing
    | case4 => contradiction
  · intro lists
    induction lists with
    | nothing => rfl
    | @single field rest n items one _ ih =>
      obtain ⟨a, b, c, d, rfl⟩ := fieldLong one
      rw [List.cons_append, List.cons_append, List.cons_append, List.cons_append, List.nil_append, items?]
      · simp [fieldRead.mpr one, ih]
      · rintro e f g h others rfl
        cases (dashUnread _).symm.trans ih
    | @range field field' rest first last items one two order _ ih =>
      obtain ⟨a, b, c, d, rfl⟩ := fieldLong one
      obtain ⟨e, f, g, h, rfl⟩ := fieldLong two
      simp [items?, fieldRead.mpr one, fieldRead.mpr two, order, ih]

theorem listedInside (lists : Lists t items) : ∀ r ∈ items, r.1 ≤ r.2 ∧ r.2 ≤ 0xFFFF := by
  induction lists with
  | nothing => exact nofun
  | single one _ ih => exact List.forall_mem_cons.mpr ⟨⟨Nat.le_refl _, fieldSmall one⟩, ih⟩
  | range _ two order _ ih => exact List.forall_mem_cons.mpr ⟨⟨order, fieldSmall two⟩, ih⟩

/-! What is kept of the ranges. -/

theorem withinCons : Within (r :: rs) n ↔ (r.1 ≤ n ∧ n ≤ r.2) ∨ Within rs n := List.exists_mem_cons_iff ..

theorem withinAppend {more : List (Nat × Nat)} : Within (rs ++ more) n ↔ Within rs n ∨ Within more n := by
  simp only [Within, List.mem_append, or_and_right, exists_or]

def Ascend (low : Nat) : List (Nat × Nat) → Prop
  | [] => True
  | r :: rest => low ≤ r.1 ∧ r.1 ≤ r.2 ∧ r.2 ≤ lastCodePoint ∧ Ascend (r.2 + 1) rest

theorem ascendFrom {low' : Nat} (order : low' ≤ low) (ascend : Ascend low rs) : Ascend low' rs := by
  cases rs with
  | nil => trivial
  | cons r rest => exact ⟨Nat.le_trans order ascend.1, ascend.2⟩

def Spaced (low : Nat) : List (Nat × Nat) → Prop
  | [] => True
  | r :: rest => low ≤ r.1 ∧ r.1 ≤ r.2 ∧ r.2 ≤ lastCodePoint ∧ Spaced (r.2 + 2) rest

theorem spacedFrom {low' : Nat} (order : low' ≤ low) (spaced : Spaced low rs) : Spaced low' rs := by
  cases rs with
  | nil => trivial
  | cons r rest => exact ⟨Nat.le_trans order spaced.1, spaced.2⟩

theorem Spaced.ascends (spaced : Spaced low rs) : Ascend low rs := by
  induction rs generalizing low with
  | nil => trivial
  | cons r rest ih =>
    obtain ⟨order, inner, outer, later⟩ := spaced
    exact ⟨order, inner, outer, ascendFrom (Nat.le_succ _) (ih later)⟩

theorem ascendBehind (ascend : Ascend low rs) (within : Within rs n) : low ≤ n := by
  induction rs generalizing low with
  | nil => exact absurd within (by simp [Within])
  | cons r rest ih =>
    obtain ⟨order, inner, _, later⟩ := ascend
    rcases withinCons.mp within with here | there
    · omega
    · have := ih later there
      omega

theorem ascendFew (ascend : Ascend low rs) (inside : low ≤ lastCodePoint + 1) : rs.length + low ≤ lastCodePoint + 1 := by
  induction rs generalizing low with
  | nil => simpa using inside
  | cons r rest ih =>
    obtain ⟨order, inner, outer, later⟩ := ascend
    have := ih later (by omega)
    rw [List.length_cons]
    omega

theorem insertedSame {x : Nat × Nat} : x ∈ insertRange r rs ↔ x = r ∨ x ∈ rs := by
  induction rs with
  | nil => simp [insertRange]
  | cons s rest ih =>
    unfold insertRange
    split
    · exact List.mem_cons
    · rw [List.mem_cons, ih, List.mem_cons]
      exact or_left_comm

theorem insertedSorted (sorted : rs.Pairwise fun a b => a.1 ≤ b.1) :
    (insertRange r rs).Pairwise fun a b => a.1 ≤ b.1 := by
  induction rs with
  | nil => exact List.pairwise_singleton ..
  | cons s rest ih =>
    obtain ⟨first, others⟩ := List.pairwise_cons.mp sorted
    have starts : if byStart r s then r.1 ≤ s.1 else s.1 ≤ r.1 := by
      simp only [byStart, Bool.or_eq_true, Bool.and_eq_true, decide_eq_true_eq, beq_iff_eq]
      split <;> omega
    unfold insertRange
    split at starts
    · rw [if_pos ‹_›]
      refine List.pairwise_cons.mpr ⟨fun x mem => ?_, sorted⟩
      rcases List.mem_cons.mp mem with rfl | later
      · exact starts
      · exact Nat.le_trans starts (first x later)
    · rw [if_neg ‹_›]
      refine List.pairwise_cons.mpr ⟨fun x mem => ?_, ih others⟩
      rcases insertedSame.mp mem with rfl | later
      · exact starts
      · exact first x later

theorem sortedSame {x : Nat × Nat} : x ∈ items.foldr insertRange [] ↔ x ∈ items := by
  induction items with
  | nil => rfl
  | cons r rest ih => rw [List.foldr_cons, insertedSame, ih, List.mem_cons]

theorem sortedStarts (items : List (Nat × Nat)) : (items.foldr insertRange []).Pairwise fun a b => a.1 ≤ b.1 := by
  induction items with
  | nil => exact .nil
  | cons r rest ih => exact insertedSorted ih

def joinFrom (last : Nat × Nat) : List (Nat × Nat) → List (Nat × Nat)
  | [] => [last]
  | r :: rest => if r.1 ≤ last.2 + 1 then joinFrom (last.1, max last.2 r.2) rest else last :: joinFrom r rest

theorem joinedFrom (before : List (Nat × Nat)) : (rs.foldl join (last :: before)).reverse = before.reverse ++ joinFrom last rs := by
  induction rs generalizing last before with
  | nil => simp [joinFrom]
  | cons r rest ih =>
    rw [List.foldl_cons, join, joinFrom]
    split
    · exact ih before
    · rw [ih]
      simp

theorem joinWithin (starts : ∀ r ∈ rs, last.1 ≤ r.1) (sorted : rs.Pairwise fun a b => a.1 ≤ b.1) :
    Within (joinFrom last rs) n ↔ Within (last :: rs) n := by
  induction rs generalizing last with
  | nil => rfl
  | cons r rest ih =>
    obtain ⟨first, others⟩ := List.forall_mem_cons.mp starts
    obtain ⟨behind, sorted⟩ := List.pairwise_cons.mp sorted
    unfold joinFrom
    split
    · have rejoined : Within (joinFrom (last.1, max last.2 r.2) rest) n ↔ Within ((last.1, max last.2 r.2) :: rest) n :=
        ih others sorted
      have joined : last.1 ≤ n ∧ n ≤ max last.2 r.2 ↔ (last.1 ≤ n ∧ n ≤ last.2) ∨ (r.1 ≤ n ∧ n ≤ r.2) := by omega
      rw [rejoined, withinCons, withinCons, withinCons, joined, or_assoc]
    · rw [withinCons, ih behind sorted, @withinCons (r :: rest) last]

theorem joinSpaced (order : low ≤ last.1) (inner : last.1 ≤ last.2) (outer : last.2 ≤ lastCodePoint)
    (starts : ∀ r ∈ rs, last.1 ≤ r.1) (sorted : rs.Pairwise fun a b => a.1 ≤ b.1)
    (inside : ∀ r ∈ rs, r.1 ≤ r.2 ∧ r.2 ≤ lastCodePoint) : Spaced low (joinFrom last rs) := by
  induction rs generalizing low last with
  | nil => exact ⟨order, inner, outer, trivial⟩
  | cons r rest ih =>
    obtain ⟨first, others⟩ := List.forall_mem_cons.mp starts
    obtain ⟨behind, sorted⟩ := List.pairwise_cons.mp sorted
    obtain ⟨here, inside⟩ := List.forall_mem_cons.mp inside
    unfold joinFrom
    split
    · exact ih order (by dsimp only; omega) (by dsimp only; omega) others sorted inside
    · exact ⟨order, inner, outer, ih (by omega) here.1 here.2 behind sorted inside⟩

theorem ofRangesKeeps (inside : ∀ r ∈ items, r.1 ≤ r.2 ∧ r.2 ≤ lastCodePoint) :
    Spaced 0 (ofRanges items).ranges ∧ ∀ n, Within (ofRanges items).ranges n ↔ Within items n := by
  have same (n : Nat) : Within (items.foldr insertRange []) n ↔ Within items n := by simp only [Within, sortedSame]
  have inside : ∀ r ∈ items.foldr insertRange [], r.1 ≤ r.2 ∧ r.2 ≤ lastCodePoint := fun r mem => inside r (sortedSame.mp mem)
  have sorted := sortedStarts items
  simp only [← same, ofRanges]
  generalize items.foldr insertRange [] = rs at inside sorted
  cases rs with
  | nil => exact ⟨trivial, fun _ => Iff.rfl⟩
  | cons r rest =>
    obtain ⟨starts, sorted⟩ := List.pairwise_cons.mp sorted
    obtain ⟨here, inside⟩ := List.forall_mem_cons.mp inside
    have joined : (rest.foldl join [r]).reverse = joinFrom r rest := joinedFrom []
    rw [List.foldl_cons, join, joined]
    exact ⟨joinSpaced (Nat.zero_le _) here.1 here.2 starts sorted inside, fun _ => joinWithin starts sorted⟩

theorem gapsSpaced (ascend : Ascend low rs) : Spaced low (gaps low rs) := by
  induction rs generalizing low with
  | nil =>
    unfold gaps
    split
    · exact ⟨Nat.le_refl _, ‹_›, Nat.le_refl _, trivial⟩
    · trivial
  | cons r rest ih =>
    obtain ⟨order, inner, outer, later⟩ := ascend
    unfold gaps
    split
    · exact ⟨Nat.le_refl _, by dsimp only; omega, by dsimp only; omega, spacedFrom (by dsimp only; omega) (ih later)⟩
    · exact spacedFrom (by omega) (ih later)

theorem gapsWithin (ascend : Ascend low rs) : Within (gaps low rs) n ↔ low ≤ n ∧ n ≤ lastCodePoint ∧ ¬ Within rs n := by
  induction rs generalizing low with
  | nil =>
    unfold gaps
    split
    · simp [Within]
    · simp only [Within, List.not_mem_nil, false_and, exists_false, not_false_eq_true, and_true, false_iff]
      omega
  | cons r rest ih =>
    obtain ⟨order, inner, outer, later⟩ := ascend
    have behind : Within rest n → r.2 + 1 ≤ n := ascendBehind later
    have others := ih later
    have first : Within (if low < r.1 then [(low, r.1 - 1)] else []) n ↔ low ≤ n ∧ n < r.1 := by
      split
      · simp only [Within, List.mem_singleton, exists_eq_left]
        omega
      · simp only [Within, List.not_mem_nil, false_and, exists_false, false_iff]
        omega
    have parts : gaps low (r :: rest) = (if low < r.1 then [(low, r.1 - 1)] else []) ++ gaps (r.2 + 1) rest := by
      rw [gaps]
      split <;> rfl
    rw [parts, withinAppend, first, others, withinCons]
    by_cases there : Within rest n
    · have late := behind there
      simp only [there, not_true_eq_false, and_false, or_false, or_true, iff_false]
      omega
    · simp only [there, not_false_eq_true, and_true, or_false]
      omega

theorem invertKeeps {s : CodePointSet} (ascend : Ascend 0 s.ranges) :
    Ascend 0 s.invert.ranges ∧ ∀ n, Within s.invert.ranges n ↔ n ≤ lastCodePoint ∧ ¬ Within s.ranges n :=
  ⟨(gapsSpaced ascend).ascends, fun n => by simp [invert, gapsWithin ascend]⟩

def members (s : CodePointSet) : List (Nat × Nat) := s.ranges.flatMap withoutSurrogates

theorem remainderAscends {more : List (Nat × Nat)} (order : low ≤ r.1) (inner : r.1 ≤ r.2) (outer : r.2 ≤ lastCodePoint)
    (later : Ascend (r.2 + 1) more) : Ascend low (withoutSurrogates r ++ more) := by
  unfold withoutSurrogates
  split
  · exact ⟨order, inner, outer, later⟩
  · rename_i meets
    simp only [Bool.or_eq_true, decide_eq_true_eq, not_or] at meets
    have upper {low' : Nat} (before : low' ≤ 0xE000) (before' : low' ≤ r.2 + 1) :
        Ascend low' ((if 0xDFFF < r.2 then [(0xE000, r.2)] else []) ++ more) := by
      split
      · exact ⟨before, ‹_›, outer, later⟩
      · exact ascendFrom before' later
    rw [List.append_assoc]
    split
    · exact ⟨order, by dsimp only; omega, (by decide : 0xD7FF ≤ lastCodePoint),
        upper (by decide : 0xD7FF + 1 ≤ 0xE000) (by dsimp only; omega)⟩
    · exact upper (by omega) (by omega)

theorem membersAscend (ascend : Ascend low rs) : Ascend low (rs.flatMap withoutSurrogates) := by
  induction rs generalizing low with
  | nil => trivial
  | cons r rest ih =>
    obtain ⟨order, inner, outer, later⟩ := ascend
    exact remainderAscends order inner outer (ih later)

theorem remainderWithin : Within (withoutSurrogates r) n ↔ (r.1 ≤ n ∧ n ≤ r.2) ∧ ¬ (0xD800 ≤ n ∧ n ≤ 0xDFFF) := by
  have single (r : Nat × Nat) : Within [r] n ↔ r.1 ≤ n ∧ n ≤ r.2 := by simp [Within]
  have never : Within [] n ↔ False := by simp [Within]
  unfold withoutSurrogates
  split_ifs with apart lower upper upper <;>
    simp only [withinAppend, single, never, or_false, false_or, false_iff, Bool.or_eq_true, decide_eq_true_eq] at * <;> omega

theorem membersWithin : Within (rs.flatMap withoutSurrogates) n ↔ Within rs n ∧ ¬ (0xD800 ≤ n ∧ n ≤ 0xDFFF) := by
  induction rs with
  | nil => simp [Within]
  | cons r rest ih => rw [List.flatMap_cons, withinAppend, remainderWithin, ih, withinCons, or_and_right]

theorem ascendEach (ascend : Ascend low rs) (mem : r ∈ rs) : r.1 ≤ r.2 ∧ r.2 ≤ lastCodePoint := by
  induction rs generalizing low with
  | nil => cases mem
  | cons first rest ih =>
    obtain ⟨_, inner, outer, later⟩ := ascend
    rcases List.mem_cons.mp mem with rfl | there
    · exact ⟨inner, outer⟩
    · exact ih later there

end ExtendedPattern.CodePointSet
