import ExtendedPattern.Proofs.Leftmost
import ExtendedPattern.Proofs.LockstepMatches
import ExtendedPattern.Proofs.References

/-! Matching by trial tells whether a tree matches. A try that ends within its budget succeeds exactly where the
tree can take something behind which its goal succeeds; what is delegated commits to one match, which is enough
where the match has one length only, or where every goal is as good. -/
namespace ExtendedPattern
open Text (size)
namespace Engine

namespace Cursor
variable {c d e : Cursor} {n : Nat} {text : Text}

theorem Ahead.alone (one : c.Ahead d) (other : c.Ahead e) (same : d.after.length = e.after.length) : d = e := by
  have still {a b : Cursor} (ahead : a.Ahead b) (same : a.after.length = b.after.length) : a = b := by
    have stays := ahead
    obtain ⟨taken, after, _, offset⟩ := ahead
    rw [after, List.length_append] at same
    have none : taken = [] := List.eq_nil_of_length_eq_zero (by omega)
    rw [none] at offset
    exact stays.still offset.symm
  rcases one.total other with ahead | back
  · exact still ahead same
  · exact (still back same.symm).symm

theorem Ahead.backs (ahead : c.Ahead d) (same : n + d.after.length = c.after.length) : d.back? n = some c := by
  obtain ⟨before, after, offset⟩ := d
  obtain ⟨taken, follows, behind, place⟩ := ahead
  induction n generalizing before after offset taken with
  | zero =>
    have none : taken = [] := by
      rw [follows, List.length_append] at same
      exact List.eq_nil_of_length_eq_zero (by omega)
    subst none
    cases c
    simp_all [back?, size]
  | succ n ih =>
    rcases List.eq_nil_or_concat taken with rfl | ⟨front, x, rfl⟩
    · rw [follows] at same
      simp only [List.nil_append] at same
      omega
    · simp only [List.concat_eq_append, List.reverse_append, List.reverse_singleton, List.cons_append,
        List.nil_append, Text.sizeAppend, size] at behind place
      subst behind
      rw [back?]
      refine ih _ _ _ ?_ front (by simpa using follows) rfl ?_
      · rw [List.length_cons, Nat.add_comm after.length, ← Nat.add_assoc]
        exact same
      · dsimp only
        omega

theorem On.backIff (on : d.On text) : d.back? n = some c ↔ c.Ahead d ∧ n + d.after.length = c.after.length := by
  refine ⟨fun walked => ?_, fun ⟨ahead, same⟩ => ahead.backs same⟩
  induction n generalizing d with
  | zero =>
    cases walked
    exact ⟨.refl _, Nat.zero_add _⟩
  | succ n ih =>
    obtain ⟨before, after, offset⟩ := d
    cases before with
    | nil => contradiction
    | cons x before =>
      have within : offset - x.utf8Size + x.utf8Size = offset := by
        have same : offset = _ := on.offset
        simp only [List.reverse_cons, Text.sizeAppend, size] at same
        omega
      have step := Ahead.step before after x (offset - x.utf8Size)
      rw [within] at step
      obtain ⟨ahead, same⟩ := ih (on.back (n := 1) rfl) walked
      rw [List.length_cons, Nat.add_comm after.length, ← Nat.add_assoc] at same
      exact ⟨ahead.trans step, same⟩

end Cursor

namespace Node

/-- What is taken is no shorter than the shape says, and no longer where the shape is fixed. -/
structure Shape.Measures (s : Shape) (R : Taking) : Prop where
  ahead : ∀ {c d}, R c d → c.Ahead d
  least : ∀ {c d}, R c d → s.least + d.after.length ≤ c.after.length
  only : s.fixed → ∀ {c d}, R c d → s.least + d.after.length = c.after.length

namespace Shape.Measures
variable {s other : Shape} {R S : Taking} {c d e : Cursor}

theorem once (measures : s.Measures R) (fixed : s.fixed) (one : R c d) (other : R c e) : d = e := by
  have first := measures.only fixed one
  have second := measures.only fixed other
  exact (measures.ahead one).alone (measures.ahead other) (by omega)

theorem congr (measures : s.Measures R) (same : ∀ {c d}, S c d → R c d) : s.Measures S where
  ahead taken := measures.ahead (same taken)
  least taken := measures.least (same taken)
  only fixed _ _ taken := measures.only fixed (same taken)

theorem still (hard : Bool) : (Shape.nothing hard).Measures (fun c d => c = d) where
  ahead same := same ▸ .refl _
  least same := by simp [same, Shape.nothing]
  only _ _ _ same := by simp [same, Shape.nothing]

theorem never (s : Shape) : s.Measures (fun _ _ => False) where
  ahead := False.elim
  least := False.elim
  only _ _ _ := False.elim

theorem followedBy (first : s.Measures R) (second : other.Measures S) :
    (s.followedBy other).Measures (fun c d => ∃ m, R c m ∧ S m d) where
  ahead := by
    rintro c d ⟨m, taken, taken'⟩
    exact (first.ahead taken).trans (second.ahead taken')
  least := by
    rintro c d ⟨m, taken, taken'⟩
    have one := first.least taken
    have two := second.least taken'
    simp only [Shape.followedBy]
    omega
  only := by
    rintro fixed c d ⟨m, taken, taken'⟩
    obtain ⟨here, there⟩ := Bool.and_eq_true_iff.mp fixed
    have one := first.only here taken
    have two := second.only there taken'
    simp only [Shape.followedBy]
    omega

theorem or (first : s.Measures R) (second : other.Measures S) :
    (s.or other).Measures (fun c d => R c d ∨ S c d) where
  ahead := by
    rintro c d (taken | taken)
    · exact first.ahead taken
    · exact second.ahead taken
  least := by
    rintro c d (taken | taken)
    · exact Nat.le_trans (Nat.add_le_add_right (Nat.min_le_left _ _) _) (first.least taken)
    · exact Nat.le_trans (Nat.add_le_add_right (Nat.min_le_right _ _) _) (second.least taken)
  only := by
    intro fixed c d taken
    simp only [Shape.or, Bool.and_eq_true, beq_iff_eq] at fixed ⊢
    obtain ⟨⟨here, there⟩, same⟩ := fixed
    rw [← same, Nat.min_self]
    rcases taken with taken | taken
    · exact first.only here taken
    · rw [same]
      exact second.only there taken

theorem rounds (measures : s.Measures R) (n : Nat) : Shape.Measures ⟨s.least * n, s.fixed, s.hard⟩ (Rounds R n) := by
  induction n with
  | zero =>
    refine ⟨?_, ?_, ?_⟩
    · rintro c d ⟨⟩
      exact .refl c
    · rintro c d ⟨⟩
      simp
    · rintro _ c d ⟨⟩
      simp
  | succ n ih =>
    have both := measures.followedBy ih
    have length : s.least + s.least * n = s.least * (n + 1) := by rw [Nat.mul_succ, Nat.add_comm]
    simp only [Shape.followedBy, Bool.and_self, Bool.or_self, length] at both
    refine both.congr ?_
    rintro c d ⟨⟩
    rename_i m first others
    exact ⟨m, first, others⟩

theorem repeated (measures : s.Measures R) (low : Nat) (high : Option Nat) :
    Shape.Measures ⟨s.least * low, s.fixed && high == some low, s.hard⟩
      (fun c d => ∃ n, low ≤ n ∧ (∀ most ∈ high, n ≤ most) ∧ Rounds R n c d) where
  ahead := by
    rintro c d ⟨n, _, _, rounds⟩
    exact (measures.rounds n).ahead rounds
  least := by
    rintro c d ⟨n, many, _, rounds⟩
    have length := (measures.rounds n).least rounds
    exact Nat.le_trans (Nat.add_le_add_right (Nat.mul_le_mul_left _ many) _) length
  only := by
    rintro fixed c d ⟨n, many, few, rounds⟩
    simp only [Bool.and_eq_true, beq_iff_eq] at fixed
    cases Nat.le_antisymm (few low fixed.2) many
    exact (measures.rounds low).only fixed.1 rounds

end Shape.Measures

mutual

theorem measured : ∀ n : Node, (n.shape []).Measures n.Matches
  | .empty => .still false
  | .char s => by
    have takes {c d : Cursor} (taken : (char s).Matches c d) : c.Ahead d ∧ 1 + d.after.length = c.after.length := by
      obtain ⟨x, next, _⟩ := taken
      obtain ⟨before, after, offset⟩ := c
      cases after with
      | nil => contradiction
      | cons y rest =>
        cases next
        exact ⟨.step _ _ _ _, Nat.add_comm _ _⟩
    exact ⟨fun taken => (takes taken).1, fun taken => Nat.le_of_eq (takes taken).2, fun _ _ _ taken => (takes taken).2⟩
  | .assertion _ => (Shape.Measures.still _).congr And.left
  | .seq items => measuredAll items
  | .alt branches => measuredOne branches
  | .group _ body => ⟨(measured body).ahead, (measured body).least, (measured body).only⟩
  | .repeated low high _ body => (measured body).repeated low high
  | .look true _ _ | .look false _ _ => (Shape.Measures.still true).congr And.left
  | .atomic _ | .backref _ | .keepOut | .searchStart => .never _

theorem measuredAll : ∀ items : List Node, (shapeOfSeq [] items).Measures (MatchAll items)
  | [] => .still false
  | n :: rest => (measured n).followedBy (measuredAll rest)

theorem measuredOne : ∀ branches : List Node, (shapeOfAlt [] branches).Measures (MatchOne branches)
  | [] => .still false
  | [n] => measured n
  | n :: m :: rest => (measured n).or (measuredOne (m :: rest))

end

end Node

namespace Rounds
variable {R : Taking} {low round : Nat} {high : Option Nat} {c d : Cursor}

def After (R : Taking) (low : Nat) (high : Option Nat) (round : Nat) : Taking := fun c d =>
  ∃ n, low ≤ round + n ∧ (∀ most ∈ high, round + n ≤ most) ∧ Rounds R n c d

theorem afterIff : After R low high round c d ↔
    (c = d ∧ low ≤ round ∧ ∀ most ∈ high, round ≤ most) ∨ ∃ m, R c m ∧ After R low high (round + 1) m d := by
  constructor
  · rintro ⟨n, many, few, rounds⟩
    cases rounds with
    | none => exact .inl ⟨rfl, many, few⟩
    | @more n _ _ _ first others =>
      rw [← Nat.add_assoc, Nat.add_right_comm] at many few
      exact .inr ⟨_, first, n, many, few, others⟩
  · rintro (⟨rfl, many, few⟩ | ⟨m, first, n, many, few, others⟩)
    · exact ⟨0, many, few, .none c⟩
    · rw [Nat.add_right_comm] at many few
      exact ⟨n + 1, many, few, .more first others⟩

theorem afterBound {most : Nat} (after : After R low (some most) round c d) : round ≤ most := by
  obtain ⟨n, _, few, _⟩ := after
  exact Nat.le_trans (Nat.le_add_right _ _) (few most rfl)

end Rounds

namespace Backtrack

/-- An outcome that comes within the budget tells whether `P` holds. -/
def Outcome.Tells (P : Prop) : Outcome → Prop
  | .found _ _ => P
  | .failed _ => ¬ P
  | .exhausted => True

namespace Outcome
variable {o : Outcome} {next stay leave : Nat → Outcome} {P Q : Prop} {budget : Nat}

theorem Tells.congr (tells : o.Tells P) (same : P ↔ Q) : o.Tells Q := propext same ▸ tells

theorem Tells.orElse (first : o.Tells P) (second : ∀ budget, (next budget).Tells Q) : (o.orElse next).Tells (P ∨ Q) := by
  cases o with
  | found => exact .inl first
  | exhausted => trivial
  | failed budget =>
    cases budget with
    | zero => trivial
    | succ budget => exact (second budget).congr (or_iff_right first).symm

theorem Tells.refuse (first : o.Tells P) (second : ¬ P → ∀ budget, (next budget).Tells Q) :
    (o.refuse next).Tells (¬ P ∧ Q) := by
  cases o with
  | found => exact fun both => both.1 first
  | exhausted => trivial
  | failed budget =>
    cases budget with
    | zero => trivial
    | succ budget => exact (second first budget).congr (and_iff_right first).symm

theorem foundBehind {t : State} {left : Nat} (found : o.refuse next = .found t left) :
    (∀ {P}, o.Tells P → ¬ P) ∧ ∃ budget, next budget = .found t left := by
  cases o with
  | found | exhausted => contradiction
  | failed budget =>
    cases budget with
    | zero => contradiction
    | succ budget => exact ⟨id, budget, found⟩

theorem eitherTells (greedy : Bool) (first : ∀ budget, (stay budget).Tells P) (second : ∀ budget, (leave budget).Tells Q) :
    (either greedy stay leave budget).Tells (P ∨ Q) := by
  cases greedy with
  | true => exact (first budget).orElse second
  | false => exact ((second budget).orElse first).congr or_comm

end Outcome

/-- A goal that tells of each cursor that `R` leads to whether `P` holds there is told by the move whether `P` holds
of any. Out of a hard context the goal has to be as good everywhere. -/
def Move.Tells (text : Text) (inHard : Bool) (R : Taking) (move : Move) : Prop :=
  ∀ ⦃s : State⦄ ⦃P : Cursor → Prop⦄ ⦃goal : Goal⦄ ⦃budget : Nat⦄, s.here.On text →
    (inHard = false → ∀ c d, P c → P d) →
    (∀ t budget, t.here.On text → R s.here t.here → (goal t budget).Tells (P t.here)) →
    (move s budget goal).Tells (∃ d, R s.here d ∧ P d)

namespace Move.Tells
variable {text : Text} {inHard : Bool} {R S : Taking} {move other : Move}

theorem congr (tells : move.Tells text inHard R) (same : ∀ {c d}, c.On text → (R c d ↔ S c d)) :
    move.Tells text inHard S := by
  intro s P goal budget on level asked
  refine (tells on level fun t budget there taken => asked t budget there ((same on).mp taken)).congr ?_
  exact exists_congr fun d => and_congr_left' (same on)

theorem anywhere (tells : move.Tells text true R) (inHard : Bool) : move.Tells text inHard R :=
  fun _ _ _ _ on _ asked => tells on nofun asked

theorem tries (tells : move.Tells text inHard R) {s : State} (on : s.here.On text) (budget : Nat) :
    (move s budget .found).Tells (∃ d, R s.here d) := by
  refine (@tells s (fun _ => True) .found budget on (fun _ _ _ holds => holds) fun _ _ _ _ => trivial).congr ?_
  simp only [and_true]

theorem followedBy (first : move.Tells text true R) (second : other.Tells text inHard S) :
    Move.Tells text inHard (fun c d => ∃ m, R c m ∧ S m d)
      (fun s budget goal => move s budget fun s budget => other s budget goal) := by
  intro s P goal budget on level asked
  refine (@first s (fun m => ∃ d, S m d ∧ P d) _ budget on nofun ?_).congr ?_
  · intro t budget there taken
    exact second there level fun u budget here taken' => asked u budget here ⟨t.here, taken, taken'⟩
  · constructor
    · rintro ⟨m, taken, d, taken', holds⟩
      exact ⟨d, ⟨m, taken, taken'⟩, holds⟩
    · rintro ⟨d, ⟨m, taken, taken'⟩, holds⟩
      exact ⟨m, taken, d, taken', holds⟩

theorem optional (tells : move.Tells text inHard R) (greedy : Bool) :
    Move.Tells text inHard (fun c d => c = d ∨ R c d)
      (fun s budget goal => either greedy (fun budget => move s budget goal) (goal s) budget) := by
  intro s P goal budget on level asked
  have stay := fun budget => @tells s P goal budget on level fun t budget there taken => asked t budget there (.inr taken)
  refine (Outcome.eitherTells greedy stay fun budget => asked s budget on (.inl rfl)).congr ?_
  constructor
  · rintro (⟨d, taken, holds⟩ | holds)
    · exact ⟨d, .inr taken, holds⟩
    · exact ⟨s.here, .inl rfl, holds⟩
  · rintro ⟨d, rfl | taken, holds⟩
    · exact .inr holds
    · exact .inl ⟨d, taken, holds⟩

/-- Each round takes something, so the fuel outlasts the text. -/
theorem rounds (tells : move.Tells text true R) (shrinks : ∀ {c d}, R c d → d.after.length < c.after.length)
    (greedy : Bool) {fuel : Nat} {s : State} {P : Cursor → Prop} {goal : Goal} {budget : Nat} (on : s.here.On text)
    (enough : s.here.after.length < fuel)
    (asked : ∀ t budget, t.here.On text → (∃ n, Rounds R n s.here t.here) → (goal t budget).Tells (P t.here)) :
    (Backtrack.rounds move greedy fuel s budget goal).Tells (∃ d, (∃ n, Rounds R n s.here d) ∧ P d) := by
  induction fuel generalizing s budget with
  | zero => contradiction
  | succ fuel ih =>
    have stay := fun budget => @tells s (fun m => ∃ d, (∃ n, Rounds R n m d) ∧ P d) _ budget on nofun
      fun t budget there taken => @ih t budget there (Nat.lt_of_lt_of_le (shrinks taken) (Nat.le_of_lt_succ enough))
        fun u budget here ⟨n, others⟩ => asked u budget here ⟨n + 1, .more taken others⟩
    refine (Outcome.eitherTells greedy stay fun budget => asked s budget on ⟨0, .none _⟩).congr ?_
    constructor
    · rintro (⟨m, taken, d, ⟨n, others⟩, holds⟩ | holds)
      · exact ⟨d, ⟨n + 1, .more taken others⟩, holds⟩
      · exact ⟨s.here, ⟨0, .none _⟩, holds⟩
    · rintro ⟨d, ⟨n, rounds⟩, holds⟩
      cases rounds with
      | none => exact .inr holds
      | more first others => exact .inl ⟨_, first, d, ⟨_, others⟩, holds⟩

theorem counted (tells : move.Tells text true R) {low : Nat} {high : Option Nat} (bounded : ∀ most ∈ high, low ≤ most)
    (shrinks : high = none → ∀ {c d}, R c d → d.after.length < c.after.length) (greedy : Bool) {fuel round : Nat}
    {s : State} {P : Cursor → Prop} {goal : Goal} {budget : Nat} (on : s.here.On text)
    (enough : high.elim (s.here.after.length < fuel) fun most => round ≤ most ∧ most < round + fuel)
    (asked : ∀ t budget, t.here.On text → Rounds.After R low high round s.here t.here → (goal t budget).Tells (P t.here)) :
    (countedRounds move low high greedy fuel round s budget goal).Tells
      (∃ d, Rounds.After R low high round s.here d ∧ P d) := by
  induction fuel generalizing round s budget with
  | zero =>
    cases high with
    | none => contradiction
    | some most => exact absurd enough.2 (Nat.not_lt.mpr enough.1)
  | succ fuel ih =>
    have meaning : (∃ d, Rounds.After R low high round s.here d ∧ P d) ↔
        (∃ m, R s.here m ∧ ∃ d, Rounds.After R low high (round + 1) m d ∧ P d) ∨
          (low ≤ round ∧ ∀ most ∈ high, round ≤ most) ∧ P s.here := by
      constructor
      · rintro ⟨d, after, holds⟩
        rcases Rounds.afterIff.mp after with ⟨rfl, may⟩ | ⟨m, first, others⟩
        · exact .inr ⟨may, holds⟩
        · exact .inl ⟨m, first, d, others, holds⟩
      · rintro (⟨m, first, d, others, holds⟩ | ⟨may, holds⟩)
        · exact ⟨d, Rounds.afterIff.mpr (.inr ⟨m, first, others⟩), holds⟩
        · exact ⟨s.here, Rounds.afterIff.mpr (.inl ⟨rfl, may⟩), holds⟩
    have leave (may : low ≤ round ∧ ∀ most ∈ high, round ≤ most) (budget : Nat) : (goal s budget).Tells (P s.here) :=
      asked s budget on (Rounds.afterIff.mpr (.inl ⟨rfl, may⟩))
    rw [countedRounds]
    split
    · rename_i full
      obtain rfl := beq_iff_eq.mp full
      have may : low ≤ round ∧ ∀ most ∈ some round, round ≤ most := ⟨bounded round rfl, by simp⟩
      refine (leave may budget).congr (Iff.trans ?_ meaning.symm)
      refine ⟨fun holds => .inr ⟨may, holds⟩, ?_⟩
      rintro (⟨m, _, d, others, _⟩ | ⟨_, holds⟩)
      · exact absurd (Rounds.afterBound others) (Nat.not_succ_le_self round)
      · exact holds
    · rename_i open_
      have stay := fun budget => @tells s (fun m => ∃ d, Rounds.After R low high (round + 1) m d ∧ P d) _ budget on (by simp)
        fun t budget there taken => @ih (round + 1) t budget there (by
          cases high with
          | none => exact Nat.lt_of_lt_of_le (shrinks rfl taken) (Nat.le_of_lt_succ enough)
          | some most =>
            have apart : most ≠ round := by simpa using open_
            obtain ⟨within, more⟩ := enough
            exact ⟨by omega, by omega⟩)
          fun u budget here others => asked u budget here (Rounds.afterIff.mpr (.inr ⟨t.here, taken, others⟩))
      have within : ∀ most ∈ high, round ≤ most := by
        rintro most ⟨⟩
        exact enough.1
      dsimp only
      split
      · rename_i few
        refine (stay budget).congr (Iff.trans ?_ meaning.symm)
        exact (or_iff_left fun both => absurd both.1.1 (Nat.not_le.mpr few)).symm
      · rename_i enough
        have may : low ≤ round ∧ ∀ most ∈ high, round ≤ most := ⟨Nat.le_of_not_lt enough, within⟩
        refine (Outcome.eitherTells greedy stay (leave may)).congr (Iff.trans ?_ meaning.symm)
        exact or_congr_right (and_iff_right may).symm

end Move.Tells

section
variable {f : Frame} {text : Text} {inHard : Bool} {R : Taking} {body : Plan} {nodes : List Node} {plans : List Plan}

theorem charTells (set : CharSet) : Move.Tells text inHard (Node.char set).Matches (run f (.char set)) := by
  intro s P goal budget on level asked
  rw [run]
  cases next : s.here.next? with
  | none =>
    rintro ⟨d, ⟨x, taken, _⟩, _⟩
    cases next.symm.trans taken
  | some step =>
    obtain ⟨x, m⟩ := step
    dsimp only
    split
    · rename_i has
      refine (asked { s with here := m } budget ((Cursor.Ahead.next next).on on) ⟨x, next, has⟩).congr ?_
      constructor
      · intro holds
        exact ⟨m, ⟨x, next, has⟩, holds⟩
      · rintro ⟨d, ⟨y, taken, _⟩, holds⟩
        cases next.symm.trans taken
        exact holds
    · rename_i misses
      rintro ⟨d, ⟨y, taken, has⟩, _⟩
      cases next.symm.trans taken
      exact misses has

theorem assertionTells (a : Assertion) : Move.Tells text inHard (Node.assertion a).Matches (run f (.assertion a)) := by
  intro s P goal budget on level asked
  rw [run]
  split
  · rename_i satisfied
    refine (asked s budget on ⟨rfl, satisfied⟩).congr ⟨fun holds => ⟨_, ⟨rfl, satisfied⟩, holds⟩, ?_⟩
    rintro ⟨_, ⟨rfl, _⟩, holds⟩
    exact holds
  · rename_i refused
    rintro ⟨_, ⟨_, satisfied⟩, _⟩
    exact refused satisfied

theorem delegateTells {n : Node} (easy : (n.shape []).hard = false) (bounded : Code.isBounded n)
    (fixed : inHard = true → (n.shape []).fixed = true) (groups : List Nat) :
    Move.Tells text inHard n.Matches (run f (.delegate (Code.ofNode n).toArray groups)) := by
  intro s P goal budget on level asked
  rw [run]
  cases found : Lockstep.run (Code.ofNode n).toArray (s.slots.length / 2) s.here with
  | none =>
    rintro ⟨d, taken, _⟩
    have some := (Lockstep.runIff easy bounded (s.slots.length / 2) s.here).mpr ⟨d, taken⟩
    rw [found] at some
    cases some
  | some arrival =>
    have taken := Lockstep.runStops easy bounded found
    have there := (n.measured.ahead taken).on on
    refine (asked { here := arrival.stop, slots := _, roundStarts := s.roundStarts } budget there taken).congr ?_
    constructor
    · intro holds
      exact ⟨_, taken, holds⟩
    · rintro ⟨d, taken', holds⟩
      cases inHard with
      | false => exact level rfl _ _ holds
      | true =>
        rw [n.measured.once (fixed rfl) taken taken']
        exact holds

theorem captureTells (tells : Move.Tells text inHard R (run f body)) (index : Nat) :
    Move.Tells text inHard R (run f (.capture index body)) := by
  intro s P goal budget on level asked
  rw [runCapture]
  exact @tells (s.mark (2 * index)) P _ budget on level fun t budget there taken => asked (t.mark _) budget there taken

theorem lookTells (tells : Move.Tells text false R (run f body)) (back : Nat) (negative : Bool) :
    Move.Tells text inHard
      (fun c d => c = d ∧ (negative = true ↔ ¬ ∃ origin e, c.back? back = some origin ∧ R origin e))
      (run f (.look back negative body)) := by
  intro s P goal budget on level asked
  cases negative with
  | false =>
    rw [run]
    cases walked : s.here.back? back with
    | none =>
      rintro ⟨d, ⟨_, found⟩, _⟩
      simp [walked] at found
    | some origin =>
      refine (@tells { s with here := origin } (fun _ => P s.here) _ budget (on.back walked) (fun _ _ _ holds => holds)
        fun t budget _ taken => asked { t with here := s.here } budget on ⟨rfl, ?_⟩).congr ?_
      · simpa [walked] using ⟨_, taken⟩
      · constructor
        · rintro ⟨e, taken, holds⟩
          exact ⟨s.here, ⟨rfl, by simpa [walked] using ⟨e, taken⟩⟩, holds⟩
        · rintro ⟨d, ⟨rfl, found⟩, holds⟩
          obtain ⟨e, taken⟩ : ∃ e, R origin e := by simpa [walked] using found
          exact ⟨e, taken, holds⟩
  | true =>
    rw [runRejects]
    have meaning {Q : Prop} (same : Q ↔ ∃ origin e, s.here.back? back = some origin ∧ R origin e) : ¬ Q ∧ P s.here ↔
        ∃ d, (s.here = d ∧ (true = true ↔ ¬ ∃ origin e, s.here.back? back = some origin ∧ R origin e)) ∧ P d := by
      rw [← same]
      simp
    cases walked : s.here.back? back with
    | none =>
      have refused : (Outcome.failed budget).Tells False := False.elim
      refine (refused.refuse fun _ budget => asked s budget on ⟨rfl, by simp [walked]⟩).congr (meaning ?_)
      simp [walked]
    | some origin =>
      have tried := @Move.Tells.tries _ _ _ _ tells { s with here := origin } (on.back walked) budget
      have same : (∃ e, R origin e) ↔ ∃ place e, s.here.back? back = some place ∧ R place e := by simp [walked]
      exact (tried.refuse fun free budget => asked s budget on ⟨rfl, iff_of_true rfl (same.not.mp free)⟩).congr (meaning same)

theorem sequenceTells (all : List.Forall₂ (fun n plan => Move.Tells text true n.Matches (run f plan)) nodes plans) :
    Move.Tells text true (Node.MatchAll nodes) (runSeq f plans) := by
  induction all with
  | nil =>
    intro s P goal budget on level asked
    refine (asked s budget on rfl).congr ⟨fun holds => ⟨_, rfl, holds⟩, ?_⟩
    rintro ⟨_, rfl, holds⟩
    exact holds
  | cons here _ ih => exact here.followedBy ih

theorem ofSequence (tells : Move.Tells text inHard R (runSeq f plans)) :
    Move.Tells text inHard R (run f (.seq plans)) := by
  simpa only [Move.Tells, run] using tells

theorem ofAlternatives (tells : Move.Tells text inHard R (runAlt f plans)) :
    Move.Tells text inHard R (run f (.alt plans)) := by
  simpa only [Move.Tells, run] using tells

theorem sequenceAppend (front rest : List Plan) (s : State) (budget : Nat) (goal : Goal) :
    runSeq f (front ++ rest) s budget goal = runSeq f front s budget fun s budget => runSeq f rest s budget goal := by
  induction front generalizing s budget with
  | nil => rfl
  | cons p front ih => simp only [List.cons_append, runSeq, ih]

theorem alternativesTell (present : nodes ≠ [])
    (all : List.Forall₂ (fun n plan => Move.Tells text inHard n.Matches (run f plan)) nodes plans) :
    Move.Tells text inHard (Node.MatchOne nodes) (runAlt f plans) := by
  induction all with
  | nil => contradiction
  | cons here others ih =>
    cases others with
    | nil =>
      intro s P goal budget on level asked
      exact here on level asked
    | cons next rest =>
      intro s P goal budget on level asked
      have first := @here s P goal budget on level fun t budget there taken => asked t budget there (.inl taken)
      have second := fun budget => @ih (by simp) s P goal budget on level fun t budget there taken =>
        asked t budget there (.inr taken)
      refine (first.orElse second).congr ?_
      rw [← exists_or]
      exact exists_congr fun d => or_and_right.symm

theorem optionalTells (tells : Move.Tells text inHard R (run f body)) (greedy : Bool) :
    Move.Tells text inHard (fun c d => ∃ n, 0 ≤ n ∧ (∀ most ∈ some 1, n ≤ most) ∧ Rounds R n c d)
      (run f (.optional greedy body)) := by
  have meaning (c d : Cursor) : c = d ∨ R c d ↔ ∃ n, 0 ≤ n ∧ (∀ most ∈ some 1, n ≤ most) ∧ Rounds R n c d := by
    constructor
    · rintro (rfl | taken)
      · exact ⟨0, Nat.le_refl 0, by simp, .none c⟩
      · exact ⟨1, Nat.zero_le 1, by simp, .more taken (.none d)⟩
    · rintro ⟨n, _, few, rounds⟩
      cases rounds with
      | none => exact .inl rfl
      | more first others =>
        cases Nat.le_zero.mp (Nat.le_of_succ_le_succ (few 1 rfl))
        cases others
        exact .inr first
  have tried := (tells.optional greedy).congr fun {c d} _ => meaning c d
  simpa only [Move.Tells, run] using tried

theorem loopTells (tells : Move.Tells text true R (run f body))
    (shrinks : ∀ {c d}, R c d → d.after.length < c.after.length) (atLeastOnce greedy : Bool) :
    Move.Tells text inHard (fun c d => ∃ n, atLeastOnce.toNat ≤ n ∧ Rounds R n c d)
      (run f (.loop atLeastOnce greedy body)) := by
  intro s P goal budget on level asked
  rw [run]
  cases atLeastOnce with
  | false =>
    refine (tells.rounds shrinks greedy on (Nat.lt_succ_self _) fun t budget there ⟨n, rounds⟩ =>
      asked t budget there ⟨n, Nat.zero_le n, rounds⟩).congr ?_
    simp
  | true =>
    refine (@tells s (fun m => ∃ d, (∃ n, Rounds R n m d) ∧ P d) _ budget on nofun ?_).congr ?_
    · intro t budget there taken
      refine tells.rounds shrinks greedy there (Nat.lt_succ_of_lt (shrinks taken)) ?_
      rintro u budget here ⟨n, others⟩
      exact asked u budget here ⟨n + 1, Nat.le_add_left 1 n, .more taken others⟩
    · constructor
      · rintro ⟨m, taken, d, ⟨n, others⟩, holds⟩
        exact ⟨d, ⟨n + 1, Nat.le_add_left 1 n, .more taken others⟩, holds⟩
      · rintro ⟨d, ⟨n, some, rounds⟩, holds⟩
        cases rounds with
        | none => contradiction
        | more first others => exact ⟨_, first, d, ⟨_, others⟩, holds⟩

theorem countedTells (tells : Move.Tells text true R (run f body)) {low : Nat} {high : Option Nat}
    (bounded : ∀ most ∈ high, low ≤ most)
    (shrinks : high = none → ∀ {c d}, R c d → d.after.length < c.after.length) (greedy : Bool) :
    Move.Tells text inHard (fun c d => ∃ n, low ≤ n ∧ (∀ most ∈ high, n ≤ most) ∧ Rounds R n c d)
      (run f (.counted low high greedy body)) := by
  intro s P goal budget on level asked
  rw [run]
  have whole (d : Cursor) : Rounds.After R low high 0 s.here d ↔
      ∃ n, low ≤ n ∧ (∀ most ∈ high, n ≤ most) ∧ Rounds R n s.here d := by simp only [Rounds.After, Nat.zero_add]
  refine (tells.counted bounded shrinks greedy on ?_ fun t budget there after =>
    asked t budget there ((whole _).mp after)).congr ?_
  · cases high with
    | none => exact Nat.lt_succ_of_le (Nat.le_add_left _ _)
    | some most => exact ⟨Nat.zero_le _, by simp⟩
  · exact exists_congr fun d => and_congr_left' (whole d)

end
end Backtrack
end Engine
end ExtendedPattern
