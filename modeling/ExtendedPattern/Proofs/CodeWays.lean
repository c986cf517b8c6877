import ExtendedPattern.Engine.Lockstep

/-! What a tree matches, and the ways through its code. The code of a tree takes up one block; a way
that enters the block at its front leaves it behind, and what it takes in between is what the tree
matches. -/
namespace ExtendedPattern.Engine

abbrev Taking := Cursor → Cursor → Prop

inductive Rounds (R : Taking) : Nat → Taking where
  | none (c : Cursor) : Rounds R 0 c c
  | more {n : Nat} {c m d : Cursor} (first : R c m) (others : Rounds R n m d) : Rounds R (n + 1) c d

namespace Rounds
variable {R : Taking} {n k : Nat} {c m d : Cursor}

theorem append (first : Rounds R n c m) (others : Rounds R k m d) : Rounds R (n + k) c d := by
  induction first with
  | none => rwa [Nat.zero_add]
  | more here _ ih =>
    rw [Nat.add_right_comm]
    exact .more here (ih others)

theorem split (rounds : Rounds R (n + k) c d) : ∃ m, Rounds R n c m ∧ Rounds R k m d := by
  induction n generalizing c with
  | zero => exact ⟨c, .none c, by rwa [Nat.zero_add] at rounds⟩
  | succ n ih =>
    rw [Nat.add_right_comm] at rounds
    cases rounds with
    | more here others =>
      obtain ⟨m, first, last⟩ := ih others
      exact ⟨m, .more here first, last⟩

end Rounds

namespace Node

mutual

/-- What a tree can match, whatever the order of preference. Trees that commit to their first match are left out,
and those that depend on the groups or on where the search started. -/
def Matches : Node → Taking
  | .empty, c, d => c = d
  | .char s, c, d => ∃ x, c.next? = some (x, d) ∧ s.has x
  | .assertion a, c, d => c = d ∧ c.satisfies a
  | .seq items, c, d => MatchAll items c d
  | .alt branches, c, d => MatchOne branches c d
  | .group _ body, c, d => Matches body c d
  | .repeated low high _ body, c, d =>
    ∃ n, low ≤ n ∧ (∀ most ∈ high, n ≤ most) ∧ Rounds (Matches body) n c d
  | .look true negative body, c, d => c = d ∧ (negative = true ↔ ¬ ∃ e, Matches body c e)
  | .look false negative body, c, d => c = d ∧ (negative = true ↔ ¬ ∃ e, Matches body e c)
  | _, _, _ => False

def MatchAll : List Node → Taking
  | [], c, d => c = d
  | n :: rest, c, d => ∃ m, Matches n c m ∧ MatchAll rest m d

def MatchOne : List Node → Taking
  | [], c, d => c = d
  | [n], c, d => Matches n c d
  | n :: rest, c, d => Matches n c d ∨ MatchOne rest c d

end

theorem matchOneIff {branches : List Node} (present : branches ≠ []) (c d : Cursor) :
    MatchOne branches c d ↔ ∃ n ∈ branches, n.Matches c d := by
  induction branches with
  | nil => contradiction
  | cons n rest ih =>
    cases rest with
    | nil => simp [MatchOne]
    | cons next rest =>
      rw [MatchOne, ih (by simp)]
      simp
      simp

theorem ofItemsMatches (items : List Node) (c d : Cursor) : (ofItems items).Matches c d ↔ MatchAll items c d := by
  rcases items with _ | ⟨n, _ | ⟨next, rest⟩⟩
  · rfl
  · simp [ofItems, MatchAll]
  · rfl

theorem matchAllAppend (front rest : List Node) (c d : Cursor) :
    MatchAll (front ++ rest) c d ↔ ∃ m, MatchAll front c m ∧ MatchAll rest m d := by
  induction front generalizing c with
  | nil => simp [MatchAll]
  | cons n front ih =>
    simp only [List.cons_append, MatchAll, ih]
    constructor
    · rintro ⟨m, first, k, others, last⟩
      exact ⟨k, ⟨m, first, others⟩, last⟩
    · rintro ⟨k, ⟨m, first, others⟩, last⟩
      exact ⟨m, first, k, others, last⟩

section
variable {referenced : List Nat}

theorem altEasy {branches : List Node} :
    (shapeOfAlt referenced branches).hard = false ↔ ∀ n ∈ branches, (n.shape referenced).hard = false := by
  induction branches with
  | nil => simp [shapeOfAlt, Shape.nothing]
  | cons n rest ih =>
    cases rest with
    | nil => simp [shapeOfAlt]
    | cons m rest =>
      rw [shapeOfAlt, Shape.or, List.forall_mem_cons, ← ih]
      · exact Bool.or_eq_false_iff
      · simp

theorem seqEasy {items : List Node} :
    (shapeOfSeq referenced items).hard = false ↔ ∀ n ∈ items, (n.shape referenced).hard = false := by
  induction items with
  | nil => simp [shapeOfSeq, Shape.nothing]
  | cons n rest ih =>
    rw [shapeOfSeq, Shape.followedBy, List.forall_mem_cons, ← ih]
    exact Bool.or_eq_false_iff

theorem shapeOfItems (items : List Node) : (ofItems items).shape referenced = shapeOfSeq referenced items := by
  rcases items with _ | ⟨n, _ | ⟨next, rest⟩⟩
  · rfl
  · simp [ofItems, shapeOfSeq, Shape.followedBy, Shape.nothing]
  · rfl

end

end Node

namespace Lockstep

def Leads (pc : Nat) (c : Cursor) (pc' : Nat) (d : Cursor) : Step → Prop
  | .one s => pc' = pc + 1 ∧ ∃ x, c.next? = some (x, d) ∧ s.has x
  | .check a => pc' = pc + 1 ∧ c = d ∧ c.satisfies a
  | .mark _ => pc' = pc + 1 ∧ c = d
  | .jump target => pc' = ((pc : Int) + target).toNat ∧ c = d
  | .fork first second => (pc' = ((pc : Int) + first).toNat ∨ pc' = ((pc : Int) + second).toNat) ∧ c = d

def Hop (code : List Step) (pc : Nat) (c : Cursor) (pc' : Nat) (d : Cursor) : Prop :=
  ∃ step, code[pc]? = some step ∧ Leads pc c pc' d step

theorem hopsOf {code : List Step} {pc pc' : Nat} {c d : Cursor} {step : Step} (at_ : code[pc]? = some step) :
    Hop code pc c pc' d ↔ Leads pc c pc' d step := by
  simp [Hop, at_]

theorem choiceHops {code : List Step} {pc : Nat} {stay leave : Int} (greedy : Bool) (one other pc' : Nat) (c d : Cursor)
    (at_ : code[pc]? = some (Step.choice greedy stay leave)) (stays : (pc : Int) + stay = one)
    (leaves : (pc : Int) + leave = other) : Hop code pc c pc' d ↔ (pc' = one ∨ pc' = other) ∧ c = d := by
  rw [hopsOf at_]
  cases greedy <;> simp [Step.choice, Leads, stays, leaves, or_comm]

theorem jumpHops {code : List Step} {pc : Nat} {target : Int} (other pc' : Nat) (c d : Cursor)
    (at_ : code[pc]? = some (.jump target)) (leads : (pc : Int) + target = other) :
    Hop code pc c pc' d ↔ pc' = other ∧ c = d := by
  rw [hopsOf at_]
  simp [Leads, leads]

inductive Way (code : List Step) : Nat → Nat → Cursor → Nat → Cursor → Prop where
  | here (pc c) : Way code 0 pc c pc c
  | hop {n pc c pc' c' last d} (first : Hop code pc c pc' c') (others : Way code n pc' c' last d) :
      Way code (n + 1) pc c last d

theorem Way.trans {code : List Step} {n k pc pc' last : Nat} {c c' d : Cursor} (first : Way code n pc c pc' c')
    (others : Way code k pc' c' last d) : ∃ steps, Way code steps pc c last d := by
  induction first with
  | here => exact ⟨k, others⟩
  | hop hop _ ih =>
    obtain ⟨steps, way⟩ := ih others
    exact ⟨steps + 1, .hop hop way⟩

def Placed (block code : List Step) (place : Nat) : Prop :=
  ∃ before after, code = before ++ (block ++ after) ∧ before.length = place

namespace Placed
variable {x : Step} {block first last code : List Step} {place : Nat}

theorem whole (code : List Step) : Placed code code 0 := ⟨[], [], by simp, rfl⟩

theorem left (placed : Placed (first ++ last) code place) : Placed first code place := by
  obtain ⟨before, after, rfl, rfl⟩ := placed
  exact ⟨before, last ++ after, by simp, rfl⟩

theorem right (placed : Placed (first ++ last) code place) : Placed last code (place + first.length) := by
  obtain ⟨before, after, rfl, rfl⟩ := placed
  exact ⟨before ++ first, after, by simp, by simp⟩

theorem head (placed : Placed (x :: block) code place) : code[place]? = some x := by
  obtain ⟨before, after, rfl, rfl⟩ := placed
  simp

theorem tail (placed : Placed (x :: block) code place) : Placed block code (place + 1) :=
  @right [x] block code place placed

end Placed

structure Block (block : List Step) (R : Taking) : Prop where
  leaves : ∀ {code place n c pc d}, Placed block code place → Way code n place c pc d →
    pc < place ∨ place + block.length ≤ pc →
    ∃ m k, k ≤ n ∧ R c m ∧ Way code k (place + block.length) m pc d
  passes : ∀ {code place c m}, Placed block code place → R c m →
    ∃ n, Way code n place c (place + block.length) m

namespace Block
variable {x : Step} {block first last : List Step} {R S : Taking}

theorem congr (made : Block block R) (same : ∀ c d, R c d ↔ S c d) : Block block S where
  leaves placed way outside := by
    obtain ⟨m, k, shorter, taken, rest⟩ := made.leaves placed way outside
    exact ⟨m, k, shorter, (same _ _).mp taken, rest⟩
  passes placed taken := made.passes placed ((same _ _).mpr taken)

theorem nothing : Block [] (fun c d => c = d) where
  leaves _ way _ := ⟨_, _, Nat.le_refl _, rfl, way⟩
  passes := by
    rintro code place c m _ rfl
    exact ⟨0, .here place c⟩

theorem both (front : Block first R) (back : Block last S) :
    Block (first ++ last) (fun c d => ∃ m, R c m ∧ S m d) where
  leaves := by
    intro code place n c pc d placed way outside
    rw [List.length_append] at outside ⊢
    obtain ⟨m, k, shorter, taken, rest⟩ := front.leaves placed.left way (by omega)
    obtain ⟨m', k', shorter', taken', rest'⟩ := back.leaves placed.right rest (by omega)
    rw [Nat.add_assoc] at rest'
    exact ⟨m', k', by omega, ⟨m, taken, taken'⟩, rest'⟩
  passes := by
    rintro code place c d placed ⟨m, taken, taken'⟩
    obtain ⟨n, way⟩ := front.passes placed.left taken
    obtain ⟨k, rest⟩ := back.passes placed.right taken'
    rw [List.length_append, ← Nat.add_assoc]
    exact way.trans rest

theorem single (leads : ∀ pc c pc' d, Leads pc c pc' d x ↔ pc' = pc + 1 ∧ R c d) : Block [x] R where
  leaves := by
    intro code place n c pc d placed way outside
    have short : [x].length = 1 := rfl
    cases way with
    | here => omega
    | hop hop others =>
      obtain ⟨rfl, taken⟩ := (leads _ _ _ _).mp ((hopsOf placed.head).mp hop)
      exact ⟨_, _, Nat.le_succ _, taken, others⟩
  passes placed taken := ⟨1, .hop ((hopsOf placed.head).mpr ((leads _ _ _ _).mpr ⟨rfl, taken⟩)) (.here _ _)⟩

theorem one (s : CharSet) : Block [.one s] (fun c d => ∃ x, c.next? = some (x, d) ∧ s.has x) :=
  single fun _ _ _ _ => Iff.rfl

theorem check (a : Assertion) : Block [.check a] (fun c d => c = d ∧ c.satisfies a) :=
  single fun _ _ _ _ => Iff.rfl

theorem mark (slot : Nat) : Block [.mark slot] (fun c d => c = d) :=
  single fun _ _ _ _ => Iff.rfl

theorem never : Block [.one .empty] (fun _ _ => False) :=
  (one .empty).congr fun c d => by simp [CharSet.has]

theorem optional (made : Block block R) (greedy : Bool) :
    Block (Code.optional greedy block) (fun c d => c = d ∨ R c d) where
  leaves := by
    intro code place n c pc d placed way outside
    have choice {pc' c d} := choiceHops greedy (place + 1)
      (place + (block.length + 1)) pc' c d placed.head rfl (by omega)
    have length : (Code.optional greedy block).length = block.length + 1 := rfl
    rw [length] at outside ⊢
    cases way with
    | here => omega
    | hop hop others =>
      obtain ⟨rfl | rfl, rfl⟩ := choice.mp hop
      · obtain ⟨m, k, shorter, taken, rest⟩ := made.leaves placed.tail others (by omega)
        rw [Nat.add_right_comm] at rest
        exact ⟨m, k, by omega, .inr taken, rest⟩
      · exact ⟨_, _, Nat.le_succ _, .inl rfl, others⟩
  passes := by
    intro code place c m placed taken
    have choice {pc' c d} := choiceHops greedy (place + 1)
      (place + (block.length + 1)) pc' c d placed.head rfl (by omega)
    rcases taken with rfl | taken
    · exact ⟨1, .hop (choice.mpr ⟨.inr rfl, rfl⟩) (.here _ _)⟩
    · obtain ⟨n, way⟩ := made.passes placed.tail taken
      rw [Nat.add_right_comm] at way
      exact ⟨n + 1, .hop (choice.mpr ⟨.inl rfl, rfl⟩) way⟩

theorem plusLength (greedy : Bool) (block : List Step) : (Code.plus greedy block).length = block.length + 1 := by
  simp [Code.plus]

theorem plus (made : Block block R) (greedy : Bool) :
    Block (Code.plus greedy block) (fun c d => ∃ n, Rounds R (n + 1) c d) where
  leaves := by
    intro code place n c pc d placed way outside
    have choice {pc' c d} := choiceHops greedy place
      (place + (block.length + 1)) pc' c d placed.right.head (by omega) (by omega)
    rw [plusLength] at outside ⊢
    induction n using Nat.strongRecOn generalizing c with
    | ind n ih =>
      obtain ⟨m, k, shorter, taken, rest⟩ := made.leaves placed.left way (by omega)
      cases rest with
      | here => omega
      | hop hop others =>
        obtain ⟨rfl | rfl, rfl⟩ := choice.mp hop
        · obtain ⟨e, j, shorter', ⟨n, rounds⟩, rest⟩ := ih _ (by omega) others
          exact ⟨e, j, by omega, ⟨n + 1, .more taken rounds⟩, rest⟩
        · exact ⟨_, _, by omega, ⟨0, .more taken (.none _)⟩, others⟩
  passes := by
    rintro code place c d placed ⟨n, rounds⟩
    have choice {pc' c d} := choiceHops greedy place
      (place + (block.length + 1)) pc' c d placed.right.head (by omega) (by omega)
    rw [plusLength]
    induction n generalizing c with
    | zero =>
      cases rounds with
      | more first none =>
        cases none
        obtain ⟨k, way⟩ := made.passes placed.left first
        exact way.trans (.hop (choice.mpr ⟨.inr rfl, rfl⟩) (.here _ _))
    | succ n ih =>
      cases rounds with
      | more first others =>
        obtain ⟨k, way⟩ := made.passes placed.left first
        obtain ⟨j, rest⟩ := ih others
        exact way.trans (.hop (choice.mpr ⟨.inl rfl, rfl⟩) rest)

theorem starLength (greedy : Bool) (block : List Step) : (Code.star greedy block).length = block.length + 2 := by
  simp [Code.star]

theorem starHops {greedy : Bool} {block code : List Step} {place : Nat} (placed : Placed (Code.star greedy block) code place)
    (pc' : Nat) (c d : Cursor) :
    (Hop code place c pc' d ↔ (pc' = place + 1 ∨ pc' = place + (block.length + 2)) ∧ c = d) ∧
      (Hop code (place + 1 + block.length) c pc' d ↔ pc' = place ∧ c = d) := by
  have back := placed.right.head
  rw [List.length_cons, ← Nat.add_assoc, Nat.add_right_comm] at back
  exact ⟨choiceHops greedy _ _ _ _ _ placed.left.head rfl (by omega), jumpHops _ _ _ _ back (by omega)⟩

theorem star (made : Block block R) (greedy : Bool) :
    Block (Code.star greedy block) (fun c d => ∃ n, Rounds R n c d) where
  leaves := by
    intro code place n c pc d placed way outside
    have choice {pc' c d} := (starHops placed pc' c d).1
    have again {pc' c d} := (starHops placed pc' c d).2
    rw [starLength] at outside ⊢
    induction n using Nat.strongRecOn generalizing c with
    | ind n ih =>
      cases way with
      | here => omega
      | hop hop others =>
        obtain ⟨rfl | rfl, rfl⟩ := choice.mp hop
        · obtain ⟨m, k, shorter, taken, rest⟩ := made.leaves placed.left.tail others (by omega)
          cases rest with
          | here => omega
          | hop hop others =>
            obtain ⟨rfl, rfl⟩ := again.mp hop
            obtain ⟨e, j, shorter', ⟨n, rounds⟩, rest⟩ := ih _ (by omega) others
            exact ⟨e, j, by omega, ⟨n + 1, .more taken rounds⟩, rest⟩
        · exact ⟨_, _, Nat.le_succ _, ⟨0, .none _⟩, others⟩
  passes := by
    rintro code place c d placed ⟨n, rounds⟩
    have choice {pc' c d} := (starHops placed pc' c d).1
    have again {pc' c d} := (starHops placed pc' c d).2
    rw [starLength]
    induction rounds with
    | none c => exact ⟨1, .hop (choice.mpr ⟨.inr rfl, rfl⟩) (.here _ _)⟩
    | @more n c m d first _ ih =>
      obtain ⟨k, way⟩ := made.passes placed.left.tail first
      obtain ⟨j, rest⟩ := ih
      obtain ⟨steps, both⟩ := way.trans (.hop (again.mpr ⟨rfl, rfl⟩) rest)
      exact ⟨steps + 1, .hop (choice.mpr ⟨.inl rfl, rfl⟩) both⟩

theorem upTo (made : Block block R) (greedy : Bool) (n : Nat) :
    Block (Code.upTo greedy block n) (fun c d => ∃ k, k ≤ n ∧ Rounds R k c d) := by
  induction n with
  | zero =>
    refine nothing.congr fun c d => ⟨?_, ?_⟩
    · rintro rfl
      exact ⟨0, Nat.le_refl 0, .none c⟩
    · rintro ⟨k, none, rounds⟩
      cases Nat.le_zero.mp none
      cases rounds
      rfl
  | succ n ih =>
    refine ((made.both ih).optional greedy).congr fun c d => ⟨?_, ?_⟩
    · rintro (rfl | ⟨m, first, k, few, rounds⟩)
      · exact ⟨0, Nat.zero_le _, .none c⟩
      · exact ⟨k + 1, Nat.succ_le_succ few, .more first rounds⟩
    · rintro ⟨k, few, rounds⟩
      cases rounds with
      | none => exact .inl rfl
      | more first others => exact .inr ⟨_, first, _, Nat.le_of_succ_le_succ few, others⟩

theorem times (made : Block block R) (n : Nat) : Block (Code.times block n) (Rounds R n) := by
  induction n with
  | zero =>
    refine nothing.congr fun c d => ⟨?_, ?_⟩
    · rintro rfl
      exact .none c
    · rintro ⟨⟩
      rfl
  | succ n ih =>
    refine (made.both ih).congr fun c d => ⟨?_, ?_⟩
    · rintro ⟨m, first, others⟩
      exact .more first others
    · rintro ⟨⟩
      rename_i m first others
      exact ⟨m, first, others⟩

theorem repeated (made : Block block R) (nullable greedy : Bool) (low : Nat) {high : Option Nat}
    (bounded : ∀ most ∈ high, low ≤ most) :
    Block (Code.repeated nullable greedy low high block)
      (fun c d => ∃ n, low ≤ n ∧ (∀ most ∈ high, n ≤ most) ∧ Rounds R n c d) := by
  unfold Code.repeated
  split
  · refine (made.optional greedy).congr fun c d => ⟨?_, ?_⟩
    · rintro (rfl | taken)
      · exact ⟨0, Nat.le_refl 0, by simp, .none c⟩
      · exact ⟨1, Nat.zero_le 1, by simp, .more taken (.none d)⟩
    · rintro ⟨n, _, few, rounds⟩
      cases rounds with
      | none => exact .inl rfl
      | more first others =>
        cases Nat.le_zero.mp (Nat.le_of_succ_le_succ (few 1 rfl))
        cases others
        exact .inr first
  · split
    · refine ((made.plus greedy).optional greedy).congr fun c d => ⟨?_, ?_⟩
      · rintro (rfl | ⟨n, rounds⟩)
        · exact ⟨0, Nat.le_refl 0, by simp, .none c⟩
        · exact ⟨n + 1, Nat.zero_le _, by simp, rounds⟩
      · rintro ⟨n, _, _, rounds⟩
        cases rounds with
        | none => exact .inl rfl
        | more first others => exact .inr ⟨_, .more first others⟩
    · refine (made.star greedy).congr fun c d => ⟨?_, ?_⟩
      · rintro ⟨n, rounds⟩
        exact ⟨n, Nat.zero_le n, by simp, rounds⟩
      · rintro ⟨n, _, _, rounds⟩
        exact ⟨n, rounds⟩
  · rename_i low
    refine ((made.times low).both (made.plus greedy)).congr fun c d => ⟨?_, ?_⟩
    · rintro ⟨m, first, n, others⟩
      exact ⟨low + (n + 1), by omega, by simp, first.append others⟩
    · rintro ⟨n, many, _, rounds⟩
      obtain ⟨k, rfl⟩ := Nat.exists_eq_add_of_le many
      rw [Nat.succ_add_eq_add_succ] at rounds
      obtain ⟨m, first, others⟩ := rounds.split
      exact ⟨m, first, k, others⟩
  · rename_i most _
    have order := bounded most rfl
    refine ((made.times low).both (made.upTo greedy (most - low))).congr fun c d => ⟨?_, ?_⟩
    · rintro ⟨m, first, n, few, others⟩
      refine ⟨low + n, by omega, ?_, first.append others⟩
      rintro _ ⟨⟩
      omega
    · rintro ⟨n, many, few, rounds⟩
      have few := few most rfl
      obtain ⟨k, rfl⟩ := Nat.exists_eq_add_of_le many
      obtain ⟨m, first, others⟩ := rounds.split
      exact ⟨m, first, k, by omega, others⟩

theorem eitherLength (first last : List Step) :
    (Step.fork 1 (first.length + 2) :: first ++ .jump (last.length + 1) :: last).length =
      first.length + 2 + last.length := by
  simp only [List.length_append, List.length_cons]
  omega

theorem eitherHops {first last code : List Step} {place : Nat}
    (placed : Placed (.fork 1 (first.length + 2) :: first ++ .jump (last.length + 1) :: last) code place)
    (pc' : Nat) (c d : Cursor) :
    (Hop code place c pc' d ↔ (pc' = place + 1 ∨ pc' = place + (first.length + 2)) ∧ c = d) ∧
      (Hop code (place + 1 + first.length) c pc' d ↔ pc' = place + (first.length + 2 + last.length) ∧ c = d) := by
  have jump := placed.right.head
  rw [List.length_cons, ← Nat.add_assoc, Nat.add_right_comm] at jump
  exact ⟨choiceHops true _ _ _ _ _ placed.left.head rfl (by omega), jumpHops _ _ _ _ jump (by omega)⟩

theorem either (front : Block first R) (back : Block last S) :
    Block (.fork 1 (first.length + 2) :: first ++ .jump (last.length + 1) :: last) (fun c d => R c d ∨ S c d) where
  leaves := by
    intro code place n c pc d placed way outside
    have choice {pc' c d} := (eitherHops placed pc' c d).1
    have ends {pc' c d} := (eitherHops placed pc' c d).2
    have behind : Placed last code (place + (first.length + 2)) := placed.right.tail
    rw [eitherLength] at outside ⊢
    cases way with
    | here => omega
    | hop hop others =>
      obtain ⟨rfl | rfl, rfl⟩ := choice.mp hop
      · obtain ⟨m, k, shorter, taken, rest⟩ := front.leaves placed.left.tail others (by omega)
        cases rest with
        | here => omega
        | hop hop others =>
          obtain ⟨rfl, rfl⟩ := ends.mp hop
          exact ⟨_, _, by omega, .inl taken, others⟩
      · obtain ⟨m, k, shorter, taken, rest⟩ := back.leaves behind others (by omega)
        rw [Nat.add_assoc] at rest
        exact ⟨m, k, by omega, .inr taken, rest⟩
  passes := by
    intro code place c d placed taken
    have choice {pc' c d} := (eitherHops placed pc' c d).1
    have ends {pc' c d} := (eitherHops placed pc' c d).2
    have behind : Placed last code (place + (first.length + 2)) := placed.right.tail
    rw [eitherLength]
    rcases taken with taken | taken
    · obtain ⟨n, way⟩ := front.passes placed.left.tail taken
      obtain ⟨steps, both⟩ := way.trans (.hop (ends.mpr ⟨rfl, rfl⟩) (.here _ _))
      exact ⟨steps + 1, .hop (choice.mpr ⟨.inl rfl, rfl⟩) both⟩
    · obtain ⟨n, way⟩ := back.passes behind taken
      rw [Nat.add_assoc] at way
      exact ⟨n + 1, .hop (choice.mpr ⟨.inr rfl, rfl⟩) way⟩

end Block

theorem altBlockOf {branches : List Node} (blocks : ∀ n ∈ branches, Block (Code.ofNode n) n.Matches) :
    Block (Code.ofAlt branches) fun c d =>
      branches.all Node.isEmpty ∧ c = d ∨ ∃ n ∈ branches, n.isEmpty = false ∧ n.Matches c d := by
  induction branches with
  | nil => exact Block.nothing.congr fun c d => by simp
  | cons n rest ih =>
    obtain ⟨here, others⟩ := List.forall_mem_cons.mp blocks
    rw [Code.ofAlt]
    cases empty : n.isEmpty with
    | true => exact (ih others).congr fun c d => by simp [empty]
    | false =>
      cases none : rest.all Node.isEmpty with
      | true =>
        refine here.congr fun c d => ⟨fun taken => .inr ⟨n, List.mem_cons_self, empty, taken⟩, ?_⟩
        rintro (⟨all, _⟩ | ⟨m, mem, solid, taken⟩)
        · simp [empty] at all
        · rcases List.mem_cons.mp mem with rfl | later
          · exact taken
          · rw [List.all_eq_true.mp none m later] at solid
            contradiction
      | false => exact (here.either (ih others)).congr fun c d => by simp [empty, none]

theorem altBlock {branches : List Node} (blocks : ∀ n ∈ branches, Block (Code.ofNode n) n.Matches) :
    Block (Code.ofNode (.alt branches)) (Node.MatchOne branches) := by
  have made := altBlockOf blocks
  have void {n : Node} (empty : n.isEmpty) (c d : Cursor) : n.Matches c d ↔ c = d := by
    cases n <;> first | exact Iff.rfl | contradiction
  rw [Code.ofNode]
  split
  · rename_i some
    obtain ⟨n, mem, empty⟩ := List.any_eq_true.mp some
    refine (made.optional true).congr fun c d => ?_
    rw [Node.matchOneIff (List.ne_nil_of_mem mem)]
    constructor
    · rintro (rfl | ⟨_, rfl⟩ | ⟨m, mem', _, taken⟩)
      · exact ⟨n, mem, (void empty c c).mpr rfl⟩
      · exact ⟨n, mem, (void empty c c).mpr rfl⟩
      · exact ⟨m, mem', taken⟩
    · rintro ⟨m, mem', taken⟩
      cases empty' : m.isEmpty with
      | true => exact .inl ((void empty' c d).mp taken)
      | false => exact .inr (.inr ⟨m, mem', empty', taken⟩)
  · rename_i full
    have solid : ∀ n ∈ branches, n.isEmpty = false := by simpa using full
    refine made.congr fun c d => ?_
    cases branches with
    | nil => simp [Node.MatchOne]
    | cons n rest =>
      rw [Node.matchOneIff (by simp)]
      have present : (n :: rest).all Node.isEmpty = false := by simp [solid n]
      rw [present]
      constructor
      · rintro (⟨⟨⟩, _⟩ | ⟨m, mem, _, taken⟩)
        exact ⟨m, mem, taken⟩
      · rintro ⟨m, mem, taken⟩
        exact .inr ⟨m, mem, solid m mem, taken⟩

mutual

theorem nodeBlock {referenced : List Nat} : ∀ n : Node, (n.shape referenced).hard = false → Code.isBounded n →
    Block (Code.ofNode n) n.Matches
  | .empty, _, _ => .nothing
  | .char s, _, _ => .one s
  | .assertion a, _, _ => .check a
  | .seq items, easy, bounded => seqBlock items (Node.seqEasy.mp easy) bounded
  | .alt branches, easy, bounded => altBlock (nodeBlocks branches (Node.altEasy.mp easy) bounded)
  | .group index body, easy, bounded => by
    simp only [Node.shape, Bool.or_eq_false_iff] at easy
    have inner := (nodeBlock body easy.1 bounded).both (.mark (2 * index + 1))
    refine ((Block.mark (2 * index)).both inner).congr fun c d => ?_
    simp [Node.Matches]
  | .repeated low high greedy body, easy, bounded => by
    have bounded : (_ && _ && Code.isBounded body) = true := bounded
    simp only [Bool.and_eq_true] at bounded
    refine (nodeBlock body easy bounded.2).repeated _ greedy low ?_
    rintro most ⟨⟩
    obtain ⟨⟨_, within⟩, _⟩ := bounded
    simp only [Bool.and_eq_true, decide_eq_true_eq] at within
    exact within.1

theorem seqBlock {referenced : List Nat} : ∀ items : List Node, (∀ n ∈ items, (n.shape referenced).hard = false) →
    Code.areBounded items → Block (Code.ofSeq items) (Node.MatchAll items)
  | [], _, _ => .nothing
  | n :: rest, easy, bounded => by
    rw [Code.areBounded, Bool.and_eq_true] at bounded
    obtain ⟨here, others⟩ := List.forall_mem_cons.mp easy
    exact (nodeBlock n here bounded.1).both (seqBlock rest others bounded.2)

theorem nodeBlocks {referenced : List Nat} : ∀ items : List Node, (∀ n ∈ items, (n.shape referenced).hard = false) →
    Code.areBounded items → ∀ n ∈ items, Block (Code.ofNode n) n.Matches
  | [], _, _ => by simp
  | n :: rest, easy, bounded => by
    rw [Code.areBounded, Bool.and_eq_true] at bounded
    obtain ⟨here, others⟩ := List.forall_mem_cons.mp easy
    exact List.forall_mem_cons.mpr ⟨nodeBlock n here bounded.1, nodeBlocks rest others bounded.2⟩

end

end Lockstep
end ExtendedPattern.Engine
