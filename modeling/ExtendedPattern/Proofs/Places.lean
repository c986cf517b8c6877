import ExtendedPattern.Proofs.Recognition
import ExtendedPattern.Proofs.Translation

/-! Places of a text and the spans between them. A slice from place to place takes whole
characters. A step of one character leads to the next place. -/
namespace ExtendedPattern.Text

structure Cuts (t : Text) (s : Span) : Prop where
  start : t.IsPlace s.start
  stop : t.IsPlace s.stop
  ordered : s.start ≤ s.stop

variable {t : Text} {n m : Nat}

theorem placeAtStart (t : Text) : t.IsPlace 0 := ⟨[], t, rfl, rfl⟩

theorem placeAtEnd (t : Text) : t.IsPlace t.size := ⟨t, [], by simp, rfl⟩

theorem placeInside (place : t.IsPlace n) : n ≤ t.size := by
  obtain ⟨before, after, rfl, rfl⟩ := place
  rw [sizeAppend]
  omega

theorem boundaryOfPlace (place : t.IsPlace n) : t.boundary n = n := by
  obtain ⟨before, after, rfl, rfl⟩ := place
  exact boundaryAtPlace

theorem boundaryIsPlace (t : Text) (n : Nat) : t.IsPlace (t.boundary n) :=
  ⟨t.takeBytes n, t.dropBytes n, (takeBytesDropBytes t n).symm, rfl⟩

theorem boundaryBehind (inside : n ≤ t.size) : n ≤ t.boundary n := by
  induction t generalizing n with
  | nil => exact inside
  | cons c rest ih =>
    simp only [size] at inside
    simp only [boundary, takeBytes]
    split
    · omega
    · have ahead := ih (show n - c.utf8Size ≤ size rest by omega)
      simp only [boundary] at ahead
      simp only [size]
      omega

theorem dropAtStart (t : Text) : t.dropBytes 0 = t := by
  cases t <;> simp [dropBytes]

theorem sizeZero : size t = 0 ↔ t = [] := by
  cases t with
  | nil => simp [size]
  | cons c rest =>
    have positive := c.utf8Size_pos
    simp [size, Nat.ne_of_gt positive]

theorem dropsAll (place : t.IsPlace n) : t.dropBytes n = [] ↔ n = t.size := by
  obtain ⟨before, after, rfl, rfl⟩ := place
  rw [dropBytesSize, sizeAppend, ← sizeZero]
  omega

theorem sliceToPlace (from_ : t.IsPlace n) (behind : t.IsPlace m) (order : n ≤ m) :
    t.slice ⟨n, m⟩ ++ t.dropBytes m = t.dropBytes n := by
  obtain ⟨before, middle, after, rfl, rfl, rfl⟩ := placesOrdered from_ behind order
  have back : dropBytes (before ++ (middle ++ after)) (size (before ++ middle)) = after := by
    rw [← List.append_assoc, dropBytesSize]
  have length : size (before ++ middle) - size before = size middle := by
    rw [sizeAppend]
    omega
  simp only [slice, back, length, dropBytesSize, takeBytesSize]

theorem splitsOnce {before after front rest : Text} (same : before ++ after = front ++ rest)
    (level : size before = size front) : before = front ∧ after = rest := by
  have fronts := takeBytesSize before after
  have rests := dropBytesSize before after
  rw [same, level, takeBytesSize] at fronts
  rw [same, level, dropBytesSize] at rests
  exact ⟨fronts.symm, rests.symm⟩

theorem partToPlace {before after : Text} (place : (before ++ after).IsPlace n) (behind : size before ≤ n) :
    ∃ front rest, after = front ++ rest ∧ n = size (before ++ front) := by
  obtain ⟨start, front, rest, same, level, rfl⟩ := placesOrdered placeBefore place behind
  obtain ⟨rfl, rfl⟩ := splitsOnce same level.symm
  exact ⟨front, rest, rfl, rfl⟩

def placesFrom (t : Text) (n : Nat) : Nat := if t.size < n then 0 else (t.dropBytes n).length + 1

theorem placesFromStart (t : Text) : t.placesFrom 0 = t.length + 1 := by
  simp [placesFrom, dropAtStart]

theorem placesShrink (place : t.IsPlace n) (later : n < m) (next : t.IsPlace m ∨ t.size < m) :
    t.placesFrom m < t.placesFrom n := by
  have inside : ¬ t.size < n := Nat.not_lt.mpr (placeInside place)
  rcases next with next | behind
  · have within : ¬ t.size < m := Nat.not_lt.mpr (placeInside next)
    have joined := congrArg List.length (sliceToPlace place next (Nat.le_of_lt later))
    have present : t.slice ⟨n, m⟩ ≠ [] := by
      obtain ⟨before, middle, after, rfl, rfl, rfl⟩ := placesOrdered place next (Nat.le_of_lt later)
      rw [sizeAppend] at later ⊢
      rw [sliceOfParts]
      rintro rfl
      simp [size] at later
    have positive := List.length_pos_iff.mpr present
    rw [List.length_append] at joined
    simp only [placesFrom, if_neg inside, if_neg within]
    omega
  · simp only [placesFrom, if_pos behind, if_neg inside]
    omega

theorem stepIsPlace (place : t.IsPlace n) :
    n < t.stepFrom n ∧ (t.IsPlace (t.stepFrom n) ∨ t.size < t.stepFrom n) := by
  obtain ⟨before, after, rfl, rfl⟩ := place
  simp only [stepFrom, dropBytesSize]
  cases after with
  | nil =>
    rw [List.append_nil]
    exact ⟨Nat.lt_succ_self _, .inr (Nat.lt_succ_self _)⟩
  | cons c after =>
    have positive := c.utf8Size_pos
    refine ⟨by dsimp only; omega, .inl ⟨before ++ [c], after, by simp, ?_⟩⟩
    simp [sizeAppend, size]

theorem cutsResume {s : Span} {next : Nat} (cuts : t.Cuts s) (goesOn : (if s.isEmpty then t.stepFrom s.stop else s.stop) = next) :
    s.start < next ∧ s.stop ≤ next ∧ (t.IsPlace next ∨ t.size < next) := by
  have order := cuts.ordered
  subst goesOn
  split
  · obtain ⟨ahead, place⟩ := stepIsPlace cuts.stop
    exact ⟨Nat.lt_of_le_of_lt order ahead, Nat.le_of_lt ahead, place⟩
  · rename_i solid
    have apart : s.start ≠ s.stop := fun same => solid (beq_iff_eq.mpr same)
    exact ⟨by omega, Nat.le_refl _, .inl cuts.stop⟩

end ExtendedPattern.Text
