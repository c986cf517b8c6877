import ExtendedPattern.BuiltinRules
import ExtendedPattern.Flags

/-! Sets of flags by their members: what each operation and each letter does to them. -/
namespace ExtendedPattern

def Flag.place : Flag → Nat
  | global => 0
  | ignoreCase => 1
  | multiline => 2
  | explicitCapture => 3
  | dotAll => 4
  | extended => 5
  | sticky => 6

theorem Flag.ofPlace {i : Nat} (inside : i < 7) : ∃ f : Flag, f.place = i := by
  have all : ∀ i : Fin 7, ∃ f ∈ Flag.all, f.place = i := by decide
  obtain ⟨f, _, same⟩ := all ⟨i, inside⟩
  exact ⟨f, same⟩

theorem Flag.ofLetterIff (c : Char) (f : Flag) : ofLetter? c = some f ↔ f.letter = c := by
  constructor
  · intro known
    simpa using List.find?_some known
  · rintro rfl
    exact ofLetterLetter f

namespace FlagSet
variable {a b : FlagSet}

theorem hasPlace (s : FlagSet) (f : Flag) : s.has f = s.bits.getLsbD f.place := by
  obtain ⟨bits⟩ := s
  cases f <;> revert bits <;> decide +kernel

theorem sameMembers (same : ∀ f, a.has f = b.has f) : a = b := by
  obtain ⟨bits⟩ := a
  obtain ⟨bits'⟩ := b
  refine congrArg FlagSet.mk (BitVec.eq_of_getLsbD_eq fun i inside => ?_)
  obtain ⟨f, rfl⟩ := Flag.ofPlace inside
  rw [← hasPlace ⟨bits⟩, ← hasPlace ⟨bits'⟩, same]

@[simp]
theorem hasUnion (a b : FlagSet) (f : Flag) : (a.union b).has f = (a.has f || b.has f) := by
  simp [hasPlace, union]

@[simp]
theorem hasDiff (a b : FlagSet) (f : Flag) : (a.diff b).has f = (a.has f && !b.has f) := by
  have inside : f.place < 7 := by cases f <;> decide
  simp [hasPlace, diff, inside]

@[simp]
theorem hasInter (a b : FlagSet) (f : Flag) : (a.inter b).has f = (a.has f && b.has f) := by
  simp [hasPlace, inter]

@[simp]
theorem hasEmpty (f : Flag) : empty.has f = false := by
  cases f <;> rfl

theorem hasSingle (f g : Flag) : (single f).has g = decide (g = f) := by
  cases f <;> cases g <;> rfl

theorem apart (none : ∀ f, a.has f → b.has f → False) : a.inter b = empty := by
  refine sameMembers fun f => ?_
  rw [hasInter, hasEmpty, Bool.and_eq_false_iff, ← Bool.not_eq_true, ← Bool.not_eq_true]
  by_cases member : a.has f
  · exact .inr (none f member)
  · exact .inl member

def addLetter (s : FlagSet) (c : Char) : Except Failure FlagSet :=
  match Flag.ofLetter? c with
  | some f => .ok (s.union (single f))
  | none => .error (.unknownFlag c)

theorem lettersAdded {letters : Text} {s : FlagSet} (known : letters.foldlM addLetter a = .ok s) (f : Flag) :
    s.has f = true ↔ a.has f = true ∨ f.letter ∈ letters := by
  induction letters generalizing a with
  | nil =>
    cases known
    simp
  | cons c rest ih =>
    rw [List.foldlM_cons, addLetter] at known
    cases letter : Flag.ofLetter? c with
    | none =>
      rw [letter] at known
      cases known
    | some g =>
      rw [letter] at known
      obtain rfl := (Flag.ofLetterIff c g).mp letter
      have same : f.letter = g.letter ↔ f = g := by cases f <;> cases g <;> decide
      rw [ih known, hasUnion, hasSingle, Bool.or_eq_true, decide_eq_true_iff, List.mem_cons, same, or_assoc]

theorem lettersHas {letters : Text} {s : FlagSet} (known : ofLetters letters = .ok s) (f : Flag) :
    s.has f = true ↔ f.letter ∈ letters := by
  rw [lettersAdded (a := empty) known, hasEmpty]
  simp

end FlagSet
end ExtendedPattern
