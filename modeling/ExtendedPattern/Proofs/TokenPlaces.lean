import Mathlib.Data.List.TakeWhile
import ExtendedPattern.Proofs.Places

/-! Where native tokens end. Lengths are counted in bytes, but every token takes whole characters of
the text it starts, also where an escape, a group or a repetition is cut off. -/
namespace ExtendedPattern
open Text (size)

namespace Text
variable {t front rest : Text} {n : Nat}

theorem placeAhead (front : Text) (place : rest.IsPlace n) : (front ++ rest).IsPlace (size front + n) := by
  obtain ⟨before, after, rfl, rfl⟩ := place
  exact ⟨front ++ before, after, (List.append_assoc ..).symm, sizeAppend front before⟩

def Begins (p : Char → Prop) (t : Text) (n : Nat) : Prop :=
  ∃ front rest, t = front ++ rest ∧ (∀ c ∈ front, p c) ∧ size front = n

theorem asciiSize {c : Char} (low : c ≤ '\x7f') : c.utf8Size = 1 := Char.utf8Size_eq_one_iff.mpr low

section Begins
variable {p q : Char → Prop}

theorem Begins.place (begins : t.Begins p n) : t.IsPlace n := by
  obtain ⟨front, rest, split, _, length⟩ := begins
  exact ⟨front, rest, split, length⟩

theorem Begins.mono (begins : t.Begins p n) (weaker : ∀ c, p c → q c) : t.Begins q n := by
  obtain ⟨front, rest, split, all, length⟩ := begins
  exact ⟨front, rest, split, fun c mem => weaker c (all c mem), length⟩

theorem Begins.behind {c : Char} (begins : rest.Begins p n) (first : p c) (ascii : c.utf8Size = 1) :
    Begins p (c :: rest) (1 + n) := by
  obtain ⟨front, behind, rfl, all, rfl⟩ := begins
  exact ⟨c :: front, behind, rfl, List.forall_mem_cons.mpr ⟨first, all⟩, by rw [size, ascii]⟩

theorem Begins.within (begins : front.Begins p n) (rest : Text) : (front ++ rest).Begins p n := by
  obtain ⟨before, after, rfl, all, length⟩ := begins
  exact ⟨before, after ++ rest, List.append_assoc .., all, length⟩

theorem beginsNothing (p : Char → Prop) (t : Text) : t.Begins p 0 := ⟨[], t, rfl, nofun, rfl⟩

theorem beginsAscii (rest : Text) (all : ∀ c ∈ front, p c) (ascii : ∀ {c}, p c → c.utf8Size = 1) :
    (front ++ rest).Begins p front.length :=
  ⟨front, rest, rfl, all, sizeOfAscii fun c mem => ascii (all c mem)⟩

end Begins

variable {p : Char → Bool}

theorem takenWhile (t : Text) : t = t.takeWhile p ++ t.drop (t.takeWhile p).length :=
  (List.prefix_iff_eq_append.mp (List.takeWhile_prefix p)).symm

theorem runBegins (ascii : ∀ {c}, p c → c.utf8Size = 1) (t : Text) : t.Begins (p ·) (t.takeWhile p).length := by
  have run : ∀ c ∈ t.takeWhile p, p c := fun _ mem => List.mem_takeWhile_imp mem
  have begins := beginsAscii (t.drop (t.takeWhile p).length) run ascii
  rwa [← takenWhile] at begins

theorem shortRunBegins (ascii : ∀ {c}, p c → c.utf8Size = 1) (most : Nat) (t : Text) :
    t.Begins (p ·) ((t.take most).takeWhile p).length := by
  have begins := (runBegins ascii (t.take most)).within (t.drop most)
  rwa [List.take_append_drop] at begins

end Text

namespace NativeToken
open Text

theorem octalSize {c : Char} (octal : isOctal c) : c.utf8Size = 1 := by
  simp only [isOctal, Bool.and_eq_true, decide_eq_true_eq] at octal
  exact asciiSize (Char.le_trans octal.2 (by decide))

theorem octalDigit {c : Char} (octal : isOctal c) : isDigit c := by
  simp only [isOctal, isDigit, Bool.and_eq_true, decide_eq_true_eq] at octal ⊢
  exact ⟨octal.1, Char.le_trans octal.2 (by decide)⟩

theorem placeBehind {c : Char} {rest : Text} {n : Nat} (ascii : c.utf8Size = 1) (place : rest.IsPlace n) :
    Text.IsPlace (c :: rest) (1 + n) := by
  have ahead := placeAhead [c] place
  rwa [size, size, ascii] at ahead

theorem octalBehind {c : Char} (octal : isOctal c) (rest : Text) :
    ∃ m, octalLength (c :: rest) = 1 + m ∧ rest.Begins (isOctal ·) m := by
  simp only [isOctal, Bool.and_eq_true, decide_eq_true_eq] at octal
  rw [octalLength]
  split
  · exact ⟨_, rfl, shortRunBegins octalSize 2 rest⟩
  rename_i high
  simp only [Bool.and_eq_true, decide_eq_true_eq, octal.1, true_and, Char.not_le] at high
  have above : '4' ≤ c := Nat.succ_le_of_lt high
  rw [if_pos (by simp [above, octal.2])]
  exact ⟨_, rfl, shortRunBegins octalSize 1 rest⟩

theorem octalBegins (t : Text) : t.Begins (isOctal ·) (octalLength t) := by
  cases t with
  | nil => exact beginsNothing _ _
  | cons c rest =>
    by_cases octal : isOctal c
    · obtain ⟨m, length, begins⟩ := octalBehind octal rest
      exact length ▸ begins.behind octal (octalSize octal)
    · have nothing : octalLength (c :: rest) = 0 := by
        rw [octalLength]
        split
        · rename_i first
          simp only [Bool.and_eq_true, decide_eq_true_eq] at first
          have low : c ≤ '7' := Char.le_trans first.2 (by decide)
          exact absurd (by simp [isOctal, first.1, low]) octal
        split
        · rename_i first
          simp only [Bool.and_eq_true, decide_eq_true_eq] at first
          have high : '0' ≤ c := Char.le_trans (by decide) first.1
          exact absurd (by simp [isOctal, high, first.2]) octal
        · rfl
      exact nothing ▸ beginsNothing _ _

def inEscape (c : Char) : Bool := isDigit c || isLetter c || c == '\x7b' || c == '\x7d'

theorem digitInEscape {c : Char} (digit : isDigit c) : inEscape c := by simp [inEscape, digit]

theorem hexInEscape {c : Char} (hex : isHexDigit c) : inEscape c := by
  simp only [isHexDigit, isDigit, Bool.or_eq_true, Bool.and_eq_true, decide_eq_true_eq] at hex
  simp only [inEscape, isDigit, isLetter, Bool.or_eq_true, Bool.and_eq_true, decide_eq_true_eq]
  rcases hex with (digit | lower) | upper
  · exact .inl (.inl (.inl digit))
  · exact .inl (.inl (.inr (.inl ⟨lower.1, Char.le_trans lower.2 (by decide)⟩)))
  · exact .inl (.inl (.inr (.inr ⟨upper.1, Char.le_trans upper.2 (by decide)⟩)))

theorem hexBegins (digits : Nat) (t : Text) : t.Begins (inEscape ·) (hexLength digits t) := by
  unfold hexLength
  split
  · rename_i whole
    simp only [Bool.and_eq_true, decide_eq_true_eq, List.all_eq_true] at whole
    have begins := beginsAscii (t.drop digits) whole.2 hexSize
    rw [List.take_append_drop, whole.1] at begins
    exact begins.mono fun _ => hexInEscape
  · split
    · rename_i rest _
      dsimp only
      split
      · rename_i closed
        simp only [Bool.and_eq_true, beq_iff_eq] at closed
        obtain ⟨behind, follows⟩ := List.head?_eq_some_iff.mp (List.head?_drop.trans closed.2)
        have run : ∀ c ∈ rest.takeWhile isHexDigit, isHexDigit c := fun _ mem => List.mem_takeWhile_imp mem
        have braces : ('\x7b' :: rest) = ('\x7b' :: (rest.takeWhile isHexDigit ++ ['\x7d'])) ++ behind := by
          rw [List.cons_append, List.append_assoc, List.singleton_append, ← follows, ← takenWhile]
        refine ⟨_, behind, braces, ?_, ?_⟩
        · intro c mem
          rw [List.mem_cons, List.mem_append, List.mem_singleton] at mem
          rcases mem with rfl | mem | rfl
          · rfl
          · exact hexInEscape (run c mem)
          · rfl
        · have signs : '\x7b'.utf8Size = 1 ∧ '\x7d'.utf8Size = 1 := ⟨rfl, rfl⟩
          simp only [size, sizeAppend, sizeOfAscii fun c mem => hexSize (run c mem), signs]
          omega
      · exact beginsNothing _ _
    · exact beginsNothing _ _

theorem digitRunSize (t : Text) : size (t.takeWhile isDigit) = digitRun t :=
  sizeOfAscii fun _ mem => digitSize (List.mem_takeWhile_imp mem)

theorem lazyMarkPlace (t : Text) : t.IsPlace (lazyMark t) := by
  unfold lazyMark
  split
  · exact ⟨['?'], _, rfl, rfl⟩
  · exact placeAtStart t

theorem escapeBegins {region : Region} {c : Char} {rest : Text} {n : Nat} (known : escapeLength? region (c :: rest) = some n) :
    ∃ m, n = 1 + c.utf8Size + m ∧ rest.Begins (inEscape ·) m := by
  rw [escapeLength?] at known
  split at known
  · rename_i zero
    simp only [Bool.and_eq_true, decide_eq_true_eq] at zero
    obtain ⟨rfl, _⟩ := zero
    cases known
    exact ⟨_, rfl, (octalBegins rest).mono fun _ octal => digitInEscape (octalDigit octal)⟩
  split at known
  · rename_i number
    simp only [Bool.and_eq_true, decide_eq_true_eq] at number
    have above : '0' ≤ c := Char.le_trans (by decide) number.1.1
    have digit : isDigit c := by simp [isDigit, above, number.1.2]
    cases known
    refine ⟨digitRun rest, ?_, (runBegins digitSize rest).mono fun _ => digitInEscape⟩
    rw [digitSize digit, digitRun, List.takeWhile_cons_of_pos digit, List.length_cons, digitRun]
    omega
  split at known
  · rename_i octal
    obtain ⟨m, length, begins⟩ := octalBehind octal rest
    cases known
    exact ⟨m, by rw [length, octalSize octal]; omega, begins.mono fun _ octal => digitInEscape (octalDigit octal)⟩
  split at known
  · rename_i letter
    subst letter
    cases known
    exact ⟨_, rfl, hexBegins 2 rest⟩
  split at known
  · rename_i letter
    subst letter
    cases known
    exact ⟨_, rfl, hexBegins 4 rest⟩
  split at known
  · rename_i control
    simp only [Bool.and_eq_true, decide_eq_true_eq] at control
    obtain ⟨rfl, letter⟩ := control
    cases known
    cases rest with
    | nil => cases letter
    | cons d rest =>
      have letter : isLetter d := letter
      have first : inEscape d := by simp [inEscape, letter]
      exact ⟨1, rfl, (beginsNothing _ rest).behind first (letterSize letter)⟩
  · cases known
    exact ⟨0, rfl, beginsNothing _ rest⟩

theorem everyEscape (region : Region) (c : Char) (rest : Text) : ∃ n, escapeLength? region (c :: rest) = some n := by
  rw [escapeLength?]
  repeat' split
  all_goals exact ⟨_, rfl⟩

theorem escapePlace {region : Region} {t : Text} {n : Nat} (known : escapeLength? region t = some n) :
    Text.IsPlace ('\\' :: t) n ∧ 0 < n := by
  cases t with
  | nil => cases known
  | cons c rest =>
    obtain ⟨m, rfl, begins⟩ := escapeBegins known
    exact ⟨placeAhead ['\\', c] begins.place, by omega⟩

theorem openerPlace {t : Text} {n : Nat} (known : openerLength? t = some n) :
    Text.IsPlace ('(' :: t) n ∧ 0 < n := by
  unfold openerLength? at known
  split at known <;> cases known
  · exact ⟨⟨['(', '?', ':'], _, rfl, rfl⟩, by decide⟩
  · exact ⟨⟨['(', '?', '='], _, rfl, rfl⟩, by decide⟩
  · exact ⟨⟨['(', '?', '!'], _, rfl, rfl⟩, by decide⟩
  · exact ⟨⟨['(', '?', '<', '='], _, rfl, rfl⟩, by decide⟩
  · exact ⟨⟨['(', '?', '<', '!'], _, rfl, rfl⟩, by decide⟩

theorem closedPlace (rest : Text) : Text.IsPlace ('}' :: rest) (1 + lazyMark rest) :=
  placeBehind rfl (lazyMarkPlace rest)

theorem repeatPlace {t : Text} {n : Nat} (known : repeatLength? t = some n) :
    Text.IsPlace ('{' :: t) n ∧ 0 < n := by
  have behindRun {t rest : Text} {n : Nat} (follows : t.drop (digitRun t) = rest) (place : rest.IsPlace n) :
      t.IsPlace (digitRun t + n) := by
    have ahead := placeAhead (t.takeWhile isDigit) place
    rwa [← follows, digitRun, ← takenWhile, digitRunSize, digitRun] at ahead
  unfold repeatLength? at known
  dsimp only at known
  split at known
  · cases known
  split at known
  · rename_i rest follows
    cases known
    have place := placeBehind (c := '{') rfl (behindRun follows (closedPlace rest))
    exact ⟨by convert place using 1; omega, by omega⟩
  · rename_i rest follows
    split at known
    · rename_i more follows'
      cases known
      have high := placeBehind (c := ',') rfl (behindRun follows' (closedPlace more))
      have place := placeBehind (c := '{') rfl (behindRun follows high)
      exact ⟨by convert place using 1; omega, by omega⟩
    · cases known
  · cases known

theorem lengthPlace {region : Region} {t : Text} {n : Nat} (known : length? region t = some n) :
    t.IsPlace n ∧ 0 < n := by
  unfold length? at known
  split at known
  · cases known
  rename_i c rest
  split at known
  · rename_i backslash
    exact backslash ▸ escapePlace known
  split at known
  · cases known
  split at known
  · rename_i opener
    exact opener ▸ openerPlace known
  split at known
  · rename_i mark
    simp only [Bool.or_eq_true, decide_eq_true_eq] at mark
    split at known
    · rename_i lazily
      cases known
      obtain ⟨behind, rfl⟩ := List.head?_eq_some_iff.mp lazily
      have single : c.utf8Size = 1 := by
        rcases mark with (rfl | rfl) | rfl <;> rfl
      exact ⟨placeBehind single ⟨['?'], behind, rfl, rfl⟩, by decide⟩
    · cases known
  split at known
  · rename_i brace
    exact brace ▸ repeatPlace known
  · cases known

theorem lengthTakes {region : Region} {c : Char} {tail : Text} {n : Nat} (known : length? region (c :: tail) = some n) :
    ∃ front rest, tail = front ++ rest ∧ n = size (c :: front) := by
  obtain ⟨⟨token, rest, parts, rfl⟩, positive⟩ := lengthPlace known
  cases token with
  | nil => cases positive
  | cons d front =>
    rw [List.cons_append] at parts
    cases parts
    exact ⟨front, rest, rfl, rfl⟩

end NativeToken
end ExtendedPattern
