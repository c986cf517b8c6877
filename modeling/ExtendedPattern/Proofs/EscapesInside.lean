import ExtendedPattern.Engine.ClassReader

/-! Reading inside a group: escapes and classes. What stands behind a part of a group, a bar or a closing
parenthesis, changes nothing that is read of an escape or of a class in front of it. -/
namespace ExtendedPattern.Engine

inductive Fence : Text → Prop where
  | bar (rest : Text) : Fence ('|' :: rest)
  | close (rest : Text) : Fence (')' :: rest)

variable {t u x : Text}

theorem Fence.takeWhile (fence : Fence x) {p : Char → Bool} (bar : p '|' = false) (close : p ')' = false) (t : Text) :
    (t ++ x).takeWhile p = t.takeWhile p := by
  induction t with
  | nil => cases fence <;> simp [bar, close]
  | cons c t ih => simp only [List.cons_append, List.takeWhile_cons, ih]

theorem Fence.noComment (fence : Fence x) (plain : ∀ rest, t = '?' :: '#' :: rest → False) (rest : Text) :
    t ++ x = '?' :: '#' :: rest → False := by
  intro same
  rcases t with _ | ⟨c, _ | ⟨d, t⟩⟩
  · cases fence <;> cases same
  · cases fence <;> cases same
  · simp only [List.cons_append, List.cons.injEq] at same
    obtain ⟨rfl, rfl, _⟩ := same
    exact plain t rfl

theorem dropInside (p : Char → Bool) (t x : Text) :
    (t ++ x).drop (t.takeWhile p).length = t.drop (t.takeWhile p).length ++ x :=
  List.drop_append_of_le_length (List.takeWhile_prefix p).length_le

theorem decimalInside (fence : Fence x) (t : Text) :
    decimal? (t ++ x) = (decimal? t).map fun (n, rest) => (n, rest ++ x) := by
  unfold decimal?
  rw [fence.takeWhile (by decide) (by decide)]
  dsimp only
  split
  · rfl
  split
  · simp [dropInside]
  · rfl

theorem nameInside {close : Char} {name : Text} (read : name? close t = some (name, u)) (fence : Fence x) :
    name? close (t ++ x) = some (name, u ++ x) := by
  unfold name? at read ⊢
  rw [fence.takeWhile (by decide +kernel) (by decide +kernel)]
  dsimp only at read ⊢
  rw [dropInside]
  split at read <;> try contradiction
  rename_i follows
  simp only [follows, List.cons_append]
  split at read <;> cases read
  rename_i named
  exact if_pos named

theorem namedReferenceInside {e : Escape} (read : namedReference? t = some (e, u)) (fence : Fence x) :
    namedReference? (t ++ x) = some (e, u ++ x) := by
  unfold namedReference? at read
  split at read <;> try contradiction
  all_goals
    obtain ⟨⟨name, rest⟩, named, same⟩ := Option.map_eq_some_iff.mp read
    cases same
    simp [namedReference?, nameInside named fence]

theorem hexEscapeInside {digits : Nat} {e : Escape} (read : hexEscape? digits t = some (e, u)) (fence : Fence x) :
    hexEscape? digits (t ++ x) = some (e, u ++ x) := by
  unfold hexEscape? at read ⊢
  dsimp only at read ⊢
  split at read
  · rename_i short
    obtain ⟨c, value, same⟩ := Option.map_eq_some_iff.mp read
    cases same
    have inside : digits ≤ t.length := by
      have length := short.1
      rw [List.length_take] at length
      omega
    rw [List.take_append_of_le_length inside, if_pos short, value, List.drop_append_of_le_length inside]
    rfl
  · rename_i short
    split at read <;> try contradiction
    rename_i rest
    have brace : isHex '{' = false := by decide
    have still : ¬ ((('{' :: rest ++ x).take digits).length = digits ∧ (('{' :: rest ++ x).take digits).all isHex) := by
      cases digits with
      | zero => simp at short
      | succ digits => simp [brace]
    rw [if_neg still]
    simp only [List.cons_append]
    rw [fence.takeWhile (by decide) (by decide), dropInside]
    split at read <;> try contradiction
    rename_i behind follows
    simp only [follows, List.cons_append]
    split at read <;> try contradiction
    rename_i bounded
    obtain ⟨c, value, same⟩ := Option.map_eq_some_iff.mp read
    cases same
    rw [if_pos bounded, value]
    rfl

theorem choiceInside {α : Type} {p : Prop} [Decidable p] {a b a' b' : Option α} {r r' : α}
    (one : a = some r → a' = some r') (other : b = some r → b' = some r') (read : (if p then a else b) = some r) :
    (if p then a' else b') = some r' := by
  split at read
  · exact (if_pos ‹p›).trans (one read)
  · exact (if_neg ‹¬p›).trans (other read)

theorem escapeInside {inClass : Bool} {e : Escape} (read : escape? inClass t = some (e, u)) (fence : Fence x) :
    escape? inClass (t ++ x) = some (e, u ++ x) := by
  cases t with
  | nil => contradiction
  | cons c rest =>
    have stays {e' : Escape} : some (e', rest) = some (e, u) → some (e', rest ++ x) = some (e, u ++ x) := by
      rintro ⟨⟩
      rfl
    have hex {digits : Nat} (read : hexEscape? digits rest = some (e, u)) : hexEscape? digits (rest ++ x) = some (e, u ++ x) :=
      hexEscapeInside read fence
    rw [List.cons_append]
    simp only [escape?] at read ⊢
    refine choiceInside (fun read => ?_) (choiceInside (fun read => namedReferenceInside read fence) fun read => ?_) read
    · rw [← List.cons_append, decimalInside fence]
      obtain ⟨⟨n, behind⟩, number, same⟩ := Option.map_eq_some_iff.mp read
      cases same
      rw [number]
      rfl
    split at read
    · exact stays read
    split at read
    · exact stays read
    refine choiceInside stays (choiceInside stays (choiceInside hex (choiceInside hex (choiceInside hex
      (choiceInside stays (choiceInside stays fun read => ?_)))))) read
    split at read
    · exact stays read
    · exact choiceInside (fun none => by contradiction) stays read

namespace ClassReader

theorem marksInside {fuel more depth : Nat} {ms : List Mark} (read : marks? fuel depth t = some (ms, u)) (fence : Fence x)
    (enough : fuel ≤ more) : marks? more depth (t ++ x) = some (ms, u ++ x) := by
  induction fuel generalizing more depth t ms with
  | zero => contradiction
  | succ fuel ih =>
    obtain ⟨more, rfl⟩ := Nat.exists_eq_add_of_le' (Nat.le_trans (Nat.succ_le_succ (Nat.zero_le fuel)) enough)
    have further (front : List Mark) {depth : Nat} {rest : Text} {ms : List Mark}
        (read : ((marks? fuel depth rest).map fun m => (front ++ m.1, m.2)) = some (ms, u)) :
        ((marks? more depth (rest ++ x)).map fun m => (front ++ m.1, m.2)) = some (ms, u ++ x) := by
      obtain ⟨⟨ms, behind⟩, marks, same⟩ := Option.map_eq_some_iff.mp read
      cases same
      rw [ih marks (Nat.le_of_succ_le_succ enough)]
      rfl
    cases t with
    | nil => contradiction
    | cons c rest =>
      by_cases escaped : c = '\\'
      · subst escaped
        rw [List.cons_append]
        rw [marks?] at read ⊢
        split at read <;> try contradiction
        all_goals
          rename_i escape
          rw [escapeInside escape fence]
        · exact further [.char _] read
        · exact further [.set _] read
        · exact further _ read
      · rw [List.cons_append]
        rw [marks?] at read ⊢
        · split at read
          · rename_i closes
            cases read
            exact if_pos closes
          · rename_i opens
            rw [if_neg opens]
            exact further [.raw c] read
        all_goals exact escaped

theorem frontMarksInside {front ms : List Mark}
    (read : ((marks? (t.length + 1) 0 t).map fun m => (front ++ m.1, m.2)) = some (ms, u)) (fence : Fence x) :
    t ≠ [] ∧ ((marks? ((t ++ x).length + 1) 0 (t ++ x)).map fun m => (front ++ m.1, m.2)) = some (ms, u ++ x) := by
  obtain ⟨⟨ms, behind⟩, marks, same⟩ := Option.map_eq_some_iff.mp read
  cases same
  rw [marksInside marks fence (by simp)]
  refine ⟨?_, rfl⟩
  rintro rfl
  cases marks

def bracketMarks : Text → List Mark × Text
  | ']' :: rest => ([.raw ']'], rest)
  | t => ([], t)

def negationMarks : Text → List Mark × Text
  | '^' :: rest => ([.raw '^'], rest)
  | t => ([], t)

theorem bracketOrdinary {c : Char} (other : c ≠ ']') (rest : Text) : bracketMarks (c :: rest) = ([], c :: rest) := by
  unfold bracketMarks
  split
  · rename_i follows
    exact absurd (List.cons.inj follows).1 other
  · rfl

theorem negationOrdinary {c : Char} (other : c ≠ '^') (rest : Text) : negationMarks (c :: rest) = ([], c :: rest) := by
  unfold negationMarks
  split
  · rename_i follows
    exact absurd (List.cons.inj follows).1 other
  · rfl

def bodyMarks? (negation : List Mark) (t : Text) : Option (List Mark × Text) :=
  (marks? ((bracketMarks t).2.length + 1) 0 (bracketMarks t).2).map fun m => (negation ++ (bracketMarks t).1 ++ m.1, m.2)

theorem openingParts (t : Text) : openingMarks? t = bodyMarks? (negationMarks t).1 (negationMarks t).2 := rfl

theorem bodyMarksInside {negation ms : List Mark} (read : bodyMarks? negation t = some (ms, u)) (fence : Fence x) :
    t ≠ [] ∧ bodyMarks? negation (t ++ x) = some (ms, u ++ x) := by
  cases t with
  | nil => cases read
  | cons c rest =>
    refine ⟨List.cons_ne_nil c rest, ?_⟩
    by_cases bracket : c = ']'
    · subst bracket
      exact (frontMarksInside read fence).2
    · rw [bodyMarks?, bracketOrdinary bracket] at read
      rw [bodyMarks?, List.cons_append, bracketOrdinary bracket]
      exact (frontMarksInside read fence).2

theorem openingMarksInside {ms : List Mark} (read : openingMarks? t = some (ms, u)) (fence : Fence x) :
    openingMarks? (t ++ x) = some (ms, u ++ x) := by
  rw [openingParts] at read ⊢
  cases t with
  | nil => cases read
  | cons c rest =>
    by_cases negation : c = '^'
    · subst negation
      exact (bodyMarksInside read fence).2
    · rw [negationOrdinary negation] at read
      rw [List.cons_append, negationOrdinary negation]
      exact (bodyMarksInside read fence).2

theorem classInside {ignoreCase : Bool} {s : CharSet} {plain : List Char}
    (read : class? ignoreCase t = some (s, plain, u))
    (fence : Fence x) : class? ignoreCase (t ++ x) = some (s, plain, u ++ x) := by
  simp only [class?, Option.bind_eq_bind, Option.bind_eq_some_iff] at read ⊢
  obtain ⟨⟨ms, rest⟩, marks, ⟨set, behind⟩, body, plain, tail, same⟩ := read
  cases same
  exact ⟨_, openingMarksInside marks fence, _, body, _, tail, rfl⟩

end ClassReader

end ExtendedPattern.Engine
