import ExtendedPattern.Proofs.SearchSpans
import ExtendedPattern.Split

/-! Splitting with a limit. The loop goes the way it goes without one and may leave it early, in the middle of a
separator's groups even. What the longer way adds stands behind what has been split off by then. -/
namespace ExtendedPattern

namespace Split
variable {search : Iteration.Searcher} {length fuel start : Nat} {limit : Option Nat} {s t u : Progress} {m : Match}

structure Progress.Grows (s t : Progress) : Prop where
  pieces : s.pieces <+: t.pieces
  lastEnd : s.lastEnd ≤ t.lastEnd

theorem Progress.Grows.refl (s : Progress) : s.Grows s := ⟨List.prefix_rfl, Nat.le_refl _⟩

theorem Progress.Grows.trans (first : s.Grows t) (second : t.Grows u) : s.Grows u :=
  ⟨first.pieces.trans second.pieces, Nat.le_trans first.lastEnd second.lastEnd⟩

theorem Progress.cutGrows (behind : s.lastEnd < m.stop) (cut : s.cut m = .ok u) : s.Grows u ∧ u.lastEnd = m.stop := by
  obtain ⟨piece, _, rfl⟩ := mapOk cut
  exact ⟨⟨List.prefix_append _ _, Nat.le_of_lt behind⟩, rfl⟩

theorem limitedRound (search : Iteration.Searcher) (length : Nat) (limit : Option Nat) (fuel start : Nat) (s : Progress) :
    separate search length limit (fuel + 1) start s =
      if length < start then .ok s
      else match search start with
        | .error e => .error e
        | .ok none => .ok s
        | .ok (some m) =>
          if s.lastEnd < m.stop then (s.cut m).bind fun u =>
            if isReached limit u.pieces then .ok u else separate search length limit fuel m.resume u
          else separate search length limit fuel m.resume s := by
  rw [separate]
  split
  · rfl
  · cases search start with
    | error e => rfl
    | ok found => cases found <;> rfl

theorem roundGoesOn (separated : separate search length none (fuel + 1) start s = .ok t) :
    (t = s ∧ ∀ limit, separate search length limit (fuel + 1) start s = .ok s) ∨
      ∃ m, ¬ length < start ∧ search start = .ok (some m) ∧
        ((∃ u, s.lastEnd < m.stop ∧ s.cut m = .ok u ∧ separate search length none fuel m.resume u = .ok t) ∨
          ¬ s.lastEnd < m.stop ∧ separate search length none fuel m.resume s = .ok t) := by
  simp only [limitedRound] at separated ⊢
  split at separated
  · rename_i beyond
    exact .inl ⟨(Except.ok.inj separated).symm, fun _ => if_pos beyond⟩
  rename_i inside
  simp only [if_neg inside]
  split at separated
  · cases separated
  · rename_i missed
    exact .inl ⟨(Except.ok.inj separated).symm, fun _ => rfl⟩
  · rename_i m found
    refine .inr ⟨m, inside, found, ?_⟩
    split at separated
    · rename_i behind
      obtain ⟨u, cut, more⟩ := bindOk separated
      exact .inl ⟨u, behind, cut, more⟩
    · rename_i level
      exact .inr ⟨level, separated⟩

theorem separateGrows (separated : separate search length none fuel start s = .ok t) : s.Grows t := by
  induction fuel generalizing start s with
  | zero => cases separated
  | succ fuel ih =>
    obtain ⟨rfl, _⟩ | ⟨m, _, _, ⟨u, behind, cut, more⟩ | ⟨_, more⟩⟩ := roundGoesOn separated
    · exact .refl _
    · exact (Progress.cutGrows behind cut).1.trans (ih more)
    · exact ih more

theorem separateInside (inside : ∀ {start m}, search start = .ok (some m) → m.stop ≤ length) (begun : s.lastEnd ≤ length)
    (separated : separate search length none fuel start s = .ok t) : t.lastEnd ≤ length := by
  induction fuel generalizing start s with
  | zero => cases separated
  | succ fuel ih =>
    obtain ⟨rfl, _⟩ | ⟨m, _, found, ⟨u, behind, cut, more⟩ | ⟨_, more⟩⟩ := roundGoesOn separated
    · exact begun
    · exact ih ((Progress.cutGrows behind cut).2 ▸ inside found) more
    · exact ih begun more

theorem limitedSeparates (n : Nat) (separated : separate search length none fuel start s = .ok t) :
    ∃ u, separate search length (some n) fuel start s = .ok u ∧ (u = t ∨ n ≤ u.pieces.length ∧ u.Grows t) := by
  induction fuel generalizing start s with
  | zero => cases separated
  | succ fuel ih =>
    obtain ⟨rfl, ends⟩ | ⟨m, inside, found, ⟨u, behind, cut, more⟩ | ⟨level, more⟩⟩ := roundGoesOn separated
    · exact ⟨_, ends _, .inl rfl⟩
    · simp only [limitedRound, if_neg inside, found, if_pos behind, cut, Except.bind]
      by_cases enough : n ≤ u.pieces.length
      · have reached : isReached (some n) u.pieces := by simpa [isReached] using enough
        exact ⟨u, if_pos reached, .inr ⟨enough, separateGrows more⟩⟩
      · have open_ : ¬ isReached (some n) u.pieces := by simpa [isReached] using enough
        rw [if_neg open_]
        exact ih more
    · simp only [limitedRound, if_neg inside, found, if_neg level]
      exact ih more

/-- What stands behind the last separator, unless it may be left out. -/
def closing (p : Pattern) (subject : Text) (s : Progress) : Except Failure (List (Option Text)) :=
  if s.lastEnd = subject.size then
    (p.isMatch []).map fun matchesNothing => if !matchesNothing || s.lastSeparator.any (0 < ·) then [some []] else []
  else .ok [some (subject.dropBytes s.lastEnd)]

theorem splitCloses (p : Pattern) (subject : Text) {limit : Option Nat} (some : limit ≠ some 0) : p.split subject limit =
    (separate (p.searcher subject) subject.size limit (Iteration.rounds subject) 0 {}).bind fun s =>
      (closing p subject s).map fun last => capped limit (s.pieces ++ last) := by
  rw [Pattern.split, if_neg some]
  cases separate (p.searcher subject) subject.size limit (Iteration.rounds subject) 0 {} with
  | error e => rfl
  | ok s =>
    simp only [bind, Except.bind, closing]
    split
    · cases p.isMatch [] <;> rfl
    · rfl

theorem closesEarlier {p : Pattern} {subject : Text} (order : s.lastEnd ≤ t.lastEnd) (inside : t.lastEnd ≤ subject.size)
    {last : List (Option Text)} (closed : closing p subject t = .ok last) : ∃ front, closing p subject s = .ok front := by
  unfold closing at closed ⊢
  split
  · rename_i atEnd
    rw [if_pos (Nat.le_antisymm inside (atEnd ▸ order))] at closed
    obtain ⟨_, asked, _⟩ := mapOk closed
    rw [asked]
    exact ⟨_, rfl⟩
  · exact ⟨_, rfl⟩

end Split

/-- At most `n` items are those that come first of all. -/
theorem limitedSplitIsPrefix (p : Pattern) (subject : Text) (n : Nat) {items : List (Option Text)}
    (split : p.split subject none = .ok items) : p.split subject (some n) = .ok (items.take (min n items.length)) := by
  rw [← List.take_eq_take_min]
  by_cases nothing : n = 0
  · subst nothing
    rfl
  have limited : some n ≠ some 0 := fun same => nothing (Option.some.inj same)
  have unlimited : (none : Option Nat) ≠ some 0 := nofun
  rw [Split.splitCloses p subject unlimited] at split
  rw [Split.splitCloses p subject limited]
  obtain ⟨t, separated, split⟩ := bindOk split
  obtain ⟨last, closed, rfl⟩ := mapOk split
  obtain ⟨u, runs, rfl | ⟨enough, grows⟩⟩ := Split.limitedSeparates n separated
  · rw [runs]
    simp only [Except.bind, closed]
    rfl
  · have inside := Split.separateInside (fun found => Pattern.execAtStop found) (Nat.zero_le _) separated
    obtain ⟨front, closes⟩ := Split.closesEarlier grows.lastEnd inside closed
    obtain ⟨more, same⟩ := grows.pieces
    rw [runs]
    simp only [Except.bind, closes, Except.map, Split.capped]
    rw [List.take_append_of_le_length enough, ← same, List.append_assoc, List.take_append_of_le_length enough]

theorem limitInsideSeparator :
    ∃ p items, Pattern.ofNative "(,)(;)?".toList .empty = .ok p ∧ p.split "a,b,;c".toList none = .ok items ∧
      items.length = 7 ∧ p.split "a,b,;c".toList (some 5) = .ok (items.take (min 5 items.length)) := by
  have facts : (Pattern.ofNative "(,)(;)?".toList .empty).toOption.map (fun p =>
      (p.split "a,b,;c".toList none).toOption.map List.length) = some (some 7) := by
    decide +kernel
  cases built : Pattern.ofNative "(,)(;)?".toList .empty with
  | error e =>
    rw [built] at facts
    cases facts
  | ok p =>
    rw [built] at facts
    cases split : p.split "a,b,;c".toList none with
    | error e =>
      rw [Except.toOption, Option.map_some, split] at facts
      cases facts
    | ok items =>
      rw [Except.toOption, Option.map_some, split] at facts
      exact ⟨p, items, rfl, split, Option.some.inj (Option.some.inj facts), limitedSplitIsPrefix p _ 5 split⟩

end ExtendedPattern
