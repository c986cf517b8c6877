import ExtendedPattern.Proofs.ClassBodies
import ExtendedPattern.Proofs.Complements

/-! What class bodies list. Without the marks in front of its numbers a body is data for the same ranges, so what is
written of a set is read back, the surrogates apart; the bodies of a set and of its complement share out the plane. -/
namespace ExtendedPattern.CodePointSet

inductive Numeral : Text → Nat → Prop where
  | marked {t : Text} {vs : List Nat} (four : t.length = 4) (digits : Digits t vs) :
      Numeral ('\\' :: 'u' :: t) (Nat.ofDigits 16 vs.reverse)

inductive Body : Text → List (Nat × Nat) → Prop where
  | nothing : Body [] []
  | single {numeral rest : Text} {n : Nat} {items : List (Nat × Nat)} (one : Numeral numeral n) (more : Body rest items) :
      Body (numeral ++ rest) ((n, n) :: items)
  | range {numeral numeral' rest : Text} {first last : Nat} {items : List (Nat × Nat)} (one : Numeral numeral first)
      (two : Numeral numeral' last) (order : first ≤ last) (more : Body rest items) :
      Body (numeral ++ '-' :: (numeral' ++ rest)) ((first, last) :: items)

def unmarked : Text → Text
  | '\\' :: 'u' :: rest => unmarked rest
  | c :: rest => c :: unmarked rest
  | [] => []

def codePoints (rs : List (Nat × Nat)) : List Nat := rs.flatMap fun r => List.range' r.1 (r.2 + 1 - r.1)

variable {n low : Nat} {r : Nat × Nat} {rs items : List (Nat × Nat)} {t rest : Text} {s : CodePointSet}

theorem unmarkedPlain (plain : ∀ c ∈ t, c ≠ '\\') : unmarked (t ++ rest) = t ++ unmarked rest := by
  induction t with
  | nil => rfl
  | cons c t ih =>
    obtain ⟨first, others⟩ := List.forall_mem_cons.mp plain
    rw [List.cons_append, unmarked, ih others, List.cons_append]
    exact fun _ mark _ => first mark

theorem numeralUnmarked (one : Numeral t n) (rest : Text) :
    ∃ field, Field field n ∧ unmarked (t ++ rest) = field ++ unmarked rest := by
  cases one with
  | @marked t _ four digits =>
    have plain : ∀ c ∈ t, c ≠ '\\' := by
      rintro _ mem rfl
      cases digitsHex digits _ mem
    exact ⟨t, .digits four digits, unmarkedPlain plain⟩

theorem bodyUnmarked (body : Body t items) : Lists (unmarked t) items := by
  induction body with
  | nothing => exact .nothing
  | @single _ rest _ _ one _ ih =>
    obtain ⟨field, value, unmarks⟩ := numeralUnmarked one rest
    rw [unmarks]
    exact .single value ih
  | @range _ _ rest _ _ _ one two order _ ih =>
    obtain ⟨field, value, unmarks⟩ := numeralUnmarked one _
    obtain ⟨field', value', unmarks'⟩ := numeralUnmarked two rest
    have dash (t : Text) : unmarked ('-' :: t) = '-' :: unmarked t := by simp [unmarked]
    rw [unmarks, dash, unmarks']
    exact .range value value' order ih

theorem unitNumeral (inside : n ≤ lastCodePoint) : Numeral (unit n) n := by
  obtain ⟨vs, digits, value⟩ := numberRead.mp (hexRead 4 n)
  have numeral := Numeral.marked (hexLong inside) digits
  rwa [← value] at numeral

theorem renderedBody (inside : ∀ r ∈ rs, r.1 ≤ r.2 ∧ r.2 ≤ lastCodePoint) : Body (rs.flatMap renderRange) rs := by
  induction rs with
  | nil => exact .nothing
  | cons r rs ih =>
    obtain ⟨⟨order, inner⟩, others⟩ := List.forall_mem_cons.mp inside
    have first : Numeral (unit r.1) r.1 := unitNumeral (Nat.le_trans order inner)
    rw [List.flatMap_cons, renderRange]
    split
    · rename_i single
      have one : r = (r.1, r.1) := Prod.ext rfl single.symm
      rw [one]
      exact .single first (ih others)
    · rw [List.append_assoc, List.cons_append]
      exact .range first (unitNumeral inner) order (ih others)

theorem classBodyLists (ascend : Ascend 0 s.ranges) : Body s.classBody s.members :=
  renderedBody fun _ => ascendEach (membersAscend ascend)

theorem codePointsWithin : n ∈ codePoints rs ↔ Within rs n := by
  have single (r : Nat × Nat) : n ∈ List.range' r.1 (r.2 + 1 - r.1) ↔ r.1 ≤ n ∧ n ≤ r.2 := by
    rw [List.mem_range'_1]
    omega
  simp only [codePoints, List.mem_flatMap, single, Within]

theorem codePointsNodup (ascend : Ascend low rs) : (codePoints rs).Nodup := by
  induction rs generalizing low with
  | nil => exact .nil
  | cons r rest ih =>
    obtain ⟨_, _, _, later⟩ := ascend
    refine List.nodup_append.mpr ⟨List.nodup_range', ih later, ?_⟩
    rintro n here _ there rfl
    have behind := ascendBehind later (codePointsWithin.mp there)
    have before := List.mem_range'_1.mp here
    omega

theorem membersCount (ascend : Ascend 0 s.ranges) :
    (codePoints s.members).count n = if Within s.ranges n ∧ ¬ (0xD800 ≤ n ∧ n ≤ 0xDFFF) then 1 else 0 := by
  have once : (codePoints s.members).Nodup := codePointsNodup (membersAscend ascend)
  rw [once.count]
  simp only [codePointsWithin, members, membersWithin]

theorem membersShared (canonical : s.Canonical) : (codePoints (s.members ++ s.invert.members)).count n =
    if n ≤ 0xD7FF ∨ (0xE000 ≤ n ∧ n ≤ 0xFFFF) then 1 else 0 := by
  have parts : codePoints (s.members ++ s.invert.members) = codePoints s.members ++ codePoints s.invert.members :=
    List.flatMap_append
  rw [parts, List.count_append, membersCount canonical.ascends, membersCount canonical.invert.ascends]
  simp only [canonical.inverted, lastCodePoint]
  by_cases within : Within s.ranges n
  · have inside : n ≤ 0xFFFF := canonical.plane within
    simp only [within, not_true_eq_false, and_false, false_and, true_and, if_false, Nat.add_zero]
    exact if_congr (by omega) rfl rfl
  · simp only [within, not_false_eq_true, and_true, false_and, if_false, Nat.zero_add]
    exact if_congr (by omega) rfl rfl

/-- Without its marks the body of a set is data for the set without the surrogates. The bodies of the set and of its
complement together list every other code point of the plane once, and nothing else. -/
theorem bodiesShareCodePoints {data : Text} (read : parse data = .ok s) :
    (∃ t, parse (unmarked s.classBody) = .ok t ∧ t.Canonical ∧
        ∀ n, Within t.ranges n ↔ Within s.ranges n ∧ ¬ (0xD800 ≤ n ∧ n ≤ 0xDFFF)) ∧
      ∃ here there, Body s.classBody here ∧ Body s.invert.classBody there ∧
        ∀ n, (codePoints (here ++ there)).count n = if n ≤ 0xD7FF ∨ (0xE000 ≤ n ∧ n ≤ 0xFFFF) then 1 else 0 := by
  have canonical := parsedCanonical read
  have here := classBodyLists canonical.ascends
  have there := classBodyLists canonical.invert.ascends
  have lists := bodyUnmarked here
  obtain ⟨reduced, same⟩ := ofRangesCanonical lists
  exact ⟨⟨_, parseListed lists, reduced, fun n => (same n).trans membersWithin⟩,
    _, _, here, there, fun n => membersShared canonical⟩

theorem surrogatesAreLeftOut :
    parse "D7FF-D800DFFF-E001FFFF".toList = .ok ⟨[(0xD7FF, 0xD800), (0xDFFF, 0xE001), (0xFFFF, 0xFFFF)]⟩ ∧
      classBody ⟨[(0xD7FF, 0xD800), (0xDFFF, 0xE001), (0xFFFF, 0xFFFF)]⟩ = "\\uD7FF\\uE000-\\uE001\\uFFFF".toList ∧
      (∃ t, parse "D7FFE000-E001FFFF".toList = .ok t ∧ t.Canonical ∧ Within t.ranges 0xE000 ∧ ¬ Within t.ranges 0xDFFF) ∧
      ∃ here there, Body "\\uD7FF\\uE000-\\uE001\\uFFFF".toList here ∧ Body "\\u0000-\\uD7FE\\uE002-\\uFFFE".toList there ∧
        (codePoints (here ++ there)).count 0xE001 = 1 ∧ (codePoints (here ++ there)).count 0xD801 = 0 := by
  have read : parse "D7FF-D800DFFF-E001FFFF".toList = .ok ⟨[(0xD7FF, 0xD800), (0xDFFF, 0xE001), (0xFFFF, 0xFFFF)]⟩ := by decide
  have body : classBody ⟨[(0xD7FF, 0xD800), (0xDFFF, 0xE001), (0xFFFF, 0xFFFF)]⟩ = "\\uD7FF\\uE000-\\uE001\\uFFFF".toList := by
    decide
  have other : classBody (invert ⟨[(0xD7FF, 0xD800), (0xDFFF, 0xE001), (0xFFFF, 0xFFFF)]⟩) =
      "\\u0000-\\uD7FE\\uE002-\\uFFFE".toList := by
    decide
  obtain ⟨⟨t, reread, canonical, members⟩, here, there, first, second, count⟩ := bodiesShareCodePoints read
  rw [body] at reread first
  rw [other] at second
  exact ⟨read, body, ⟨t, reread, canonical, (members _).mpr (by decide), fun within => ((members _).mp within).2 (by decide)⟩,
    here, there, first, second, count _, count _⟩

end ExtendedPattern.CodePointSet
