import ExtendedPattern.Proofs.CodePointData

/-! What is kept of data is its canonical set: ranges in order, with a code point missing between any two. Only one
canonical set has given members, so data with the same code points gives the same set. -/
namespace ExtendedPattern.CodePointSet

structure Canonical (s : CodePointSet) : Prop where
  inside : ∀ r ∈ s.ranges, r.1 ≤ r.2 ∧ r.2 ≤ 0xFFFF
  apart : s.ranges.Pairwise fun a b => a.2 + 1 < b.1

variable {n low : Nat} {r q : Nat × Nat} {rs qs items : List (Nat × Nat)} {s t : CodePointSet}

theorem spacedIff : Spaced low rs ↔ (∀ r ∈ rs, r.1 ≤ r.2 ∧ r.2 ≤ lastCodePoint) ∧ (∀ r ∈ rs, low ≤ r.1) ∧
    rs.Pairwise fun a b => a.2 + 1 < b.1 := by
  induction rs generalizing low with
  | nil => simp [Spaced]
  | cons r rest ih =>
    rw [Spaced, ih, List.forall_mem_cons, List.forall_mem_cons, List.pairwise_cons]
    constructor
    · rintro ⟨order, inner, outer, inside, behind, apart⟩
      refine ⟨⟨⟨inner, outer⟩, inside⟩, ⟨order, fun q mem => ?_⟩, behind, apart⟩
      have := behind q mem
      omega
    · rintro ⟨⟨⟨inner, outer⟩, inside⟩, ⟨order, _⟩, behind, apart⟩
      exact ⟨order, inner, outer, inside, behind, apart⟩

theorem canonicalIff : s.Canonical ↔ Spaced 0 s.ranges := by
  rw [spacedIff]
  exact ⟨fun ⟨inside, apart⟩ => ⟨inside, fun _ _ => Nat.zero_le _, apart⟩, fun ⟨inside, _, apart⟩ => ⟨inside, apart⟩⟩

theorem Canonical.ascends (canonical : s.Canonical) : Ascend 0 s.ranges := (canonicalIff.mp canonical).ascends

theorem spacedBehind (spaced : Spaced low rs) (within : Within rs n) : low ≤ n := ascendBehind spaced.ascends within

theorem spacedFirst (spaced : Spaced low (r :: rs)) : Within (r :: rs) r.1 := withinCons.mpr (.inl ⟨Nat.le_refl _, spaced.2.1⟩)

theorem spacedRest (spaced : Spaced low (r :: rs)) : Within rs n ↔ Within (r :: rs) n ∧ r.2 + 1 < n := by
  rw [withinCons]
  constructor
  · exact fun later => ⟨.inr later, spacedBehind spaced.2.2.2 later⟩
  · rintro ⟨here | later, behind⟩
    · omega
    · exact later

theorem startsNoLater (spaced : Spaced low (r :: rs)) (other : Spaced low (q :: qs))
    (more : ∀ n, Within (q :: qs) n → Within (r :: rs) n) : r.1 ≤ q.1 := by
  have reached : Spaced r.1 (r :: rs) := ⟨Nat.le_refl _, spaced.2⟩
  exact spacedBehind reached (more _ (spacedFirst other))

theorem endsNoEarlier (spaced : Spaced low (r :: rs)) (level : r.1 = q.1)
    (more : ∀ n, Within (q :: qs) n → Within (r :: rs) n) : q.2 ≤ r.2 := by
  by_contra longer
  have next : Within (q :: qs) (r.2 + 1) := by
    have inner := spaced.2.1
    exact withinCons.mpr (.inl (by omega))
  rcases withinCons.mp (more _ next) with here | later
  · omega
  · have behind := spacedBehind spaced.2.2.2 later
    omega

theorem spacedSame (spaced : Spaced low rs) (other : Spaced low qs) (same : ∀ n, Within rs n ↔ Within qs n) : rs = qs := by
  induction rs generalizing low qs with
  | nil =>
    cases qs with
    | nil => rfl
    | cons q qs => exact absurd ((same _).mpr (spacedFirst other)) (by simp [Within])
  | cons r rs ih =>
    cases qs with
    | nil => exact absurd ((same _).mp (spacedFirst spaced)) (by simp [Within])
    | cons q qs =>
      have starts : r.1 = q.1 := Nat.le_antisymm (startsNoLater spaced other fun n => (same n).mpr)
        (startsNoLater other spaced fun n => (same n).mp)
      have ends : r.2 = q.2 := Nat.le_antisymm (endsNoEarlier other starts.symm fun n => (same n).mp)
        (endsNoEarlier spaced starts fun n => (same n).mpr)
      obtain rfl : r = q := Prod.ext starts ends
      rw [ih spaced.2.2.2 other.2.2.2 fun n => by rw [spacedRest spaced, spacedRest other, same]]

theorem Canonical.unique (first : s.Canonical) (second : t.Canonical) (same : ∀ n, Within s.ranges n ↔ Within t.ranges n) :
    s = t := by
  have ranges : s.ranges = t.ranges := spacedSame (canonicalIff.mp first) (canonicalIff.mp second) same
  cases s
  exact congrArg CodePointSet.mk ranges

theorem ofRangesCanonical {data : Text} (lists : Lists data items) :
    (ofRanges items).Canonical ∧ ∀ n, Within (ofRanges items).ranges n ↔ Within items n := by
  obtain ⟨spaced, same⟩ := ofRangesKeeps (listedInside lists)
  exact ⟨canonicalIff.mpr spaced, same⟩

theorem parseListed {data : Text} (lists : Lists data items) : parse data = .ok (ofRanges items) := by
  rw [parse, itemsRead.mpr lists]

def refusal (data : Text) : Failure := .malformedToken ("bad code point data: ".toList ++ Quoted.ofText data)

theorem parseUnlisted {data : Text} (none : ∀ items, ¬ Lists data items) : parse data = .error (refusal data) := by
  rw [parse]
  cases read : items? data with
  | none => rfl
  | some items => exact absurd (itemsRead.mp read) (none items)

theorem parsedCanonical {data : Text} (read : parse data = .ok s) : s.Canonical := by
  rw [parse] at read
  split at read <;> try contradiction
  rename_i listed
  cases read
  exact (ofRangesCanonical (itemsRead.mp listed)).1

/-- Text is read exactly when it is a run of fields and pairs of fields in order. What is read is the one canonical
set with the code points of its items, however they are listed. -/
theorem parsedSetIsCanonical (data : Text) :
    ((∃ s, parse data = .ok s) ↔ ∃ items, Lists data items) ∧
      ((∀ items, ¬ Lists data items) → parse data = .error (refusal data)) ∧
      (∀ c v, hexValue? c = some v ↔ v < 16 ∧ (c = v.digitChar ∨ c = v.digitChar.toUpper)) ∧
      (∀ items, Lists data items → ∀ s,
        parse data = .ok s ↔ s.Canonical ∧ ∀ n, Within s.ranges n ↔ Within items n) ∧
      ∀ other items items', Lists data items → Lists other items' →
        (parse data = parse other ↔ ∀ n, Within items n ↔ Within items' n) := by
  have reads (items : List (Nat × Nat)) (lists : Lists data items) (s : CodePointSet) :
      parse data = .ok s ↔ s.Canonical ∧ ∀ n, Within s.ranges n ↔ Within items n := by
    obtain ⟨canonical, same⟩ := ofRangesCanonical lists
    rw [parseListed lists, Except.ok.injEq]
    constructor
    · rintro rfl
      exact ⟨canonical, same⟩
    · exact fun ⟨other, members⟩ => canonical.unique other fun n => (same n).trans (members n).symm
  refine ⟨⟨?_, fun ⟨items, lists⟩ => ⟨_, parseListed lists⟩⟩, parseUnlisted, fun c v => digitSpelled, reads, ?_⟩
  · rintro ⟨s, read⟩
    by_contra none
    rw [parseUnlisted fun items lists => none ⟨items, lists⟩] at read
    cases read
  · intro other items items' lists lists'
    obtain ⟨canonical, same⟩ := ofRangesCanonical lists'
    rw [parseListed lists', reads items lists]
    exact ⟨fun ⟨_, members⟩ n => (members n).symm.trans (same n), fun members => ⟨canonical, fun n => (same n).trans (members n).symm⟩⟩

theorem adjacentItemsAreJoined :
    Lists "0044-0046+0410042-00430043".toList [(0x44, 0x46), (0x41, 0x41), (0x42, 0x43), (0x43, 0x43)] ∧
      Lists "0041-0046".toList [(0x41, 0x46)] ∧
      parse "0044-0046+0410042-00430043".toList = parse "0041-0046".toList := by
  have first : Lists "0044-0046+0410042-00430043".toList [(0x44, 0x46), (0x41, 0x41), (0x42, 0x43), (0x43, 0x43)] :=
    itemsRead.mp (by decide)
  have second : Lists "0041-0046".toList [(0x41, 0x46)] := itemsRead.mp (by decide)
  obtain ⟨_, _, _, _, same⟩ := parsedSetIsCanonical "0044-0046+0410042-00430043".toList
  refine ⟨first, second, (same _ _ _ first second).mpr fun n => ?_⟩
  have nothing : ¬ Within [] n := by simp [Within]
  simp only [withinCons, nothing, or_false]
  omega

end ExtendedPattern.CodePointSet
