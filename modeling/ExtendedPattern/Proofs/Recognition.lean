import ExtendedPattern.Proofs.Lookahead

/-! Rules whose tokens are seen on the spot: whether one stands at a place depends on the
offset and on the text from there alone. Their searches are steady, and which of them fires is
the first one that sees a token. -/
namespace ExtendedPattern

namespace Text

theorem dropAtPlace {before after : Text} : dropBytes (before ++ after) (size before) = after :=
  dropBytesSize before after

theorem boundaryAtPlace {before after : Text} : boundary (before ++ after) (size before) = size before := by
  simp [boundary, takeBytesSize]

theorem placesOrdered {t : Text} {p q : Nat} (placeP : t.IsPlace p) (placeQ : t.IsPlace q)
    (order : p ≤ q) :
    ∃ before middle after, t = before ++ (middle ++ after) ∧ size before = p ∧
      size (before ++ middle) = q := by
  obtain ⟨before, behindP, rfl, rfl⟩ := placeP
  obtain ⟨beforeQ, behindQ, same, rfl⟩ := placeQ
  rcases List.append_eq_append_iff.mp same with ⟨middle, rfl, rfl⟩ | ⟨middle, rfl, rfl⟩
  · exact ⟨before, middle, behindQ, rfl, rfl, rfl⟩
  · cases middle with
    | nil => exact ⟨beforeQ, [], behindP, by simp, by simp, by simp⟩
    | cons c middle =>
      have positive := c.utf8Size_pos
      simp only [sizeAppend, size] at order
      omega

end Text

namespace TokenRule
open Text (size)

def Searches (rule : TokenRule) (input : Text) : Prop :=
  ∀ {pos}, input.IsPlace pos → ∃ found, rule.find input pos = .ok found

def startOf (groups : Groups) : Nat := (((groups[0]?).join).map Span.start).getD 0

def Anchored (recognize : Nat → Text → Option Groups) : Prop :=
  ∀ ⦃offset t groups⦄, recognize offset t = some groups →
    ∃ stop more, groups = some ⟨0, stop⟩ :: more

theorem shiftedStart {recognize : Nat → Text → Option Groups} (anchored : Anchored recognize)
    {offset : Nat} {t : Text} {groups : Groups} (seen : recognize offset t = some groups) (distance : Nat) :
    startOf (groups.map (·.map (Span.shift distance))) = distance := by
  obtain ⟨stop, more, rfl⟩ := anchored seen
  simp [startOf, Span.shift]

theorem seekStart {recognize : Nat → Text → Option Groups} (anchored : Anchored recognize)
    {t : Text} {offset : Nat} {groups : Groups} (found : seek recognize t offset = some groups) :
    offset ≤ startOf groups := by
  induction t generalizing offset with
  | nil => simp [seek] at found
  | cons c rest ih =>
    unfold seek at found
    split at found
    · rename_i seen
      cases Option.some.inj found
      exact Nat.le_of_eq (shiftedStart anchored seen offset).symm
    · have later := ih found
      omega

/-- The characters in front of the first place where a token is seen, or up to the end. -/
def gap (recognize : Nat → Text → Option Groups) : Text → Nat → Nat
  | [], _ => 0
  | c :: rest, offset =>
    if (recognize offset (c :: rest)).isSome then 0 else gap recognize rest (offset + c.utf8Size) + 1

theorem gapAtMost (recognize : Nat → Text → Option Groups) (t : Text) (offset : Nat) :
    gap recognize t offset ≤ t.length := by
  induction t generalizing offset with
  | nil => exact Nat.le_refl 0
  | cons c rest ih =>
    have later := ih (offset + c.utf8Size)
    rw [gap, List.length_cons]
    split <;> omega

theorem gapSame {recognize : Nat → Text → Option Groups}
    (same : ∀ offset offset' t, recognize offset t = recognize offset' t) (t : Text) (offset offset' : Nat) :
    gap recognize t offset = gap recognize t offset' := by
  induction t generalizing offset offset' with
  | nil => rfl
  | cons c rest ih => rw [gap, gap, same offset offset', ih (offset + c.utf8Size) (offset' + c.utf8Size)]

theorem seekSkips {recognize : Nat → Text → Option Groups} (anchored : Anchored recognize)
    (middle after : Text) (offset : Nat) :
    (seek recognize (middle ++ after) offset = seek recognize after (offset + size middle) ∧
      gap recognize after (offset + size middle) ≤ gap recognize (middle ++ after) offset) ∨
    ∃ groups, seek recognize (middle ++ after) offset = some groups ∧
      startOf groups < offset + size middle := by
  induction middle generalizing offset with
  | nil => exact .inl ⟨rfl, Nat.le_refl _⟩
  | cons c middle ih =>
    have positive := c.utf8Size_pos
    simp only [List.cons_append, seek, gap, size]
    cases seen : recognize offset (c :: (middle ++ after)) with
    | some groups => exact .inr ⟨_, rfl, by rw [shiftedStart anchored seen]; omega⟩
    | none =>
      rw [← Nat.add_assoc]
      refine (ih (offset + c.utf8Size)).imp (fun skips => ⟨skips.1, ?_⟩) id
      exact Nat.le_succ_of_le skips.2

def limited (reach : Option Nat) (recognize : Nat → Text → Option Groups) (t : Text) (offset : Nat) :
    Except Failure (Option Groups) :=
  if reach.any (· ≤ gap recognize t offset) then .error .backtrackLimit else .ok (seek recognize t offset)

theorem limitedFinds {reach : Option Nat} {recognize : Nat → Text → Option Groups} {t : Text} {offset : Nat}
    {found : Option Groups} : limited reach recognize t offset = .ok found ↔
      (∀ n, reach = some n → gap recognize t offset < n) ∧ seek recognize t offset = found := by
  cases reach with
  | none => simp [limited]
  | some n =>
    simp only [limited, Option.any_some, decide_eq_true_eq, Option.some.injEq, forall_eq']
    split
    · rename_i far
      simp [Nat.not_lt.mpr far]
    · rename_i near
      simp [Nat.lt_of_not_le near]

theorem limitedResumes {reach : Option Nat} {recognize : Nat → Text → Option Groups} (anchored : Anchored recognize)
    {middle after : Text} {offset : Nat} {found : Option Groups}
    (searched : limited reach recognize (middle ++ after) offset = .ok found)
    (behind : ∀ groups, found = some groups → offset + size middle ≤ startOf groups) :
    limited reach recognize after (offset + size middle) = .ok found := by
  rw [limitedFinds] at searched ⊢
  obtain ⟨near, sought⟩ := searched
  rcases seekSkips anchored middle after offset with ⟨same, shorter⟩ | ⟨groups, early, before⟩
  · exact ⟨fun n limit => Nat.lt_of_le_of_lt shorter (near n limit), same ▸ sought⟩
  · have later := behind groups (sought ▸ early)
    omega

def FindsBy (find : Finder) (reach : Option Nat) (recognize : Nat → Text → Option Groups) : Prop :=
  ∀ before after, find (before ++ after) (size before) = limited reach recognize after (size before)

theorem unlimitedFinds (recognize : Nat → Text → Option Groups) : FindsBy (finderOf recognize) none recognize := by
  intro before after
  simp [finderOf, Text.dropAtPlace, Text.boundaryAtPlace, limited]

end TokenRule

structure LocalRule where
  rule : TokenRule
  takesPart : Region → Context → Bool
  recognize : Nat → Text → Option Groups
  reach : Option Nat
  applies : ∀ region context s, rule.applies region context s = (takesPart region context, s)
  finds : TokenRule.FindsBy rule.find reach recognize
  anchored : TokenRule.Anchored recognize
  uniform : reach = none ∨ (∀ region c d, takesPart region c = takesPart region d) ∧
    ∀ offset offset' t, recognize offset t = recognize offset' t

namespace LocalRule
open Text (size)

def sees? (l : LocalRule) (region : Region) (context : Context) (offset : Nat) (t : Text) :
    Option Groups :=
  if l.takesPart region context then l.recognize offset t else none

theorem findAtPlace (l : LocalRule) (before after : Text) :
    l.rule.find? (before ++ after) (size before) =
      (TokenRule.limited l.reach l.recognize after (size before)).map
        (·.map fun groups => ⟨before ++ after, groups⟩) := by
  rw [TokenRule.find?, l.finds]

theorem steady (l : LocalRule) (input : Text) : l.rule.Steady input where
  found := by
    intro p q m placeP placeQ order search before
    obtain ⟨front, middle, after, rfl, rfl, rfl⟩ := Text.placesOrdered placeP placeQ order
    rw [findAtPlace] at search
    rw [← List.append_assoc, findAtPlace, List.append_assoc]
    obtain ⟨found, searched, same⟩ := mapOk search
    obtain ⟨groups, rfl, rfl⟩ := Option.map_eq_some_iff.mp same
    rw [Text.sizeAppend] at before ⊢
    rw [TokenRule.limitedResumes l.anchored searched (by rintro _ ⟨⟩; exact before)]
    rfl
  exhausted := by
    intro p q placeP placeQ order search
    obtain ⟨front, middle, after, rfl, rfl, rfl⟩ := Text.placesOrdered placeP placeQ order
    rw [findAtPlace] at search
    rw [← List.append_assoc, findAtPlace]
    obtain ⟨found, searched, same⟩ := mapOk search
    obtain rfl := Option.map_eq_none_iff.mp same
    rw [Text.sizeAppend, TokenRule.limitedResumes l.anchored searched (by simp)]
    rfl

def token (input : Text) (offset : Nat) (groups : Groups) : TokenMatch :=
  ⟨input, groups.map (·.map (Span.shift offset))⟩

theorem tokenStop {input : Text} {offset : Nat} {groups : Groups} {g : Span}
    (whole : groups.head? = some (some g)) : (token input offset groups).stop = offset + g.stop := by
  cases groups with
  | nil => contradiction
  | cons _ more =>
    cases Option.some.inj whole
    simp [token, TokenMatch.stop, TokenMatch.groupSpan?, Span.shift]

def first? (locals : List LocalRule) (region : Region) (context : Context) (offset : Nat) (t : Text) :
    Option (LocalRule × Groups) :=
  locals.findSome? fun l => (l.sees? region context offset t).map fun groups => (l, groups)

section
variable {l : LocalRule} {locals : List LocalRule} {region : Region} {context : Context} {offset : Nat} {t : Text} {groups : Groups}

theorem seesParts (seen : l.sees? region context offset t = some groups) :
    l.takesPart region context ∧ l.recognize offset t = some groups := by
  unfold sees? at seen
  split at seen
  · exact ⟨‹_›, seen⟩
  · cases seen

theorem seenWhole (seen : l.sees? region context offset t = some groups) : ∃ stop, groups.head? = some (some ⟨0, stop⟩) := by
  obtain ⟨stop, more, rfl⟩ := l.anchored (seesParts seen).2
  exact ⟨stop, rfl⟩

theorem firstSees (first : first? locals region context offset t = some (l, groups)) :
    l ∈ locals ∧ l.sees? region context offset t = some groups := by
  obtain ⟨l', mem, seen⟩ := List.exists_of_findSome?_eq_some first
  obtain ⟨groups', seen, same⟩ := Option.map_eq_some_iff.mp seen
  cases same
  exact ⟨mem, seen⟩

theorem firstParts (first : first? locals region context offset t = some (l, groups)) :
    l ∈ locals ∧ l.takesPart region context ∧ l.recognize offset t = some groups := by
  obtain ⟨mem, seen⟩ := firstSees first
  exact ⟨mem, seesParts seen⟩

end

def answer (l : LocalRule) (m : TokenMatch) (region : Region) (context : Context) (s : Session) :
    Except Failure (Option Rewrite.Fired) × Session :=
  let s := { s with events := .tokenMatched l.rule.pattern m.text m.start :: s.events }
  match l.rule.handle m region context s with
  | (.ok (fragment, context), s) => (.ok (some ⟨m, fragment, context⟩), s)
  | (.error e, s) => (.error e, s)

def respond (found : Option (LocalRule × Groups)) (input : Text) (offset : Nat) (region : Region)
    (context : Context) (s : Session) : Except Failure (Option Rewrite.Fired) × Session :=
  match found with
  | some (l, groups) => l.answer (token input offset groups) region context s
  | none => (.ok none, s)

def givesUp (l : LocalRule) (region : Region) (context : Context) (offset : Nat) (t : Text) : Bool :=
  l.takesPart region context && l.reach.any (· ≤ TokenRule.gap l.recognize t offset)

def anyGivesUp (region : Region) (context : Context) (offset : Nat) (t : Text) : List LocalRule → Bool
  | [] => false
  | l :: others =>
    l.givesUp region context offset t ||
      ((l.sees? region context offset t).isNone && anyGivesUp region context offset t others)

theorem fireFirst (locals : List LocalRule) (before : Text) (c : Char) (rest : Text)
    (region : Region) (context : Context) (s : Session) :
    Uncached.fire (before ++ c :: rest) (size before) region context (locals.map LocalRule.rule) s =
      if anyGivesUp region context (size before) (c :: rest) locals then (.error .backtrackLimit, s)
      else
        respond (first? locals region context (size before) (c :: rest)) (before ++ c :: rest)
          (size before) region context s := by
  induction locals with
  | nil => rfl
  | cons l others ih =>
    simp only [first?, sees?] at ih
    simp only [List.map_cons, Uncached.fire, l.applies, first?, List.findSome?_cons, sees?, anyGivesUp, givesUp]
    by_cases part : l.takesPart region context = true
    · simp only [part, findAtPlace, TokenRule.limited, Bool.true_and, if_true]
      by_cases far : l.reach.any (· ≤ TokenRule.gap l.recognize (c :: rest) (size before)) = true
      · simp only [far, Bool.true_or, if_true]; rfl
      · simp only [far, Bool.false_or, Except.map, TokenRule.seek]
        cases seen : l.recognize (size before) (c :: rest) with
        | some groups =>
          have here : (token (before ++ c :: rest) (size before) groups).start = size before :=
            TokenRule.shiftedStart l.anchored seen _
          simp only [Option.map_some, Option.isNone_some, Bool.false_and, Bool.false_eq_true, if_false, respond, answer,
            here]
          exact if_pos here
        | none =>
          simp only [Option.map_none, Option.isNone_none, Bool.true_and]
          cases found : TokenRule.seek l.recognize rest (size before + c.utf8Size) with
          | none => exact ih
          | some groups =>
            have positive := c.utf8Size_pos
            have later := TokenRule.seekStart l.anchored found
            have elsewhere : (TokenMatch.mk (before ++ c :: rest) groups).start ≠ size before := by
              change TokenRule.startOf groups ≠ _
              omega
            exact (if_neg elsewhere).trans ih
    · simpa [part] using ih

theorem givesUpSame (l : LocalRule) (region : Region) (c d : Context) (offset offset' : Nat) (t : Text) :
    l.givesUp region c offset t = l.givesUp region d offset' t := by
  rcases l.uniform with unlimited | ⟨part, recognize⟩
  · simp [givesUp, unlimited]
  · rw [givesUp, givesUp, part region c d, TokenRule.gapSame recognize t offset offset']

theorem givesUpUnsearched {l : LocalRule} {before t : Text} {region : Region} {context : Context}
    (searched : ∃ found, l.rule.find (before ++ t) (size before) = .ok found) :
    l.givesUp region context (size before) t = false := by
  obtain ⟨found, search⟩ := searched
  rw [l.finds, TokenRule.limitedFinds] at search
  cases limit : l.reach with
  | none => simp [givesUp, limit]
  | some n => simp [givesUp, limit, search.1 n limit]

theorem noneGivesUpHere {locals : List LocalRule} {before t : Text} {region : Region} {context : Context}
    (searched : ∀ l ∈ locals, ∃ found, l.rule.find (before ++ t) (size before) = .ok found) :
    anyGivesUp region context (size before) t locals = false := by
  induction locals with
  | nil => rfl
  | cons l others ih =>
    obtain ⟨head, tail⟩ := List.forall_mem_cons.mp searched
    rw [anyGivesUp, givesUpUnsearched head, ih tail, Bool.and_false, Bool.or_false]

theorem noneGivesUp {locals : List LocalRule} {before t : Text} {region : Region} {context : Context}
    (searches : ∀ l ∈ locals, l.rule.Searches (before ++ t)) :
    anyGivesUp region context (size before) t locals = false :=
  noneGivesUpHere fun l mem => searches l mem Text.placeBefore

theorem shortSearches {l : LocalRule} {input : Text} (short : ∀ n, l.reach = some n → input.length < n) :
    l.rule.Searches input := by
  rintro _ ⟨before, after, rfl, rfl⟩
  refine ⟨_, (l.finds before after).trans (TokenRule.limitedFinds.mpr ⟨fun n limit => ?_, rfl⟩)⟩
  have within := TokenRule.gapAtMost l.recognize after (size before)
  have fits := short n limit
  rw [List.length_append] at fits
  omega

def ofWord (word text : Text) : LocalRule where
  rule := {
    pattern := word
    find := TokenRule.finderOf fun _ t => if word.isPrefixOf t then some [some ⟨0, size word⟩] else none
    handle := fun _ _ context => .ok (text, context) }
  takesPart region _ := RegionSet.outsideOnly.has region
  recognize _ t := if word.isPrefixOf t then some [some ⟨0, size word⟩] else none
  reach := none
  applies region _ _ := by cases region <;> rfl
  finds := TokenRule.unlimitedFinds _
  anchored := by
    intro _ t groups seen
    dsimp only at seen
    split at seen
    · cases seen; exact ⟨_, _, rfl⟩
    · contradiction
  uniform := .inl rfl

end LocalRule

def Registry.Searches (r : Registry) (pattern : Text) : Prop := ∀ rule ∈ r.rules, rule.Searches pattern

def Registry.StartsSearched (r : Registry) (pattern : Text) : Prop :=
  ∀ rule ∈ r.rules, ∃ found, rule.find pattern 0 = .ok found

theorem LocalRule.searchesRules {r : Registry} {locals : List LocalRule} (rules : r.rules = locals.map LocalRule.rule)
    {pattern : Text} : r.Searches pattern ↔ ∀ l ∈ locals, l.rule.Searches pattern := by
  simp only [Registry.Searches, rules, List.forall_mem_map]

theorem compilesLocally {r : Registry} {locals : List LocalRule} (rules : r.rules = locals.map LocalRule.rule)
    (pattern : Text) (flags : FlagSet) (s : Session) :
    compile pattern flags r s = Uncached.rewrite (locals.map LocalRule.rule) pattern flags s := by
  have steady : ∀ rule ∈ locals.map LocalRule.rule, rule.Steady pattern := by
    intro rule mem
    obtain ⟨l, _, rfl⟩ := List.mem_map.mp mem
    exact l.steady pattern
  rw [compile, rules, rewriteUncached steady]

/-- For any rules whose searches are steady, compiling with what is remembered of them ends in
every way as compiling without. -/
theorem cachedCompileIsUncached {r : Registry} {pattern : Text}
    (steady : ∀ rule ∈ r.rules, rule.Steady pattern) (flags : FlagSet) (s : Session) :
    compile pattern flags r s = Uncached.compile pattern flags r s :=
  rewriteUncached steady flags s

theorem rulesResumeBehindLongerToken :
    let r : Registry := { registrations := [
      .rule (LocalRule.ofWord ['a', 'b'] ['Z']).rule, .rule (LocalRule.ofWord ['b'] ['B']).rule] }
    let pattern := ['a', 'b', 'b', 'x', 'b']
    (∀ rule ∈ r.rules, rule.Steady pattern) ∧
      compile pattern .empty r {} = Uncached.compile pattern .empty r {} ∧
      (compile pattern .empty r {}).1.map Compilation.native = .ok ['Z', 'B', 'x', 'B'] := by
  intro r pattern
  have steady : ∀ rule ∈ r.rules, rule.Steady pattern := by
    intro rule mem
    have either : rule = (LocalRule.ofWord ['b'] ['B']).rule ∨
        rule = (LocalRule.ofWord ['a', 'b'] ['Z']).rule := by
      simpa [r, Registry.rules] using mem
    rcases either with rfl | rfl <;> exact LocalRule.steady _ pattern
  exact ⟨steady, cachedCompileIsUncached steady .empty {}, rfl⟩

end ExtendedPattern
