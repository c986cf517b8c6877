import ExtendedPattern.Proofs.FlagMembers
import ExtendedPattern.Proofs.ReadAhead

/-! Places at which the scan arrives. A place that it comes to, with what it has written before, depends
on the text behind only so far as tokens before read ahead into it. -/
namespace ExtendedPattern
open Text (size Apart Settled)

namespace Text
variable {known x y : Text} {s : Span}

theorem takeKnownBytes (x : Text) {n : Nat} (within : n ≤ size known) : takeBytes (known ++ x) n = takeBytes known n := by
  induction known generalizing n with
  | nil =>
    obtain rfl := Nat.le_zero.mp within
    cases x <;> rfl
  | cons c rest ih =>
    simp only [size] at within
    simp only [List.cons_append, takeBytes]
    split
    · rfl
    · rw [ih (by omega)]

theorem sizeBefore (front : Text) {more : Text} (present : more ≠ []) : size front < size (front ++ more) := by
  have positive : size more ≠ 0 := fun none => present (sizeZero.mp none)
  rw [sizeAppend]
  omega

theorem placeKnown {n : Nat} (place : (known ++ x).IsPlace n) (within : n ≤ size known) : known.IsPlace n := by
  obtain ⟨front, back, same, rfl⟩ := place
  have taken : takeBytes known (size front) = front := by
    rw [← takeKnownBytes x within, same, takeBytesSize]
  exact ⟨front, dropBytes known (size front), by conv_lhs => rw [← takeBytesDropBytes known (size front), taken], rfl⟩

theorem sliceKnown (place : (known ++ x).IsPlace s.start) (within : s.stop ≤ size known) :
    slice (known ++ x) s = slice (known ++ y) s := by
  by_cases backward : s.stop ≤ s.start
  · have none : s.stop - s.start = 0 := Nat.sub_eq_zero_of_le backward
    rw [slice, slice, none]
    cases dropBytes (known ++ x) s.start <;> cases dropBytes (known ++ y) s.start <;> rfl
  · obtain ⟨front, back, rfl, start⟩ := placeKnown place (by omega)
    have length : s.stop - s.start ≤ size back := by
      rw [sizeAppend] at within
      omega
    rw [slice, slice, ← start, List.append_assoc, List.append_assoc, dropBytesSize, dropBytesSize, start,
      takeKnownBytes x length, takeKnownBytes y length]

end Text

def GroupsOpen (t : Text) (groups : Groups) : Prop :=
  ∀ s, some s ∈ groups → t.IsPlace s.start ∧ ∀ g, groups.head? = some (some g) → s.stop ≤ g.stop

namespace BuiltinRules
variable {t : Text} {found : Groups}

theorem tokenOpens {n : Nat} {groups : List Span} (inside : ∀ s ∈ groups, t.IsPlace s.start ∧ s.stop ≤ n) :
    GroupsOpen t (token n groups) := by
  intro s mem
  have known : s = ⟨0, n⟩ ∨ s ∈ groups := by simpa [token] using mem
  rcases known with rfl | mem
  · refine ⟨Text.placeAtStart t, fun g first => ?_⟩
    cases first
    exact Nat.le_refl n
  · refine ⟨(inside s mem).1, fun g first => ?_⟩
    cases first
    exact (inside s mem).2

theorem loneOpens (t : Text) (n : Nat) : GroupsOpen t (token n) := tokenOpens (List.forall_mem_nil _)

theorem closedOpens {close : Char} {opener : Nat} {t u : Text} (seen : closedToken close opener t = some found) :
    GroupsOpen u found := by
  unfold closedToken at seen
  dsimp only at seen
  split at seen
  · cases seen
    exact loneOpens u _
  · cases seen

theorem nameOpens (mark rest : Text) (seen : nameToken (size mark) rest = some found) : GroupsOpen (mark ++ rest) found := by
  unfold nameToken at seen
  dsimp only at seen
  split at seen
  · cases seen
    refine tokenOpens (List.forall_mem_singleton.mpr ⟨⟨mark, rest, rfl, rfl⟩, Nat.le_succ _⟩)
  · cases seen

theorem leadingModesOpens {offset : Nat} (seen : leadingModes offset t = some found) : GroupsOpen t found := by
  unfold leadingModes at seen
  split at seen
  · dsimp only at seen
    split at seen
    · cases seen
      refine tokenOpens (List.forall_mem_singleton.mpr ⟨⟨['(', '?'], _, rfl, rfl⟩, ?_⟩)
      dsimp only
      omega
    · cases seen
  · cases seen

end BuiltinRules

theorem UnicodeNames.tokenGroupsOpen {t : Text} {found : Groups} (seen : token t = some found) : GroupsOpen t found := by
  unfold token at seen
  split at seen <;> try contradiction
  rename_i letter rest
  split at seen <;> try contradiction
  rename_i upperOrLower
  dsimp only at seen
  have single : letter.utf8Size = 1 := by
    rcases upperOrLower with rfl | rfl <;> rfl
  have mark : Text.IsPlace ('\\' :: letter :: '{' :: rest) 3 :=
    ⟨['\\', letter, '{'], rest, rfl, by simp only [size, single]; rfl⟩
  have name : Text.IsPlace ('\\' :: letter :: '{' :: rest) (3 + if rest.head? = some '^' then 1 else 0) := by
    split
    · rename_i negated
      obtain ⟨behind, rfl⟩ := List.head?_eq_some_iff.mp negated
      exact ⟨['\\', letter, '{', '^'], behind, rfl, by simp only [size, single]; rfl⟩
    · exact mark
  generalize (if rest.head? = some '^' then 1 else 0) = caret at seen name
  split at seen <;> try contradiction
  cases seen
  change GroupsOpen _ (BuiltinRules.token _ [_, _, _])
  refine BuiltinRules.tokenOpens ?_
  simp only [List.forall_mem_cons]
  exact ⟨⟨⟨['\\'], _, rfl, rfl⟩, by omega⟩, ⟨mark, by omega⟩, ⟨name, by omega⟩, List.forall_mem_nil _⟩

namespace LocalRule
open BuiltinRules
variable {known x y : Text} {l : LocalRule} {groups : Groups}

theorem builtinsOpen (offset : Nat) (t : Text) :
    ∀ l ∈ builtins, ∀ groups, l.recognize offset t = some groups → GroupsOpen t groups := by
  simp only [builtins, List.forall_mem_cons]
  refine ⟨fun groups seen => ?_, fun groups seen => ?_, fun groups seen => ?_, fun groups seen => ?_, fun groups seen => ?_,
    fun groups => leadingModesOpens, fun groups seen => ?_, fun groups seen => ?_, fun groups seen => ?_, by simp⟩ <;>
    dsimp only [plainGroup, always, underFlag] at seen
  · unfold plainOpener at seen
    split at seen <;> cases seen
    exact loneOpens _ 1
  · unfold namedOpener at seen
    split at seen
    · rename_i rest
      exact nameOpens ['(', '?', '<'] rest seen
    · cases seen
  · unfold dot at seen
    split at seen <;> cases seen
    exact loneOpens _ 1
  · dsimp only [blank] at seen
    split at seen <;> cases seen
    exact loneOpens _ _
  · unfold reference at seen
    split at seen
    · rename_i rest
      exact nameOpens ['\\', 'k', '<'] rest seen
    · cases seen
  · unfold comment at seen
    split at seen
    · exact closedOpens seen
    · cases seen
  · unfold emptyClass at seen
    split at seen <;> cases seen
    · exact loneOpens _ 2
    · exact loneOpens _ 3
  · unfold unicodeToken at seen
    split at seen
    · exact closedOpens seen
    · exact closedOpens seen
    · cases seen

theorem Bundled.groupsOpen (bundled : l.Bundled) {offset : Nat} {t : Text} (seen : l.recognize offset t = some groups) :
    GroupsOpen t groups := by
  cases bundled with
  | unicode names => exact UnicodeNames.tokenGroupsOpen seen
  | builtin mem => exact builtinsOpen offset t l mem groups seen

theorem quantifierKnown (apart : Apart x) (apart' : Apart y) (present : known ≠ []) (unclosed : ¬ ['}'] <:+ known) :
    NativeToken.startsWithQuantifier (known ++ x) = NativeToken.startsWithQuantifier (known ++ y) := by
  obtain ⟨b, more, rfl⟩ := List.exists_cons_of_ne_nil present
  have unclosed : ¬ ['}'] <:+ more := fun suffix => unclosed (suffix.trans (List.suffix_cons b more))
  simp only [List.cons_append, NativeToken.startsWithQuantifier, NativeToken.repeatKnown apart apart' unclosed]

theorem digitKnown (present : known ≠ []) : startsWithDigit (known ++ x) = startsWithDigit (known ++ y) := by
  rw [startsWithDigit, startsWithDigit, List.head?_append_of_ne_nil _ present, List.head?_append_of_ne_nil _ present]

theorem Bundled.tokensKnown (bundled : l.Bundled) {front more : Text} (before : Text) {offset : Nat}
    (seen : l.recognize offset (front ++ more ++ x) = some groups) (whole : groups.head? = some (some ⟨0, size front⟩))
    (apart : Apart x) (apart' : Apart y) (present : more ≠ []) (unclosed : ¬ ['}'] <:+ more) :
    (token (before ++ (front ++ more ++ x)) (size before) groups).Alike
      (token (before ++ (front ++ more ++ y)) (size before) groups) := by
  have behind (z : Text) : (token (before ++ (front ++ more ++ z)) (size before) groups).rest = more ++ z := by
    rw [restRead before _ whole, List.append_assoc]
    exact Text.dropBytesSize front (more ++ z)
  refine ⟨fun i => ?_, ?_, ?_⟩
  · rw [groupRead, groupRead]
    cases read : (groups[i]?).join with
    | none => rfl
    | some s =>
      have mem : some s ∈ groups := List.mem_of_getElem? (Option.join_eq_some_iff.mp read)
      obtain ⟨place, within⟩ := bundled.groupsOpen seen s mem
      have within : s.stop ≤ size (front ++ more) := by
        have inside : s.stop ≤ size front := within _ whole
        rw [Text.sizeAppend]
        omega
      exact congrArg some (Text.sliceKnown place within)
  · rw [behind, behind]
    exact quantifierKnown apart apart' present unclosed
  · rw [behind, behind]
    exact digitKnown present

theorem Bundled.answerKnown (bundled : l.Bundled) {region : Region} {context : Context} {stop : Nat} (before : Text)
    (seen : l.sees? region context (size before) (known ++ x) = some groups) (whole : groups.head? = some (some ⟨0, stop⟩))
    (part : ∃ front more, known = front ++ more ∧ size front = stop ∧ more ≠ []) (apart : Apart x) (apart' : Apart y)
    (unclosed : ¬ ['}'] <:+ known) (s u : Session) :
    (l.rule.handle (token (before ++ (known ++ x)) (size before) groups) region context s).1 =
      (l.rule.handle (token (before ++ (known ++ y)) (size before) groups) region context u).1 := by
  obtain ⟨front, more, rfl, rfl, present⟩ := part
  obtain ⟨_, seen⟩ := seesParts seen
  have unclosed : ¬ ['}'] <:+ more := fun suffix => unclosed (suffix.trans (List.suffix_append front more))
  exact bundled.near (bundled.tokensKnown before seen whole apart apart' present unclosed) region context s u

def KeepsFlags (handle : Handler) : Prop :=
  ∀ ⦃m region context s wrote⦄, (handle m region context s).1 = .ok wrote →
    ∀ flag, context.has flag → wrote.2.has flag

theorem sameContextKeeps {handle : Handler} (same : ∀ {m region context s wrote}, (handle m region context s).1 = .ok wrote →
    wrote.2.flags = context.flags) : KeepsFlags handle := by
  intro m region context s wrote handled flag on
  rw [Context.has, same handled]
  exact on

theorem constantlyKeeps (f : TokenMatch → Text) : KeepsFlags (constantly f) :=
  sameContextKeeps fun handled => by cases handled; rfl

theorem leadingModesKeeps : KeepsFlags leadingModesRule.handle := by
  intro m region context s wrote handled flag on
  dsimp only [leadingModesRule] at handled
  split at handled
  · cases handled
    have on : context.flags.has flag := on
    simp [Context.has, Context.setFlags, on]
  · cases handled

theorem plainOpenerKeeps : KeepsFlags plainOpenerRule.handle := by
  refine sameContextKeeps fun handled => ?_
  dsimp only [plainOpenerRule] at handled
  split at handled <;> cases handled <;> rfl

theorem namedOpenerKeeps : KeepsFlags namedOpenerRule.handle := by
  refine sameContextKeeps fun handled => ?_
  dsimp only [namedOpenerRule] at handled
  split at handled <;> cases handled
  rfl

theorem unicodeKeeps (names : UnicodeNames) : KeepsFlags names.handle := by
  refine sameContextKeeps @fun m region context s wrote handled => ?_
  unfold UnicodeNames.handle at handled
  split at handled
  · cases handled
  · cases found : names.find? ((m.group? 3).getD []) with
    | none =>
      rw [found] at handled
      cases handled
    | some s =>
      rw [found] at handled
      cases handled
      rfl

theorem Bundled.keepsFlags (bundled : l.Bundled) : KeepsFlags l.rule.handle := by
  cases bundled with
  | unicode names => exact unicodeKeeps names
  | builtin mem =>
    revert l
    simp only [builtins, List.forall_mem_cons]
    exact ⟨plainOpenerKeeps, namedOpenerKeeps, constantlyKeeps _, constantlyKeeps _,
      sameContextKeeps fun handled => (by cases handled; rfl), leadingModesKeeps, constantlyKeeps _, constantlyKeeps _,
      sameContextKeeps fun handled => (by cases handled), by simp⟩

end LocalRule

namespace Pairing
variable {p : Uncached.Progress}

theorem sameSegments {a b : List Segment} (paired : List.Forall₂ Pairing.same.Segments a b) : a = b := by
  induction paired with
  | nil => rfl
  | @cons g h a b segment _ ih =>
    obtain ⟨source, rewritten, fragment⟩ := segment
    have fragment : g.fragment = h.fragment := fragment
    obtain ⟨_, _, _⟩ := g
    obtain ⟨_, _, _⟩ := h
    rw [ih]
    simp_all

theorem sameEnds {result result' : Except Failure Uncached.Progress} (ends : Pairing.same.Ends p p result result') :
    result = result' := by
  cases ends with
  | fail e => rfl
  | @done q q' onward =>
    obtain ⟨region, context, a, b, segments, segments', paired⟩ := onward
    have context : q.context = q'.context := context
    have same : q.segments = q'.segments := by
      rw [segments, segments', sameSegments paired]
    obtain ⟨_, _, _⟩ := q
    obtain ⟨_, _, _⟩ := q'
    simp_all

end Pairing

namespace Uncached
variable {locals : List LocalRule} {before chunk more x y : Text} {d : Char} {p q : Progress} {s t : Session}

theorem stepCalm {rest : Text} {next : Nat}
    (stepped : (step (locals.map LocalRule.rule) (before ++ d :: rest) d rest (size before) p s).1 = .ok (q, next)) :
    LocalRule.anyGivesUp p.region p.context (size before) (d :: rest) locals = false := by
  rw [← Bool.not_eq_true]
  intro gives
  rw [step, Session.whileInRules, LocalRule.fireFirst, if_pos gives] at stepped
  cases stepped

theorem stepCopies {rest : Text} (calm : LocalRule.anyGivesUp p.region p.context (size before) (d :: rest) locals = false)
    (unseen : LocalRule.first? locals p.region p.context (size before) (d :: rest) = none) :
    (step (locals.map LocalRule.rule) (before ++ d :: rest) d rest (size before) p s).1 =
      .ok ((NativeToken.length? p.region (d :: rest)).elim
        ({ p.copy (d :: rest) d.utf8Size with region := Rewrite.regionAfter p.region d }, size before + d.utf8Size)
        fun n => (p.copy (d :: rest) n, size before + n)) := by
  simp only [step, Session.whileInRules, LocalRule.fireFirst, calm, Bool.false_eq_true, if_false, unseen, LocalRule.respond]
  cases NativeToken.length? p.region (d :: rest) <;> rfl

theorem stepFires {rest : Text} {l : LocalRule} {groups : Groups} {stop : Nat}
    (calm : LocalRule.anyGivesUp p.region p.context (size before) (d :: rest) locals = false)
    (seen : LocalRule.first? locals p.region p.context (size before) (d :: rest) = some (l, groups))
    (whole : groups.head? = some (some ⟨0, stop⟩)) :
    ∃ u, (step (locals.map LocalRule.rule) (before ++ d :: rest) d rest (size before) p s).1 =
      (l.rule.handle (LocalRule.token (before ++ d :: rest) (size before) groups) p.region p.context u).1.map fun wrote =>
        let length := if 0 < stop then stop else d.utf8Size
        ({ p with context := wrote.2, segments := ⟨Text.takeBytes (d :: rest) length, wrote.1, true⟩ :: p.segments },
          size before + length) := by
  simp only [step, Session.whileInRules, LocalRule.fireFirst, calm, Bool.false_eq_true, if_false, seen, LocalRule.respond,
    LocalRule.answer]
  generalize Session.mk _ _ _ _ = u
  refine ⟨u, ?_⟩
  generalize l.rule.handle _ p.region p.context u = result
  obtain ⟨result, s'⟩ := result
  cases result with
  | error e => rfl
  | ok wrote =>
    dsimp only [Except.map]
    rw [LocalRule.tokenStop whole, stepLength, Nat.add_sub_cancel_left]

theorem stepKnown (known : ∀ l ∈ locals, l.Bundled) (behind : Text.Behind x y) (settled : Settled (d :: chunk ++ more))
    (present : more ≠ []) (solid : p.context.has .extended → ∀ c, [c] <:+ d :: chunk ++ more → Unicode.isSpace c = false ∧ c ≠ '#')
    (searches : ∀ l ∈ locals, l.rule.Searches (before ++ (d :: chunk ++ (more ++ y))))
    (stepped : (step (locals.map LocalRule.rule) (before ++ (d :: chunk ++ (more ++ x))) d (chunk ++ (more ++ x)) (size before) p s).1 =
      .ok (q, size (before ++ d :: chunk))) :
    (step (locals.map LocalRule.rule) (before ++ (d :: chunk ++ (more ++ y))) d (chunk ++ (more ++ y)) (size before) p t).1 =
      .ok (q, size (before ++ d :: chunk)) := by
  have alike := fun l mem => (known l mem).seesKnown behind settled p.region (size before) solid
  have lengths := NativeToken.lengthKnown behind.apart behind.apart' settled p.region
  have taken {n : Nat} (reached : size before + n = size (before ++ d :: chunk)) (z : Text) :
      Text.takeBytes (d :: (chunk ++ (more ++ z))) n = d :: chunk := by
    rw [Text.sizeAppend] at reached
    rw [Nat.add_left_cancel reached]
    exact Text.takeBytesSize (d :: chunk) (more ++ z)
  have calm' : LocalRule.anyGivesUp p.region p.context (size before) (d :: (chunk ++ (more ++ y))) locals = false :=
    LocalRule.noneGivesUp searches
  simp only [List.cons_append, List.append_assoc] at alike lengths stepped ⊢
  have calm := stepCalm stepped
  cases first : LocalRule.first? locals p.region p.context (size before) (d :: (chunk ++ (more ++ x))) with
  | none =>
    have same := LocalRule.firstKnown alike fun l groups found => by
      rw [first] at found
      cases found
    rw [stepCopies calm first] at stepped
    rw [stepCopies calm' (same.trans first), ← lengths]
    cases length : NativeToken.length? p.region (d :: (chunk ++ (more ++ x))) with
    | some n =>
      simp only [length, Option.elim, Progress.copy, Except.ok.injEq, Prod.mk.injEq] at stepped ⊢
      obtain ⟨rfl, reached⟩ := stepped
      simp only [taken reached, reached, and_self]
    | none =>
      simp only [length, Option.elim, Progress.copy, Except.ok.injEq, Prod.mk.injEq] at stepped ⊢
      obtain ⟨rfl, reached⟩ := stepped
      simp only [taken reached, reached, and_self]
  | some found =>
    obtain ⟨l, groups⟩ := found
    obtain ⟨mem, seen⟩ := LocalRule.firstSees first
    obtain ⟨stop, whole⟩ := LocalRule.seenWhole seen
    obtain ⟨u, fires⟩ := stepFires calm first whole
    rw [fires] at stepped
    obtain ⟨wrote, handled, written⟩ := mapOk stepped
    obtain ⟨rfl, reached⟩ := Prod.mk.inj written
    have part : ∃ front more', d :: (chunk ++ more) = front ++ more' ∧ size front = stop ∧ more' ≠ [] := by
      by_cases positive : 0 < stop
      · rw [if_pos positive, Text.sizeAppend] at reached
        exact ⟨d :: chunk, more, rfl, (Nat.add_left_cancel reached).symm, present⟩
      · exact ⟨[], d :: (chunk ++ more), rfl, by simp only [size]; omega, List.cons_ne_nil _ _⟩
    have early : stop < size (d :: (chunk ++ more)) := by
      obtain ⟨front, more', split, rfl, present⟩ := part
      rw [split]
      exact Text.sizeBefore front present
    have same := LocalRule.firstKnown alike fun l groups found g head => by
      rw [first] at found
      cases found
      rw [whole] at head
      cases head
      exact early
    obtain ⟨v, fires⟩ := stepFires calm' (same.trans first) whole
    have unclosed : ¬ ['}'] <:+ d :: (chunk ++ more) := fun suffix => settled.last '}' suffix (by decide)
    have answer := (known l mem).answerKnown before (by simpa using seen) whole part behind.apart behind.apart' unclosed u v
    simp only [List.cons_append, List.append_assoc] at answer
    rw [fires, ← answer, handled]
    simp only [Except.map, taken reached, reached]

theorem stepKeepsFlag (known : ∀ l ∈ locals, l.Bundled) {flag : Flag} {rest : Text} {next : Nat}
    (stepped : (step (locals.map LocalRule.rule) (before ++ d :: rest) d rest (size before) p s).1 = .ok (q, next))
    (on : p.context.has flag) : q.context.has flag := by
  have calm := stepCalm stepped
  cases first : LocalRule.first? locals p.region p.context (size before) (d :: rest) with
  | none =>
    rw [stepCopies calm first] at stepped
    cases length : NativeToken.length? p.region (d :: rest) <;>
      simp only [length, Option.elim, Except.ok.injEq, Prod.mk.injEq] at stepped <;>
      exact stepped.1 ▸ on
  | some found =>
    obtain ⟨l, groups⟩ := found
    obtain ⟨mem, seen⟩ := LocalRule.firstSees first
    obtain ⟨stop, whole⟩ := LocalRule.seenWhole seen
    obtain ⟨u, fires⟩ := stepFires calm first whole
    rw [fires] at stepped
    obtain ⟨wrote, handled, same⟩ := mapOk stepped
    exact (Prod.mk.inj same).1 ▸ (known l mem).keepsFlags handled flag on

/-- On its way through a pattern the scan stops behind `before`, with progress `p`. -/
inductive Arrives (rules : List TokenRule) (pattern : Text) (flags : FlagSet) : Text → Progress → Prop where
  | start : Arrives rules pattern flags [] { context := .start flags }
  | onward {before chunk rest : Text} {d : Char} {p q : Progress} {s : Session}
      (here : Arrives rules pattern flags before p) (split : pattern = before ++ (d :: chunk ++ rest))
      (stepped : (step rules pattern d (chunk ++ rest) (size before) p s).1 = .ok (q, size (before ++ d :: chunk))) :
      Arrives rules pattern flags (before ++ d :: chunk) q

theorem scanFree (known : ∀ l ∈ locals, l.Bundled) {input rest : Text} (split : input = before ++ rest) (next : Nat)
    (s u : Session) :
    (scan (locals.map LocalRule.rule) input rest (size before) next p s).1 =
      (scan (locals.map LocalRule.rule) input rest (size before) next p u).1 := by
  refine Pairing.sameEnds (scansPair split split ?_ rfl rfl rfl s u)
  intro middle t _ _ l mem
  exact (known l mem).pairs Iff.rfl t

theorem scanFrom (known : ∀ l ∈ locals, l.Bundled) {pattern rest : Text} {flags : FlagSet}
    (arrives : Arrives (locals.map LocalRule.rule) pattern flags before p) (split : pattern = before ++ rest) (s u : Session) :
    (scan (locals.map LocalRule.rule) pattern pattern 0 0 { context := .start flags } s).1 =
      (scan (locals.map LocalRule.rule) pattern rest (size before) (size before) p u).1 := by
  induction arrives generalizing rest u with
  | start =>
    obtain rfl : pattern = rest := split
    exact scanFree known (List.nil_append pattern).symm 0 s u
  | @onward before chunk rest' d p q s' here split' stepped ih =>
    have same : rest' = rest := by
      have both := split'.symm.trans split
      rw [← List.append_assoc] at both
      exact List.append_cancel_left both
    subst same
    have moved : size (before ++ d :: chunk) = size before + d.utf8Size + size chunk := by
      simp only [Text.sizeAppend, size]
      omega
    rw [ih split' s', List.cons_append, scan, if_neg (Nat.lt_irrefl _)]
    generalize step _ _ _ _ _ p s' = result at stepped
    obtain ⟨result, t⟩ := result
    cases stepped
    dsimp only
    rw [moved, Scanning.scanSkips, ← moved]
    exact scanFree known split _ t u

theorem escapeTakes (region : Region) (c : Char) (rest : Text) :
    ∃ n, NativeToken.escapeLength? region (c :: rest) = some n ∧ 1 < n := by
  have numbers (digit : '1' ≤ c ∧ c ≤ '9') : 0 < NativeToken.digitRun (c :: rest) := by
    have digit : NativeToken.isDigit c := by
      simp [NativeToken.isDigit, Char.le_trans (by decide : '0' ≤ '1') digit.1, digit.2]
    simp [NativeToken.digitRun, digit]
  have octals (octal : NativeToken.isOctal c) : 0 < NativeToken.octalLength (c :: rest) := by
    simp only [NativeToken.isOctal, Bool.and_eq_true, decide_eq_true_eq] at octal
    simp only [NativeToken.octalLength, Bool.and_eq_true, decide_eq_true_eq]
    split
    · omega
    · rename_i high
      have above : '4' ≤ c := by
        have late : ¬ c ≤ '3' := fun low => high ⟨octal.1, low⟩
        simp only [Char.le_def, UInt32.le_iff_toNat_le] at late ⊢
        exact Nat.not_le.mp late
      rw [if_pos ⟨above, octal.2⟩]
      omega
  have positive := c.utf8Size_pos
  simp only [NativeToken.escapeLength?, Bool.and_eq_true, decide_eq_true_eq]
  split
  · exact ⟨_, rfl, by omega⟩
  split
  · rename_i digit
    have run := numbers digit.1
    exact ⟨_, rfl, by omega⟩
  split
  · rename_i octal
    have run := octals octal
    exact ⟨_, rfl, by omega⟩
  split
  · exact ⟨_, rfl, by omega⟩
  split
  · exact ⟨_, rfl, by omega⟩
  split
  · exact ⟨_, rfl, by omega⟩
  · exact ⟨_, rfl, by omega⟩

theorem escapeSteps {r : Registry} (standard : r.Standard locals) {c e : Char} {rest : Text} (other : e ∉ ['{', '<']) :
    (step (locals.map LocalRule.rule) (before ++ '\\' :: c :: e :: rest) '\\' (c :: e :: rest) (size before) p s).1 ≠
      .ok (q, size (before ++ ['\\'])) := by
  have unread : LocalRule.Unread p.context (size before) ('\\' :: c :: e :: rest) := by
    simp only [List.mem_cons, List.not_mem_nil, or_false, not_or] at other
    have noReference : BuiltinRules.reference ('\\' :: c :: e :: rest) = none := by
      unfold BuiltinRules.reference
      split <;> simp_all
    have noToken : BuiltinRules.unicodeToken ('\\' :: c :: e :: rest) = none := by
      unfold BuiltinRules.unicodeToken
      split <;> simp_all
    have noName : UnicodeNames.token ('\\' :: c :: e :: rest) = none := by
      unfold UnicodeNames.token
      split <;> simp_all
    exact { reference := noReference, unicodeToken := noToken, unicodeName := noName }
  obtain ⟨n, length, long⟩ := escapeTakes p.region c (e :: rest)
  have length : NativeToken.length? p.region ('\\' :: c :: e :: rest) = some n := length
  intro same
  rw [stepCopies (stepCalm same) (LocalRule.firstUnread standard p.region unread), length] at same
  have reached := (Prod.mk.inj (Except.ok.inj same)).2
  have single : size ['\\'] = 1 := rfl
  rw [Text.sizeAppend, single] at reached
  omega

theorem arrivesKnown {r : Registry} (standard : r.Standard locals) (behind : Text.Behind x y)
    (closed : ∀ e ∈ x.head?, e ∉ ['{', '<']) {front : Text} {c : Char} (plain : c ∉ operators)
    (searches : r.Searches (front ++ c :: y)) {flags : FlagSet}
    (arrives : Arrives (locals.map LocalRule.rule) (front ++ c :: x) flags before p) (part : front = before ++ more)
    (solid : p.context.has .extended → Unicode.isSpace c = false ∧ c ≠ '#') :
    Arrives (locals.map LocalRule.rule) (front ++ c :: y) flags before p := by
  have known := standard.bundled.known
  induction arrives generalizing more with
  | start => exact .start
  | @onward before chunk rest d p q s here split stepped ih =>
    subst part
    obtain rfl : more ++ [c] ++ x = rest := by
      simp only [List.append_assoc, List.append_cancel_left_eq, List.cons_append, List.cons.injEq, true_and] at split
      simpa using split
    have solidBefore (on : p.context.has .extended) := solid (stepKeepsFlag known (by rw [split] at stepped; exact stepped) on)
    have here := ih (List.append_assoc before (d :: chunk) more) solidBefore
    have spelled (z : Text) : before ++ d :: chunk ++ more ++ c :: z = before ++ (d :: chunk ++ (more ++ [c] ++ z)) := by simp
    have last (e : Char) (suffix : [e] <:+ d :: chunk ++ (more ++ [c])) : e = c := by
      obtain ⟨t, same⟩ := suffix
      rw [← List.append_assoc] at same
      exact List.cons.inj (List.append_inj' same rfl).2 |>.1
    rw [spelled] at stepped
    have settled : Settled (d :: chunk ++ (more ++ [c])) := by
      refine ⟨by simp; omega, fun e same => ?_, fun e suffix => last e suffix ▸ plain⟩
      have counts := congrArg List.length same
      simp only [List.length_append, List.length_cons, List.length_nil] at counts
      obtain rfl : chunk = [] := List.eq_nil_of_length_eq_zero (by omega)
      obtain rfl : more = [] := List.eq_nil_of_length_eq_zero (by omega)
      obtain rfl : d = '\\' := (List.cons.inj same).1
      obtain ⟨b, rest, rfl⟩ : ∃ b rest, x = b :: rest := by
        cases behind.apart
        exact ⟨_, _, rfl⟩
      exact escapeSteps standard (closed b rfl) stepped
    refine .onward here (spelled y) (s := s) ?_
    have searches := standard.searches.mp searches
    rw [spelled] at searches ⊢
    exact stepKnown known behind settled (by simp) (fun on e suffix => last e suffix ▸ solidBefore on) searches stepped

end Uncached
end ExtendedPattern
