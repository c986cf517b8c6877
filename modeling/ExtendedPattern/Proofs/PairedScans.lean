import ExtendedPattern.Proofs.StandardRules
import Mathlib.Data.List.Forall2

/-! Two scans side by side. They read the same text, behind texts and under contexts that may differ.
While every rule sees the same token in both and its answers belong together, both cut the text in the
same way, and where one of them fails the other fails alike. -/
namespace ExtendedPattern
open Text (size)

structure Pairing where
  contexts : Context → Context → Prop
  fragments : Text → Text → Prop
  copied : ∀ t, fragments t t

namespace Pairing
open Uncached (Progress)

inductive Answers (P : Pairing) :
    Except Failure (Text × Context) → Except Failure (Text × Context) → Prop where
  | fail (e : Failure) : Answers P (.error e) (.error e)
  | write {out out' : Text} {c d : Context} (fragment : P.fragments out out') (context : P.contexts c d) :
      Answers P (.ok (out, c)) (.ok (out', d))

structure Segments (P : Pairing) (g h : Segment) : Prop where
  source : g.source = h.source
  rewritten : g.rewritten = h.rewritten
  fragment : P.fragments g.fragment h.fragment

theorem copiedSegments (P : Pairing) (source : Text) : P.Segments ⟨source, source, false⟩ ⟨source, source, false⟩ :=
  ⟨rfl, rfl, P.copied source⟩

structure Onward (P : Pairing) (p q p' q' : Progress) : Prop where
  region : p'.region = q'.region
  context : P.contexts p'.context q'.context
  segments : ∃ a b, p'.segments = a ++ p.segments ∧ q'.segments = b ++ q.segments ∧ List.Forall₂ P.Segments a b

variable {P : Pairing} {p q p' q' p'' q'' : Progress}

theorem Onward.refl (region : p.region = q.region) (context : P.contexts p.context q.context) : P.Onward p q p q :=
  ⟨region, context, [], [], rfl, rfl, .nil⟩

theorem Onward.trans (first : P.Onward p q p' q') (second : P.Onward p' q' p'' q'') : P.Onward p q p'' q'' := by
  obtain ⟨a, b, segments, segments', paired⟩ := first.segments
  obtain ⟨c, d, more, more', paired'⟩ := second.segments
  refine ⟨second.region, second.context, c ++ a, d ++ b, ?_, ?_, List.rel_append paired' paired⟩
  · rw [more, segments, List.append_assoc]
  · rw [more', segments', List.append_assoc]

inductive Steps (P : Pairing) (pos pos' : Nat) (p q : Progress) :
    Except Failure (Progress × Nat) → Except Failure (Progress × Nat) → Prop where
  | fail (e : Failure) : Steps P pos pos' p q (.error e) (.error e)
  | goOn {p' q' : Progress} (length : Nat) (onward : P.Onward p q p' q') :
      Steps P pos pos' p q (.ok (p', pos + length)) (.ok (q', pos' + length))

inductive Ends (P : Pairing) (p q : Progress) : Except Failure Progress → Except Failure Progress → Prop where
  | fail (e : Failure) : Ends P p q (.error e) (.error e)
  | done {p' q' : Progress} (onward : P.Onward p q p' q') : Ends P p q (.ok p') (.ok q')

theorem Ends.behind {result result' : Except Failure Progress} (first : P.Onward p q p' q')
    (ends : P.Ends p' q' result result') : P.Ends p q result result' := by
  cases ends with
  | fail e => exact .fail e
  | done onward => exact .done (first.trans onward)

inductive Compilations (P : Pairing) : Except Failure Compilation → Except Failure Compilation → Prop where
  | fail (e : Failure) : Compilations P (.error e) (.error e)
  | done {a b : Compilation} (segments : List.Forall₂ P.Segments a.segments b.segments)
      (context : P.contexts a.context b.context) : Compilations P (.ok a) (.ok b)

theorem sameFragments {a b : List Segment} (same : ∀ {out out'}, P.fragments out out' → out = out')
    (paired : List.Forall₂ P.Segments a b) : a.flatMap Segment.fragment = b.flatMap Segment.fragment := by
  induction paired with
  | nil => rfl
  | cons segments _ ih => rw [List.flatMap_cons, List.flatMap_cons, same segments.fragment, ih]

end Pairing

namespace LocalRule

structure Pairs (P : Pairing) (l : LocalRule) (before before' t : Text) : Prop where
  seen : ∀ {c d} region, P.contexts c d →
    l.sees? region c (size before) t = l.sees? region d (size before') t
  answers : ∀ {c d region groups}, P.contexts c d → l.sees? region c (size before) t = some groups → ∀ s u,
    P.Answers (l.rule.handle (token (before ++ t) (size before) groups) region c s).1
      (l.rule.handle (token (before' ++ t) (size before') groups) region d u).1

variable {P : Pairing} {locals : List LocalRule} {before before' t : Text} {c d : Context}

theorem firstSame (pairs : ∀ l ∈ locals, l.Pairs P before before' t) (region : Region) (contexts : P.contexts c d) :
    first? locals region c (size before) t = first? locals region d (size before') t := by
  unfold first?
  induction locals with
  | nil => rfl
  | cons l others ih =>
    obtain ⟨head, tail⟩ := List.forall_mem_cons.mp pairs
    rw [List.findSome?_cons, List.findSome?_cons, head.seen region contexts, ih tail]

theorem givesUpAlike (pairs : ∀ l ∈ locals, l.Pairs P before before' t) (region : Region) (contexts : P.contexts c d) :
    anyGivesUp region c (size before) t locals = anyGivesUp region d (size before') t locals := by
  induction locals with
  | nil => rfl
  | cons l others ih =>
    obtain ⟨head, tail⟩ := List.forall_mem_cons.mp pairs
    rw [anyGivesUp, anyGivesUp, givesUpSame l region c d (size before) (size before'), head.seen region contexts, ih tail]

end LocalRule

namespace Uncached
open Pairing
variable {P : Pairing} {locals : List LocalRule} {before before' : Text} {p q : Progress}

theorem copyPairs {region region' : Region} (contexts : P.contexts p.context q.context) (same : region = region')
    (rest : Text) (length : Nat) :
    P.Onward p q { p.copy rest length with region } { q.copy rest length with region := region' } :=
  ⟨same, contexts, [_], [_], rfl, rfl, .cons (P.copiedSegments _) .nil⟩

theorem stepLength (pos stop length : Nat) :
    (if pos < pos + stop then pos + stop else pos + length) = pos + (if 0 < stop then stop else length) := by
  split <;> split <;> omega

theorem stepsPair {ch : Char} {rest : Text} (pairs : ∀ l ∈ locals, l.Pairs P before before' (ch :: rest))
    (region : p.region = q.region) (contexts : P.contexts p.context q.context) (s u : Session) :
    P.Steps (size before) (size before') p q
      (step (locals.map LocalRule.rule) (before ++ ch :: rest) ch rest (size before) p s).1
      (step (locals.map LocalRule.rule) (before' ++ ch :: rest) ch rest (size before') q u).1 := by
  have same := LocalRule.firstSame pairs p.region contexts
  have alike := LocalRule.givesUpAlike pairs p.region contexts
  simp only [step, Session.whileInRules, LocalRule.fireFirst, ← region, ← same, ← alike]
  by_cases gives : LocalRule.anyGivesUp p.region p.context (size before) (ch :: rest) locals = true
  · simp only [gives, if_true]
    exact .fail .backtrackLimit
  simp only [gives, Bool.false_eq_true, if_false]
  cases first : LocalRule.first? locals p.region p.context (size before) (ch :: rest) with
  | none =>
    simp only [LocalRule.respond]
    cases NativeToken.length? p.region (ch :: rest) with
    | some length => exact .goOn length (copyPairs contexts region _ length)
    | none => exact .goOn ch.utf8Size (copyPairs contexts (congrArg (Rewrite.regionAfter · ch) region) _ ch.utf8Size)
  | some found =>
    obtain ⟨l, groups⟩ := found
    obtain ⟨mem, seen⟩ := LocalRule.firstSees first
    obtain ⟨g, whole⟩ := LocalRule.seenWhole seen
    simp only [LocalRule.respond, LocalRule.answer]
    have answers := (pairs l mem).answers contexts seen
    generalize handled : l.rule.handle _ _ p.context _ = result
    generalize handled' : l.rule.handle _ _ q.context _ = result'
    have answers := handled ▸ handled' ▸ answers _ _
    obtain ⟨result, s⟩ := result
    obtain ⟨result', u⟩ := result'
    cases answers with
    | fail e => exact .fail e
    | write fragment context =>
      dsimp only
      rw [LocalRule.tokenStop whole, LocalRule.tokenStop whole, stepLength, stepLength]
      refine .goOn _ ⟨rfl, context, [_], [_], rfl, rfl, .cons ⟨?_, rfl, fragment⟩ .nil⟩
      rw [Nat.add_sub_cancel_left, Nat.add_sub_cancel_left]

theorem scansPair {input input' rest : Text} (split : input = before ++ rest) (split' : input' = before' ++ rest)
    (pairs : ∀ {middle t}, rest = middle ++ t → t ≠ [] → ∀ l ∈ locals, l.Pairs P (before ++ middle) (before' ++ middle) t)
    (region : p.region = q.region) (contexts : P.contexts p.context q.context) {next next' : Nat}
    (skip : next - size before = next' - size before') (s u : Session) :
    P.Ends p q (scan (locals.map LocalRule.rule) input rest (size before) next p s).1
      (scan (locals.map LocalRule.rule) input' rest (size before') next' q u).1 := by
  induction rest generalizing before before' p q next next' s u with
  | nil => exact .done (.refl region contexts)
  | cons c rest ih =>
    have moved (before : Text) : size before + c.utf8Size = size (before ++ [c]) := by simp [Text.sizeAppend, size]
    have split₁ : input = (before ++ [c]) ++ rest := by simpa using split
    have split₂ : input' = (before' ++ [c]) ++ rest := by simpa using split'
    have later : ∀ {middle t}, rest = middle ++ t → t ≠ [] →
        ∀ l ∈ locals, l.Pairs P (before ++ [c] ++ middle) (before' ++ [c] ++ middle) t := by
      intro middle t same present
      rw [List.append_assoc, List.append_assoc]
      exact pairs (by rw [same]; rfl) present
    simp only [scan, moved]
    by_cases inside : size before < next
    · have inside' : size before' < next' := by omega
      rw [if_pos inside, if_pos inside']
      refine ih split₁ split₂ later region contexts ?_ s u
      rw [← moved, ← moved]
      omega
    · have outside' : ¬ size before' < next' := by omega
      rw [if_neg inside, if_neg outside', split, split']
      have here : ∀ l ∈ locals, l.Pairs P before before' (c :: rest) := by
        have first := pairs (List.nil_append (c :: rest)).symm (by simp)
        simpa using first
      have stepped := stepsPair here region contexts s u
      generalize step _ _ _ _ _ p s = result at stepped ⊢
      generalize step _ _ _ _ _ q u = result' at stepped ⊢
      obtain ⟨result, s'⟩ := result
      obtain ⟨result', u'⟩ := result'
      cases stepped with
      | fail e => exact .fail e
      | goOn length onward =>
        rw [← split, ← split']
        refine .behind onward (ih split₁ split₂ later onward.region onward.context ?_ s' u')
        rw [← moved, ← moved]
        omega

end Uncached

theorem compilesPair {P : Pairing} {r : Registry} {locals : List LocalRule} {pattern : Text} {f g : FlagSet}
    (rules : r.rules = locals.map LocalRule.rule)
    (pairs : ∀ {before t}, pattern = before ++ t → t ≠ [] → ∀ l ∈ locals, l.Pairs P before before t)
    (contexts : P.contexts (.start f) (.start g)) {s u : Session} (idle : s.inRules = false) (idle' : u.inRules = false) :
    P.Compilations (compile pattern f r s).1 (compile pattern g r u).1 := by
  rw [compilesLocally rules, compilesLocally rules, Uncached.rewrite, Uncached.rewrite,
    if_neg (by simp [idle]), if_neg (by simp [idle'])]
  have same : (Uncached.Progress.mk .outside (.start f) []).region = (Uncached.Progress.mk .outside (.start g) []).region :=
    rfl
  have ends := Uncached.scansPair (List.nil_append pattern).symm (List.nil_append pattern).symm pairs same contexts
    (Nat.sub_self 0) s u
  change P.Ends _ _ (Uncached.scan _ pattern pattern 0 0 _ s).1 (Uncached.scan _ pattern pattern 0 0 _ u).1 at ends
  generalize Uncached.scan _ pattern pattern 0 0 _ s = result at ends ⊢
  generalize Uncached.scan _ pattern pattern 0 0 _ u = result' at ends ⊢
  obtain ⟨result, s'⟩ := result
  obtain ⟨result', u'⟩ := result'
  cases ends with
  | fail e => exact .fail e
  | done onward =>
    obtain ⟨a, b, segments, segments', paired⟩ := onward.segments
    refine .done ?_ onward.context
    rw [segments, segments', List.append_nil, List.append_nil]
    exact List.forall₂_reverse_iff.mpr paired

end ExtendedPattern
