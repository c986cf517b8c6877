import ExtendedPattern.Proofs.Slots
import Mathlib.Data.List.Sort

/-! Places of written parentheses. The places at which the rules open groups get smaller along the native text.
For an expression they are those of its translation. -/
namespace ExtendedPattern
open Text (size)

def NativeOpener.places (inner : Nat) : NativeOpener → List Nat
  | .capture => [1 + inner]
  | _ => []

namespace Expression

def captures : Native → List Nat
  | empty => []
  | atom _ _ => []
  | group o body q => (o.places (print body).length ++ captures body).map (· + (')' :: text q).length)
  | seq first second => (captures first).map (· + (print second).length) ++ captures second
  | alt first second => (captures first).map (· + ('|' :: print second).length) ++ captures second

end Expression

namespace Compilation

/-- Places of the parentheses that rules wrote for groups: lengths of the native text from each on. -/
def placesOf : List Segment → List Nat
  | [] => []
  | g :: more =>
    if g.opensGroup then ((g :: more).flatMap Segment.fragment).length :: placesOf more else placesOf more

def parentheses (c : Compilation) : List Nat := placesOf c.segments

theorem placesCount (segments : List Segment) :
    (placesOf segments).length = (segments.filter Segment.opensGroup).length := by
  induction segments with
  | nil => rfl
  | cons g more ih => simp only [placesOf, List.filter_cons]; split <;> simp [ih]

theorem placesAppend (front behind : List Segment) : placesOf (front ++ behind) =
    (placesOf front).map (· + (behind.flatMap Segment.fragment).length) ++ placesOf behind := by
  induction front with
  | nil => rfl
  | cons g front ih =>
    simp only [List.cons_append, placesOf]
    split
    · simp [ih, Nat.add_assoc]
    · exact ih

theorem placesDescend (segments : List Segment) : (placesOf segments).Pairwise (· > ·) ∧
    ∀ x ∈ placesOf segments, x ≤ (segments.flatMap Segment.fragment).length := by
  induction segments with
  | nil => simp [placesOf]
  | cons g more ih =>
    obtain ⟨descends, within⟩ := ih
    have longer : (more.flatMap Segment.fragment).length ≤ ((g :: more).flatMap Segment.fragment).length := by simp
    rw [placesOf]
    split
    · rename_i opens
      have fragment : g.fragment = ['('] := by
        simp only [Segment.opensGroup, Bool.and_eq_true, beq_iff_eq] at opens
        exact opens.2
      have longer : (more.flatMap Segment.fragment).length < ((g :: more).flatMap Segment.fragment).length := by
        simp [fragment]
      refine ⟨List.pairwise_cons.mpr ⟨fun x mem => Nat.lt_of_le_of_lt (within x mem) longer, descends⟩, ?_⟩
      exact List.forall_mem_cons.mpr ⟨Nat.le_refl _, fun x mem => Nat.le_trans (within x mem) (Nat.le_of_lt longer)⟩
    · exact ⟨descends, fun x mem => Nat.le_trans (within x mem) longer⟩

theorem noPlaces {segments : List Segment} (none : segments.filter Segment.opensGroup = []) : placesOf segments = [] := by
  rw [← List.length_eq_zero_iff, placesCount, none, List.length_nil]

theorem lonePlace {segments : List Segment} (one : (segments.filter Segment.opensGroup).length = 1)
    (written : segments.flatMap Segment.fragment = ['(']) : placesOf segments = [1] := by
  induction segments with
  | nil => cases one
  | cons g more ih =>
    rw [placesOf]
    split
    · rename_i opens
      rw [List.filter_cons_of_pos opens, List.length_cons, Nat.add_eq_right, List.length_eq_zero_iff] at one
      rw [written, noPlaces one]
      rfl
    · rename_i other
      rw [List.filter_cons_of_neg other] at one
      obtain ⟨_, mem⟩ := List.length_pos_iff_exists_mem.mp (Nat.lt_of_lt_of_eq Nat.one_pos one.symm)
      obtain ⟨member, opens⟩ := List.mem_filter.mp mem
      simp only [Segment.opensGroup, Bool.and_eq_true, beq_iff_eq] at opens
      have present := List.length_pos_of_mem (List.mem_flatMap.mpr ⟨_, member, opens.2 ▸ List.mem_singleton_self '('⟩)
      have length := congrArg List.length written
      rw [List.flatMap_cons, List.length_append, List.length_singleton] at length
      have silent : g.fragment = [] := List.length_eq_zero_iff.mp (by omega)
      rw [List.flatMap_cons, silent, List.nil_append] at written
      exact ih one written

end Compilation

namespace Scanning
open Compilation (placesOf)
variable {limit : Prop} {locals : List LocalRule} {r : Registry} {input before chunk rest out : Text} {a b c : Stage}

theorem movesBehind {p q : Uncached.Progress} (moves : Relation.ReflTransGen (Moves locals input) p q) :
    ∃ more, q.segments.reverse = p.segments.reverse ++ more := by
  induction moves with
  | refl => exact ⟨[], (List.append_nil _).symm⟩
  | tail _ move ih =>
    obtain ⟨more, same⟩ := ih
    obtain ⟨_, _, _, _, _, _, _, stepped⟩ := move
    unfold Uncached.step at stepped
    split at stepped
    · cases stepped
    · cases stepped
      exact ⟨more ++ [_], by rw [List.reverse_cons, same, List.append_assoc]⟩
    · split at stepped <;> cases stepped <;>
        exact ⟨more ++ [_], by rw [Uncached.Progress.copy, List.reverse_cons, same, List.append_assoc]⟩

def OpensUnless (limit : Prop) (locals : List LocalRule) (input before chunk rest : Text) (a b : Stage) (out : Text)
    (places : List Nat) : Prop :=
  input = before ++ (chunk ++ rest) → ∀ (p : Uncached.Progress) (s : Session),
    p.region = a.region → p.context = a.context → p.Accounted →
    (∃ (q : Uncached.Progress) (t : Session) (more : List Segment),
      Uncached.scan (locals.map LocalRule.rule) input (chunk ++ rest) (size before) (size before) p s =
        Uncached.scan (locals.map LocalRule.rule) input rest (size (before ++ chunk))
          (size (before ++ chunk)) q t ∧
      q.region = b.region ∧ q.context = b.context ∧ q.Accounted ∧ q.segments.reverse = p.segments.reverse ++ more ∧
      more.flatMap Segment.fragment = out ∧ placesOf more = places) ∨
    (Uncached.scan (locals.map LocalRule.rule) input (chunk ++ rest) (size before) (size before) p s).1 =
      .error .backtrackLimit ∧ limit

abbrev Opens (locals : List LocalRule) (input before chunk rest : Text) (a b : Stage) (out : Text) (places : List Nat) : Prop :=
  OpensUnless (¬ ∀ l ∈ locals, l.rule.Searches input) locals input before chunk rest a b out places

theorem opensOf (accounts : ∀ l ∈ locals, LocalRule.Accounts l.recognize l.rule.handle)
    (writes : WritesUnless limit locals input before chunk rest a b out) {new : List (Option Text)}
    (grown : b.context.slots = a.context.slots ++ new) {places : List Nat}
    (placed : ∀ more : List Segment, more.flatMap Segment.fragment = out →
      (more.filter Segment.opensGroup).length = new.length → placesOf more = places) :
    OpensUnless limit locals input before chunk rest a b out places := by
  intro split p s region context accounted
  rcases writes split p s region context with ⟨q, t, same, region', context', text, moves⟩ | exceeded
  · obtain ⟨more, behind⟩ := movesBehind moves
    have accounted' := Uncached.movesAccounted accounts moves accounted
    refine .inl ⟨q, t, more, same, region', context', accounted', behind, ?_, placed more ?_ ?_⟩
    · rw [written, written, behind, List.flatMap_append] at text
      exact List.append_cancel_left text
    · rw [written, written, behind, List.flatMap_append] at text
      exact List.append_cancel_left text
    · have count := List.Forall₂.length_eq accounted'
      have count' := List.Forall₂.length_eq accounted
      rw [behind, List.filter_append, List.length_append, count', context', grown, context, List.length_append] at count
      omega
  · exact .inr exceeded

theorem opensNothing : OpensUnless limit locals input before [] rest a a [] [] := by
  intro _ p s region context accounted
  exact .inl ⟨p, s, [], by simp, region, context, accounted, by simp, rfl, rfl⟩

theorem opensThen {more out' : Text} {places places' : List Nat}
    (first : OpensUnless limit locals input before chunk (more ++ rest) a b out places)
    (second : OpensUnless limit locals input (before ++ chunk) more rest b c out' places') :
    OpensUnless limit locals input before (chunk ++ more) rest a c (out ++ out') (places.map (· + out'.length) ++ places') := by
  intro split p s region context accounted
  rw [List.append_assoc]
  rcases first (by simpa using split) p s region context accounted with
    ⟨q, t, front, same, region, context, accounted, behind, rfl, rfl⟩ | exceeded
  · rw [same]
    rcases second (by simpa using split) q t region context accounted with
      ⟨r, u, tail, same', region, context, accounted, behind', rfl, rfl⟩ | exceeded
    · refine .inl ⟨r, u, front ++ tail, by rw [same', List.append_assoc], region, context, accounted, ?_, ?_, ?_⟩
      · rw [behind', behind, List.append_assoc]
      · rw [List.flatMap_append]
      · rw [Compilation.placesAppend]
    · exact .inr exceeded
  · exact .inr exceeded

variable {context : Context}

theorem opensSilently (standard : r.Standard locals)
    (writes : Writes locals input before chunk rest ⟨.outside, context⟩ ⟨.outside, context⟩ out) :
    Opens locals input before chunk rest ⟨.outside, context⟩ ⟨.outside, context⟩ out [] := by
  have grown : context.slots = context.slots ++ [] := (List.append_nil _).symm
  exact opensOf (LocalRule.standardAccounts standard) writes grown fun more _ none =>
    Compilation.noPlaces (List.length_eq_zero_iff.mp none)

theorem opensOpener (standard : r.Standard locals) (o : Opener) (settled : rest.head? ≠ some '?') :
    Opens locals input before (text o) rest ⟨.outside, context⟩ ⟨.outside, context.grow (o.slots context.flags)⟩
      (text (o.translate context.flags)) ((o.translate context.flags).places 0) := by
  refine opensOf (LocalRule.standardAccounts standard) (ofOpener standard o settled) rfl fun more written count => ?_
  cases o with
  | plain =>
    rw [Opener.slots] at count
    rw [Opener.translate] at written ⊢
    split at count
    · rename_i explicit
      rw [if_pos explicit] at written ⊢
      exact Compilation.noPlaces (List.length_eq_zero_iff.mp count)
    · rename_i explicit
      rw [if_neg explicit] at written ⊢
      exact Compilation.lonePlace count written
  | named n word => exact Compilation.lonePlace count written
  | grouping => exact Compilation.noPlaces (List.length_eq_zero_iff.mp count)
  | look ahead negative => exact Compilation.noPlaces (List.length_eq_zero_iff.mp count)

theorem opensExpression (standard : r.Standard locals) (e : Extended) (settled : rest.head? ≠ some '?') :
    Opens locals input before e.print rest ⟨.outside, context⟩ ⟨.outside, context.grow (e.slots context.flags)⟩
      (e.translate context.flags context.slots rest).print (e.translate context.flags context.slots rest).captures := by
  induction e generalizing before rest context with
  | empty =>
    simp only [Expression.slots, Context.growNone]
    exact opensNothing
  | atom l q =>
    simp only [Expression.slots, Context.growNone]
    exact opensSilently standard (andThen (ofLeaf standard l) (ofQuantified standard q settled))
  | group o body q ih =>
    have inner : (body.print ++ (')' :: text q ++ rest)).head? ≠ some '?' := Expression.printHead body (by simp)
    have opener : Opens locals input before (text o) (body.print ++ (')' :: text q ++ rest)) ⟨.outside, context⟩
        ⟨.outside, context.grow (o.slots context.flags)⟩ _ _ := opensOpener standard o inner
    have opened : Opens locals input before (text o ++ body.print) (')' :: text q ++ rest) ⟨.outside, context⟩
        ⟨.outside, _⟩ _ _ := opensThen opener (ih (by simp))
    rw [Context.growTwice] at opened
    have closing : Writes locals input (before ++ (text o ++ body.print)) [')'] (text q ++ rest)
        ⟨.outside, context.grow (o.slots context.flags ++ body.slots context.flags)⟩ _ [')'] :=
      ofLone standard (by decide) (by decide) (by decide) rfl
    have closed : Opens locals input before (text o ++ body.print ++ ([')'] ++ text q)) rest ⟨.outside, context⟩
        ⟨.outside, _⟩ _ _ := opensThen opened (opensSilently standard (andThen closing (ofQuantified standard q settled)))
    rw [List.append_nil] at closed
    rw [Expression.translate]
    cases translated : o.translate context.flags <;> rw [translated] at closed <;> exact closed
  | seq first second first_ih second_ih =>
    have former : Opens locals input before first.print (second.print ++ rest) ⟨.outside, context⟩ _ _ _ :=
      first_ih (Expression.printHead second settled)
    have both : Opens locals input before (first.print ++ second.print) rest ⟨.outside, context⟩ ⟨.outside, _⟩ _ _ :=
      opensThen former (second_ih settled)
    rw [Context.growTwice] at both
    exact both
  | alt first second first_ih second_ih =>
    have former : Opens locals input before first.print ('|' :: second.print ++ rest) ⟨.outside, context⟩ _ _ _ :=
      first_ih (by simp)
    have bar : Writes locals input (before ++ first.print) ['|'] (second.print ++ rest)
        ⟨.outside, context.grow (first.slots context.flags)⟩ _ ['|'] :=
      ofLone standard (by decide) (by decide) (by decide) rfl
    have latter : Opens locals input (before ++ first.print) ('|' :: second.print) rest
        ⟨.outside, context.grow (first.slots context.flags)⟩ ⟨.outside, _⟩ _ _ :=
      opensThen (opensSilently standard bar) (second_ih settled)
    rw [Context.growTwice] at latter
    have both : Opens locals input before (first.print ++ ('|' :: second.print)) rest ⟨.outside, context⟩ ⟨.outside, _⟩ _ _ :=
      opensThen former latter
    exact both

end Scanning

theorem expressionParentheses {r : Registry} {locals : List LocalRule} (standard : r.Standard locals) (e : Extended)
    {flags : FlagSet} {s t : Session} {done : Compilation} (compiled : compile e.print flags r s = (.ok done, t)) :
    done.native = (e.translate flags [] []).print ∧ done.parentheses = (e.translate flags [] []).captures := by
  have opens : Scanning.Opens locals e.print [] e.print [] ⟨.outside, .start flags⟩ ⟨.outside, _⟩ _ _ :=
    Scanning.opensExpression standard e (by simp)
  have accounted : Uncached.Progress.Accounted { context := .start flags } := .nil
  rw [standard.compiles, Uncached.rewrite] at compiled
  split at compiled
  · cases compiled
  · rcases opens (by simp) { context := .start flags } s rfl rfl accounted with
      ⟨q, u, more, same, _, _, _, behind, written, places⟩ | exceeded
    · simp only [List.append_nil, size] at same
      rw [same, Uncached.scan] at compiled
      cases compiled
      exact ⟨(congrArg (List.flatMap Segment.fragment) behind).trans written,
        (congrArg Compilation.placesOf behind).trans places⟩
    · simp only [List.append_nil, size] at exceeded
      split at compiled
      · cases compiled
      · rename_i scanned
        rw [scanned] at exceeded
        cases exceeded.1

end ExtendedPattern
