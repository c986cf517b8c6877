import ExtendedPattern.Proofs.CodeWays
import ExtendedPattern.Proofs.SearchSpans
import Mathlib.Logic.Relation

/-! The engine without backtracking finds a match exactly where the tree has one. No thread comes to a
place that no way leads to, and every place that a way leads to is followed, once. -/
namespace ExtendedPattern
open Text (size)
namespace Engine

namespace Cursor
variable {c d e : Cursor} {x y : Char}

theorem nextApart (c : Cursor) (x : Char) : c.next? ≠ some (x, c) := by
  obtain ⟨before, after, offset⟩ := c
  cases after with
  | nil => simp [next?]
  | cons y rest =>
    intro same
    have after := congrArg (Cursor.after ∘ Prod.snd) (Option.some.inj same)
    simp at after

theorem nextOnce (one : c.next? = some (x, e)) (other : d.next? = some (y, e)) : c = d ∧ x = y := by
  obtain ⟨before, after, offset⟩ := c
  obtain ⟨before', after', offset'⟩ := d
  cases after <;> cases after' <;> simp only [next?, Option.some.injEq, Prod.mk.injEq, reduceCtorEq] at one other
  obtain ⟨rfl, rfl⟩ := one
  obtain ⟨rfl, same⟩ := other
  simp only [Cursor.mk.injEq, List.cons.injEq] at same ⊢
  obtain ⟨⟨rfl, rfl⟩, rfl, offset⟩ := same
  exact ⟨⟨rfl, ⟨rfl, rfl⟩, by omega⟩, rfl⟩

namespace Ahead

theorem within (ahead : c.Ahead d) : c.offset ≤ d.offset := by
  obtain ⟨taken, _, _, offset⟩ := ahead
  omega

theorem still (ahead : c.Ahead d) (same : c.offset = d.offset) : c = d := by
  obtain ⟨taken, after, before, offset⟩ := ahead
  obtain ⟨b, a, o⟩ := c
  obtain ⟨b', a', o'⟩ := d
  dsimp only at after before offset same
  cases taken with
  | nil => simp [after, before, same]
  | cons x taken =>
    have positive := x.utf8Size_pos
    simp only [size] at offset
    omega

theorem antisymm (ahead : c.Ahead d) (back : d.Ahead c) : c = d :=
  ahead.still (Nat.le_antisymm ahead.within back.within)

theorem total (one : c.Ahead d) (other : c.Ahead e) : d.Ahead e ∨ e.Ahead d := by
  obtain ⟨taken, after, before, offset⟩ := one
  obtain ⟨taken', after', before', offset'⟩ := other
  rcases List.append_eq_append_iff.mp (after.symm.trans after') with ⟨more, rfl, rest⟩ | ⟨more, rfl, rest⟩
  · refine .inl ⟨more, rest, ?_, ?_⟩
    · rw [before', before, List.reverse_append, List.append_assoc]
    · rw [offset', offset, Text.sizeAppend, Nat.add_assoc]
  · refine .inr ⟨more, rest, ?_, ?_⟩
    · rw [before, before', List.reverse_append, List.append_assoc]
    · rw [offset, offset', Text.sizeAppend, Nat.add_assoc]

theorem onward (ahead : c.Ahead e) (next : c.next? = some (x, d)) : c = e ∨ d.Ahead e := by
  obtain ⟨before, after, offset⟩ := c
  cases after with
  | nil => simp [next?] at next
  | cons y rest =>
    cases next
    obtain ⟨taken, follows, behind, place⟩ := ahead
    dsimp only at follows behind place
    cases taken with
    | nil =>
      obtain ⟨b, a, o⟩ := e
      simp only [List.nil_append, List.reverse_nil, size, Nat.add_zero] at follows behind place
      exact .inl (by simp [follows, behind, place])
    | cons z more =>
      obtain ⟨rfl, onward⟩ := List.cons.inj follows
      refine .inr ⟨more, onward, ?_, ?_⟩
      · simpa using behind
      · simp only [size] at place ⊢
        omega

theorem back (ahead : c.Ahead e) (next : d.next? = some (x, e)) : c = e ∨ c.Ahead d := by
  obtain ⟨before, after, offset⟩ := d
  cases after with
  | nil => simp [next?] at next
  | cons y rest =>
    cases next
    obtain ⟨taken, follows, behind, place⟩ := ahead
    dsimp only at follows behind place
    rcases List.eq_nil_or_concat taken with rfl | ⟨front, z, rfl⟩
    · obtain ⟨b, a, o⟩ := c
      simp only [List.nil_append, List.reverse_nil, size, Nat.add_zero] at follows behind place
      exact .inl (by simp [follows, behind, place])
    · simp only [List.concat_eq_append, List.reverse_append, List.reverse_cons, List.reverse_nil, List.nil_append,
        List.cons_append, List.cons.injEq, Text.sizeAppend, size] at follows behind place
      obtain ⟨rfl, rfl⟩ := behind
      refine .inr ⟨front, ?_, rfl, ?_⟩
      · simpa using follows
      · dsimp only
        omega

end Ahead
end Cursor

namespace Lockstep

variable {code : List Step} {here start c : Cursor}

inductive Reached (code : List Step) (start : Cursor) : Nat → Cursor → Prop where
  | start : Reached code start 0 start
  | hop {pc c pc' d} (reached : Reached code start pc c) (hop : Hop code pc c pc' d) : Reached code start pc' d

theorem Reached.way {pc : Nat} (reached : Reached code start pc c) : ∃ n, Way code n 0 start pc c := by
  induction reached with
  | start => exact ⟨0, .here 0 start⟩
  | hop _ hop ih =>
    obtain ⟨n, way⟩ := ih
    exact way.trans (.hop hop (.here _ _))

theorem Way.reaches {n pc last : Nat} {d : Cursor} (way : Way code n pc c last d) (reached : Reached code start pc c) :
    Reached code start last d := by
  induction way with
  | here => exact reached
  | hop hop _ ih => exact ih (reached.hop hop)

theorem followReaches {P : Nat → Prop} (hops : ∀ {pc pc'}, P pc → Hop code pc here pc' here → P pc') {fuel seen : Nat}
    {threads : List Thread} (all : ∀ t ∈ threads, P t.pc) :
    ∀ t ∈ follow code.toArray here fuel threads seen, P t.pc := by
  induction fuel generalizing threads seen with
  | zero => simp [follow]
  | succ fuel ih =>
    cases threads with
    | nil => simp [follow]
    | cons t rest =>
      obtain ⟨first, others⟩ := List.forall_mem_cons.mp all
      rw [follow]
      split
      · exact ih others
      dsimp only
      split
      all_goals rename_i step; rw [List.getElem?_toArray] at step
      · refine ih (List.forall_mem_cons.mpr ⟨hops first ((hopsOf step).mpr ⟨rfl, rfl⟩), others⟩)
      · have one := hops first ((hopsOf step).mpr ⟨.inl rfl, rfl⟩)
        have other := hops first ((hopsOf step).mpr ⟨.inr rfl, rfl⟩)
        exact ih (List.forall_mem_cons.mpr ⟨one, List.forall_mem_cons.mpr ⟨other, others⟩⟩)
      · refine ih (List.forall_mem_cons.mpr ⟨hops first ((hopsOf step).mpr ⟨by simp [Thread.move], rfl⟩), others⟩)
      · split
        · rename_i holds
          refine ih (List.forall_mem_cons.mpr ⟨hops first ((hopsOf step).mpr ⟨by simp [Thread.move], rfl, holds⟩), others⟩)
        · exact ih others
      · exact List.forall_mem_cons.mpr ⟨first, ih others⟩
      · exact List.forall_mem_cons.mpr ⟨first, ih others⟩

theorem settleReaches {threads : List Thread} (all : ∀ t ∈ threads, Reached code start t.pc here) :
    ∀ t ∈ settle code.toArray here threads, Reached code start t.pc here :=
  followReaches (fun reached hop => Reached.hop reached hop) all

theorem takes {t u : Thread} {x : Char} (taken : t.take? code.toArray x = some u) :
    ∃ s, code[t.pc]? = some (.one s) ∧ s.has x ∧ u.pc = t.pc + 1 := by
  unfold Thread.take? at taken
  split at taken <;> try contradiction
  rename_i s step
  split at taken <;> cases taken
  rename_i has
  exact ⟨s, by rwa [List.getElem?_toArray] at step, has, by simp [Thread.move]⟩

theorem firstStop {p : Thread → Bool} {ts : List Thread} {t : Thread}
    (at_ : ts[(ts.takeWhile p).length]? = some t) : t ∈ ts ∧ p t = false := by
  induction ts with
  | nil => contradiction
  | cons u rest ih =>
    rw [List.takeWhile_cons] at at_
    cases runs : p u with
    | true =>
      obtain ⟨mem, stops⟩ := ih (by simpa [runs] using at_)
      exact ⟨List.mem_cons_of_mem u mem, stops⟩
    | false =>
      obtain rfl : u = t := by simpa [runs] using at_
      exact ⟨List.mem_cons_self, runs⟩

def Arrives (code : List Step) (start stop : Cursor) : Prop := ∃ pc, code.length ≤ pc ∧ Reached code start pc stop

theorem bestArrives {threads : List Thread} {best : Option Arrival} (all : ∀ t ∈ threads, Reached code start t.pc here)
    (old : ∀ a ∈ best, Arrives code start a.stop) :
    ∀ a ∈ (match threads[(threads.takeWhile (fun t => t.pc < code.toArray.size)).length]? with
      | some t => some (Arrival.mk t.slots here)
      | none => best), Arrives code start a.stop := by
  intro a mem
  split at mem
  · rename_i t at_
    cases mem
    obtain ⟨mem, stops⟩ := firstStop at_
    exact ⟨t.pc, by simpa using stops, all t mem⟩
  · exact old a mem

theorem raceArrives {after before : Text} {offset : Nat} {threads : List Thread} {best : Option Arrival}
    {arrival : Arrival}
    (all : ∀ t ∈ threads, Reached code start t.pc ⟨before, after, offset⟩)
    (old : ∀ a ∈ best, Arrives code start a.stop)
    (found : race code.toArray after before offset threads best = some arrival) : Arrives code start arrival.stop := by
  induction after generalizing before offset threads best with
  | nil => exact bestArrives all old _ found
  | cons x rest ih =>
    have best' := bestArrives all old
    simp only [race] at found
    split at found
    · exact best' _ found
    · refine ih (settleReaches fun u mem => ?_) best' found
      obtain ⟨t, running, taken⟩ := List.mem_filterMap.mp mem
      obtain ⟨s, step, has, pc⟩ := takes taken
      rw [pc]
      exact (all t ((List.takeWhile_sublist _).mem running)).hop ((hopsOf step).mpr ⟨rfl, x, rfl, has⟩)

theorem runArrives {groups : Nat} {arrival : Arrival} (found : run code.toArray groups here = some arrival) :
    Arrives code here arrival.stop := by
  have first : ∀ t ∈ [Thread.mk 0 (Slots.blank groups)], Reached code here t.pc here :=
    List.forall_mem_singleton.mpr .start
  exact raceArrives (settleReaches first) (by simp) found

def unseen (code : List Step) (seen : Nat) : Nat := (List.range code.length).countP fun pc => !seen.testBit pc

theorem markSeen (seen pc other : Nat) :
    (seen ||| (1 <<< pc)).testBit other = (seen.testBit other || decide (pc = other)) := by
  simp [Nat.testBit_or, Nat.one_shiftLeft, Nat.testBit_two_pow]

theorem unseenWithin (seen pc : Nat) : unseen code (seen ||| (1 <<< pc)) ≤ unseen code seen :=
  List.countP_mono_left fun other _ fresh => by
    simp only [markSeen, Bool.not_or, Bool.and_eq_true] at fresh
    exact fresh.1

theorem countLess {p q : Nat → Bool} {places : List Nat} {x : Nat} (fewer : ∀ y, p y → q y) (mem : x ∈ places)
    (was : q x) (gone : p x = false) : places.countP p < places.countP q := by
  obtain ⟨front, back, rfl⟩ := List.append_of_mem mem
  have before := List.countP_mono_left (l := front) fun y _ => fewer y
  have behind := List.countP_mono_left (l := back) fun y _ => fewer y
  simp only [List.countP_append, List.countP_cons, was, gone, if_true, Bool.false_eq_true, if_false]
  omega

theorem unseenMark {seen pc : Nat} (inside : pc < code.length) (fresh : seen.testBit pc = false) :
    unseen code (seen ||| (1 <<< pc)) < unseen code seen := by
  refine countLess (x := pc) (fun y => ?_) (List.mem_range.mpr inside) (by simp [fresh]) (by rw [markSeen]; simp)
  rw [markSeen, Bool.not_or, Bool.and_eq_true]
  exact And.left

def Waits (code : List Step) (pc : Nat) : Prop := code[pc]? = none ∨ ∃ s, code[pc]? = some (.one s)

def Closes (code : List Step) (here : Cursor) (seen : Nat) (threads out : List Thread) : Prop :=
  ∃ P : Nat → Prop, (∀ pc, seen.testBit pc → P pc) ∧ (∀ t ∈ threads, P t.pc) ∧
    ∀ pc, P pc → seen.testBit pc = false → (∀ pc', Hop code pc here pc' here → P pc') ∧
      (Waits code pc → ∃ t ∈ out, t.pc = pc)

theorem Closes.again {seen : Nat} {t : Thread} {rest out : List Thread} (closes : Closes code here seen rest out)
    (known : seen.testBit t.pc) : Closes code here seen (t :: rest) out := by
  obtain ⟨P, keeps, holds, closed⟩ := closes
  exact ⟨P, keeps, List.forall_mem_cons.mpr ⟨keeps _ known, holds⟩, closed⟩

theorem Closes.fresh {seen : Nat} {t : Thread} {rest stack out more : List Thread}
    (closes : Closes code here (seen ||| (1 <<< t.pc)) stack out) (below : ∀ u ∈ rest, u ∈ stack)
    (grows : ∀ u ∈ out, u ∈ more) (next : ∀ pc', Hop code t.pc here pc' here → ∃ u ∈ stack, u.pc = pc')
    (waits : Waits code t.pc → t ∈ more) : Closes code here seen (t :: rest) more := by
  obtain ⟨P, keeps, holds, closed⟩ := closes
  have marked : P t.pc := keeps t.pc (by rw [markSeen]; simp)
  refine ⟨P, fun pc known => keeps pc (by rw [markSeen, known, Bool.true_or]),
    List.forall_mem_cons.mpr ⟨marked, fun u mem => holds u (below u mem)⟩, fun pc inside fresh => ?_⟩
  by_cases same : t.pc = pc
  · subst same
    refine ⟨fun pc' hop => ?_, fun wait => ⟨t, waits wait, rfl⟩⟩
    obtain ⟨u, mem, rfl⟩ := next pc' hop
    exact holds u mem
  · obtain ⟨hops, wait⟩ := closed pc inside (by rw [markSeen, fresh]; simp [same])
    refine ⟨hops, fun waiting => ?_⟩
    obtain ⟨u, mem, pc⟩ := wait waiting
    exact ⟨u, grows u mem, pc⟩

theorem waitsNot {pc : Nat} {step : Step} (at_ : code[pc]? = some step) (moves : ∀ s, step ≠ .one s) :
    ¬ Waits code pc := by
  rintro (none | ⟨s, one⟩)
  · cases at_.symm.trans none
  · exact moves s (Option.some.inj (at_.symm.trans one))

theorem followCloses {fuel seen : Nat} {threads : List Thread}
    (enough : threads.length + 2 * unseen code seen < fuel) :
    Closes code here seen threads (follow code.toArray here fuel threads seen) := by
  -- A fresh place puts at most two threads on the stack and is unseen no more, so the measure falls.
  induction fuel generalizing threads seen with
  | zero => contradiction
  | succ fuel ih =>
    cases threads with
    | nil => exact ⟨fun pc => seen.testBit pc, fun _ => id, by simp, fun pc known fresh => by simp [known] at fresh⟩
    | cons t rest =>
      rw [List.length_cons] at enough
      rw [follow]
      by_cases known : seen.testBit t.pc
      · rw [if_pos known]
        exact (ih (by omega)).again known
      rw [if_neg known]
      have within : unseen code (seen ||| (1 <<< t.pc)) ≤ unseen code seen := unseenWithin seen t.pc
      have less (step : Step) (at_ : code[t.pc]? = some step) : unseen code (seen ||| (1 <<< t.pc)) < unseen code seen :=
        unseenMark (List.getElem?_eq_some_iff.mp at_).1 (eq_false_of_ne_true known)
      have goesOn (u : Thread) {step : Step} (at_ : code[t.pc]? = some step) (moves : ∀ s, step ≠ .one s)
          (next : ∀ pc', Hop code t.pc here pc' here → pc' = u.pc) :
          Closes code here seen (t :: rest) (follow code.toArray here fuel (u :: rest) (seen ||| (1 <<< t.pc))) := by
        have fewer := less step at_
        refine (ih (by simp only [List.length_cons]; omega)).fresh (fun v => List.mem_cons_of_mem u) (fun v => id) ?_
          fun wait => absurd wait (waitsNot at_ moves)
        intro pc' hop
        exact ⟨u, List.mem_cons_self, (next pc' hop).symm⟩
      dsimp only
      split
      all_goals rename_i step; rw [List.getElem?_toArray] at step
      · exact goesOn _ step (by simp) fun pc' hop => ((hopsOf step).mp hop).1
      · have fewer := less _ step
        refine (ih (by simp only [List.length_cons]; omega)).fresh
          (fun u mem => List.mem_cons_of_mem _ (List.mem_cons_of_mem _ mem)) (fun u => id) ?_
          fun wait => absurd wait (waitsNot step (by simp))
        intro pc' hop
        obtain ⟨rfl | rfl, _⟩ := (hopsOf step).mp hop
        · exact ⟨_, List.mem_cons_self, rfl⟩
        · exact ⟨_, List.mem_cons_of_mem _ List.mem_cons_self, rfl⟩
      · refine goesOn _ step (by simp) fun pc' hop => ?_
        obtain ⟨rfl, _⟩ := (hopsOf step).mp hop
        simp [Thread.move]
      · have fewer := less _ step
        split
        · refine goesOn _ step (by simp) fun pc' hop => ?_
          obtain ⟨rfl, _⟩ := (hopsOf step).mp hop
          simp [Thread.move]
        · rename_i fails
          refine (ih (by omega)).fresh (fun u => id) (fun u => id) ?_ fun wait => absurd wait (waitsNot step (by simp))
          intro pc' hop
          exact absurd ((hopsOf step).mp hop).2.2 fails
      · refine (ih (by omega)).fresh (fun u => id) (fun u => List.mem_cons_of_mem _) ?_ fun _ => List.mem_cons_self
        intro pc' hop
        obtain ⟨_, x, taken, _⟩ := (hopsOf step).mp hop
        exact absurd taken (Cursor.nextApart here x)
      · refine (ih (by omega)).fresh (fun u => id) (fun u => List.mem_cons_of_mem _) ?_ fun _ => List.mem_cons_self
        rintro pc' ⟨step', at_, _⟩
        cases step.symm.trans at_

theorem settleWaits {threads : List Thread} {t : Thread} (mem : t ∈ threads) {pc : Nat}
    (leads : Relation.ReflTransGen (fun p q => Hop code p here q here) t.pc pc) (waits : Waits code pc) :
    ∃ u ∈ settle code.toArray here threads, u.pc = pc := by
  have few : unseen code 0 ≤ code.length := by
    have bound := List.countP_le_length (p := fun pc => !Nat.testBit 0 pc) (l := List.range code.length)
    rwa [List.length_range] at bound
  have enough : threads.length + 2 * unseen code 0 < threads.length + 2 * code.toArray.size + 2 := by
    rw [List.size_toArray]
    omega
  obtain ⟨P, _, holds, closed⟩ : Closes code here 0 threads (settle code.toArray here threads) := followCloses enough
  have inside : P pc := by
    clear waits
    induction leads with
    | refl => exact holds t mem
    | tail _ hop ih => exact (closed _ ih (Nat.zero_testBit _)).1 _ hop
  exact (closed pc inside (Nat.zero_testBit pc)).2 waits

theorem hopTakes {pc pc' : Nat} {d : Cursor} (hop : Hop code pc c pc' d) :
    c = d ∨ ∃ s x, code[pc]? = some (.one s) ∧ pc' = pc + 1 ∧ c.next? = some (x, d) ∧ s.has x := by
  obtain ⟨step, at_, leads⟩ := hop
  cases step with
  | one s =>
    obtain ⟨rfl, x, taken, has⟩ := leads
    exact .inr ⟨s, x, at_, rfl, taken, has⟩
  | check => exact .inl leads.2.1
  | _ => exact .inl leads.2

theorem reachedAhead {pc : Nat} (reached : Reached code start pc c) : start.Ahead c := by
  induction reached with
  | start => exact .refl start
  | hop _ hop ih =>
    rcases hopTakes hop with rfl | ⟨_, _, _, _, taken, _⟩
    · exact ih
    · exact ih.trans (.next taken)

theorem startSettles {pc : Nat} (reached : Reached code start pc c) (still : c = start) :
    Relation.ReflTransGen (fun p q => Hop code p start q start) 0 pc := by
  induction reached with
  | start => exact .refl
  | hop reached hop ih =>
    subst still
    rcases hopTakes hop with rfl | ⟨_, x, _, _, taken, _⟩
    · exact (ih rfl).tail hop
    · have same := (reachedAhead reached).antisymm (.next taken)
      rw [← same] at taken
      exact absurd taken (Cursor.nextApart _ x)

theorem lastTaken {pc : Nat} {d : Cursor} {x : Char} (reached : Reached code start pc d) (behind : start.Ahead here)
    (next : here.next? = some (x, d)) :
    ∃ pc₀ s, Reached code start pc₀ here ∧ code[pc₀]? = some (.one s) ∧ s.has x ∧
      Relation.ReflTransGen (fun p q => Hop code p d q d) (pc₀ + 1) pc := by
  induction reached with
  | start =>
    have same := behind.antisymm (.next next)
    rw [← same] at next
    exact absurd next (Cursor.nextApart _ x)
  | hop reached hop ih =>
    rcases hopTakes hop with rfl | ⟨s, y, step, rfl, taken, has⟩
    · obtain ⟨pc₀, s, first, step, has, silent⟩ := ih next
      exact ⟨pc₀, s, first, step, has, silent.tail hop⟩
    · obtain ⟨rfl, rfl⟩ := Cursor.nextOnce next taken
      exact ⟨_, s, reached, step, has, .refl⟩

theorem waitsBetween {pc : Nat} {stop : Cursor} (reached : Reached code start pc stop) (behind : start.Ahead here)
    (ahead : here.Ahead stop) :
    here = stop ∨ ∃ pc₀ s x next, Reached code start pc₀ here ∧ code[pc₀]? = some (.one s) ∧
      here.next? = some (x, next) ∧ s.has x := by
  induction reached with
  | start => exact .inl (ahead.antisymm behind)
  | hop reached hop ih =>
    rcases hopTakes hop with rfl | ⟨s, x, step, rfl, taken, has⟩
    · exact ih ahead
    · rcases ahead.back taken with same | before
      · exact .inl same
      · rcases ih before with rfl | waits
        · exact .inr ⟨_, s, x, _, reached, step, taken, has⟩
        · exact .inr waits

theorem raceKeeps {after before : Text} {offset : Nat} {threads : List Thread} {best : Option Arrival}
    (arrived : best.isSome) : (race code.toArray after before offset threads best).isSome := by
  induction after generalizing before offset threads best with
  | nil =>
    simp only [race]
    split
    · rfl
    · exact arrived
  | cons x rest ih =>
    simp only [race]
    cases threads[(threads.takeWhile (fun t => decide (t.pc < code.toArray.size))).length]? with
    | some t =>
      split
      · rfl
      · exact ih rfl
    | none =>
      split
      · exact arrived
      · exact ih arrived

theorem someStops {p : Thread → Bool} {ts : List Thread} {t : Thread} (mem : t ∈ ts) (stops : p t = false) :
    ∃ u, ts[(ts.takeWhile p).length]? = some u := by
  induction ts with
  | nil => contradiction
  | cons u rest ih =>
    rw [List.takeWhile_cons]
    cases runs : p u with
    | false => exact ⟨u, by simp⟩
    | true =>
      rcases List.mem_cons.mp mem with rfl | later
      · cases stops.symm.trans runs
      · simpa using ih later

def Covers (code : List Step) (start here : Cursor) (threads : List Thread) : Prop :=
  ∀ pc, Reached code start pc here → Waits code pc → ∃ t ∈ threads, t.pc = pc

theorem Covers.stops {threads : List Thread} {last : Nat} (covers : Covers code start here threads)
    (reached : Reached code start last here) (outside : code.length ≤ last) :
    ∃ u, threads[(threads.takeWhile (fun t => decide (t.pc < code.toArray.size))).length]? = some u := by
  obtain ⟨t, mem, rfl⟩ := covers last reached (.inl (List.getElem?_eq_none outside))
  exact someStops mem (by simpa using outside)

theorem Covers.next {threads : List Thread} {x : Char} {next : Cursor} (covers : Covers code start here threads)
    (behind : start.Ahead here) (taken : here.next? = some (x, next)) :
    Covers code start next (settle code.toArray next (threads.filterMap (·.take? code.toArray x))) := by
  intro last reached waits
  obtain ⟨pc, s, first, step, has, silent⟩ := lastTaken reached behind taken
  obtain ⟨t, mem, rfl⟩ := covers pc first (.inr ⟨s, step⟩)
  have moves : t.take? code.toArray x = some (t.move 1) := by
    rw [Thread.take?, List.getElem?_toArray, step]
    exact if_pos has
  exact settleWaits (List.mem_filterMap.mpr ⟨t, mem, moves⟩) silent waits

theorem raceFinds {after before : Text} {offset last : Nat} {threads : List Thread} {best : Option Arrival}
    {stop : Cursor}
    (covers : Covers code start ⟨before, after, offset⟩ threads) (behind : start.Ahead ⟨before, after, offset⟩)
    (ahead : Cursor.Ahead ⟨before, after, offset⟩ stop) (reached : Reached code start last stop)
    (outside : code.length ≤ last) : (race code.toArray after before offset threads best).isSome := by
  induction after generalizing before offset threads best with
  | nil =>
    rcases waitsBetween reached behind ahead with rfl | ⟨_, _, x, next, _, _, taken, _⟩
    · obtain ⟨u, stops⟩ := covers.stops reached outside
      simp only [race, stops]
      rfl
    · cases taken
  | cons x rest ih =>
    simp only [race]
    cases stops : threads[(threads.takeWhile (fun t => decide (t.pc < code.toArray.size))).length]? with
    | some u =>
      split
      · rfl
      · exact raceKeeps rfl
    | none =>
      have running : threads.takeWhile (fun t => decide (t.pc < code.toArray.size)) = threads :=
        (List.takeWhile_prefix _).eq_of_length_le (List.getElem?_eq_none_iff.mp stops)
      have apart : Cursor.mk before (x :: rest) offset ≠ stop := by
        rintro rfl
        obtain ⟨u, some⟩ := covers.stops reached outside
        cases stops.symm.trans some
      rcases waitsBetween reached behind ahead with here | ⟨pc, s, y, next, first, step, taken, has⟩
      · exact absurd here apart
      · obtain ⟨t, mem, _⟩ := covers pc first (.inr ⟨s, step⟩)
        have present : threads.isEmpty = false := by cases mem <;> rfl
        rw [running, present]
        refine ih (covers.next behind rfl) (behind.trans (.step before rest x offset)) ?_
        exact (ahead.onward (x := x) rfl).resolve_left apart

theorem runFinds {groups last : Nat} {stop : Cursor} (reached : Reached code here last stop)
    (outside : code.length ≤ last) :
    (run code.toArray groups here).isSome := by
  refine raceFinds (fun pc reached waits => ?_) (.refl here) (reachedAhead reached) reached outside
  exact settleWaits (List.mem_cons_self (a := Thread.mk 0 (Slots.blank groups))) (startSettles reached rfl) waits

theorem runStops {n : Node} {referenced : List Nat} (easy : (n.shape referenced).hard = false)
    (bounded : Code.isBounded n) {groups : Nat} {arrival : Arrival}
    (found : run (Code.ofNode n).toArray groups here = some arrival) : n.Matches here arrival.stop := by
  obtain ⟨pc, outside, reached⟩ := runArrives found
  obtain ⟨steps, way⟩ := reached.way
  obtain ⟨m, _, _, taken, others⟩ := (nodeBlock n easy bounded).leaves (.whole _) way (.inr (by omega))
  cases others with
  | here => exact taken
  | hop hop _ =>
    obtain ⟨step, at_, _⟩ := hop
    simp at at_

theorem runIff {n : Node} {referenced : List Nat} (easy : (n.shape referenced).hard = false)
    (bounded : Code.isBounded n) (groups : Nat) (here : Cursor) :
    (run (Code.ofNode n).toArray groups here).isSome ↔ ∃ d, n.Matches here d := by
  constructor
  · intro found
    obtain ⟨arrival, found⟩ := Option.isSome_iff_exists.mp found
    exact ⟨arrival.stop, runStops easy bounded found⟩
  · rintro ⟨d, taken⟩
    obtain ⟨steps, way⟩ := (nodeBlock n easy bounded).passes (.whole _) taken
    exact runFinds (way.reaches .start) (by omega)

end Lockstep
end Engine
end ExtendedPattern
