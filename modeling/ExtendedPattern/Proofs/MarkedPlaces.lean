import ExtendedPattern.Engine.Backtrack
import ExtendedPattern.Proofs.Places

/-! What the engine marks. A cursor that walks over a text, forwards or back, always stands at a
place of it, and only where a cursor stands is an offset put in a slot. -/
namespace ExtendedPattern.Engine
open Text (size)

structure Cursor.On (text : Text) (c : Cursor) : Prop where
  whole : c.before.reverse ++ c.after = text
  offset : c.offset = size c.before.reverse

namespace Cursor.On
variable {text : Text} {c d : Cursor}

theorem between (before after : Text) : On (before ++ after) ⟨before.reverse, after, size before⟩ := ⟨by simp, by simp⟩

theorem place (on : c.On text) : text.IsPlace c.offset := ⟨_, _, on.whole.symm, on.offset.symm⟩

theorem step {before rest : Text} {d : Char} {offset : Nat} (on : On text ⟨before, d :: rest, offset⟩) :
    On text ⟨d :: before, rest, offset + d.utf8Size⟩ := by
  obtain ⟨whole, same⟩ := on
  exact ⟨by simpa using whole, by simpa [Text.sizeAppend, size] using same⟩

theorem back {n : Nat} (on : c.On text) (walked : c.back? n = some d) : d.On text := by
  induction n generalizing c with
  | zero =>
    cases Option.some.inj walked
    exact on
  | succ n ih =>
    obtain ⟨before, after, offset⟩ := c
    cases before with
    | nil => contradiction
    | cons x before =>
      obtain ⟨whole, same⟩ := on
      refine ih ⟨by simpa using whole, ?_⟩ walked
      simp only [List.reverse_cons, Text.sizeAppend, size] at same
      dsimp only
      omega

end Cursor.On

def Slots.Within (P : Nat → Prop) (s : Slots) : Prop := ∀ i n, s.get i = some n → P n

namespace Slots.Within
variable {P : Nat → Prop} {s inner : Slots}

theorem blank (groups : Nat) : (Slots.blank groups).Within P := by
  intro i n marked
  have none : (Slots.blank groups).get i = none := by
    simp only [Slots.get, Slots.blank, List.getElem?_replicate]
    split <;> rfl
  cases none.symm.trans marked

theorem set (within : s.Within P) {slot : Nat} {value : Option Nat} (holds : ∀ n, value = some n → P n) :
    Within P (List.set s slot value) := by
  intro i n marked
  simp only [Slots.get, List.getElem?_set] at marked
  split at marked
  · split at marked
    · exact holds n marked
    · cases marked
  · exact within i n marked

theorem adopt (within : s.Within P) (others : inner.Within P) (groups : List Nat) :
    (Backtrack.adopt groups inner s).Within P := by
  induction groups generalizing s with
  | nil => exact within
  | cons g groups ih => exact ih ((within.set fun n => others (2 * g) n).set fun n => others (2 * g + 1) n)

end Slots.Within

namespace Lockstep
variable {P : Nat → Prop} {code : Array Step}

theorem followWithin {here : Cursor} (place : P here.offset) {fuel seen : Nat} {threads : List Thread}
    (within : ∀ t ∈ threads, t.slots.Within P) : ∀ t ∈ follow code here fuel threads seen, t.slots.Within P := by
  induction fuel generalizing threads seen with
  | zero => simp [follow]
  | succ fuel ih =>
    cases threads with
    | nil => simp [follow]
    | cons t rest =>
      obtain ⟨head, tail⟩ := List.forall_mem_cons.mp within
      rw [follow]
      split
      · exact ih tail
      dsimp only
      split
      · exact ih (List.forall_mem_cons.mpr ⟨head, tail⟩)
      · exact ih (List.forall_mem_cons.mpr ⟨head, List.forall_mem_cons.mpr ⟨head, tail⟩⟩)
      · refine ih (List.forall_mem_cons.mpr ⟨head.set ?_, tail⟩)
        rintro n ⟨⟩
        exact place
      · split
        · exact ih (List.forall_mem_cons.mpr ⟨head, tail⟩)
        · exact ih tail
      · exact List.forall_mem_cons.mpr ⟨head, ih tail⟩
      · exact List.forall_mem_cons.mpr ⟨head, ih tail⟩

theorem bestWithin {text : Text} {stopped : Option Thread} {best : Option Arrival} {here : Cursor} {arrival : Arrival}
    (found : (match stopped with
      | some t => some ⟨t.slots, here⟩
      | none => best) = some arrival) (within : ∀ t ∈ stopped, t.slots.Within text.IsPlace)
    (best' : ∀ a ∈ best, a.slots.Within text.IsPlace) : arrival.slots.Within text.IsPlace := by
  cases stopped with
  | none => exact best' arrival found
  | some t =>
    cases Option.some.inj found
    exact within t rfl

theorem raceWithin {text after before : Text} {offset : Nat} {threads : List Thread} {best : Option Arrival}
    {arrival : Arrival} (on : Cursor.On text ⟨before, after, offset⟩) (within : ∀ t ∈ threads, t.slots.Within text.IsPlace)
    (best' : ∀ a ∈ best, a.slots.Within text.IsPlace) (arrives : race code after before offset threads best = some arrival) :
    arrival.slots.Within text.IsPlace := by
  induction after generalizing before offset threads best with
  | nil =>
    simp only [race] at arrives
    split at arrives
    · rename_i t stopped
      cases Option.some.inj arrives
      exact within t (List.mem_of_getElem? stopped)
    · exact best' arrival arrives
  | cons c rest ih =>
    have stops : ∀ t ∈ threads[(threads.takeWhile (·.pc < code.size)).length]?, t.slots.Within text.IsPlace :=
      fun t stopped => within t (List.mem_of_getElem? stopped)
    simp only [race] at arrives
    split at arrives
    · exact bestWithin arrives stops best'
    · refine ih on.step (followWithin on.step.place fun t mem => ?_) (fun a known => bestWithin known stops best') arrives
      obtain ⟨u, running, taken⟩ := List.mem_filterMap.mp mem
      have known := within u ((List.takeWhile_sublist _).subset running)
      unfold Thread.take? at taken
      split at taken <;> try contradiction
      split at taken <;> try contradiction
      cases Option.some.inj taken
      exact known

theorem runWithin {text : Text} {groups : Nat} {here : Cursor} {arrival : Arrival} (on : here.On text)
    (arrives : run code groups here = some arrival) : arrival.slots.Within text.IsPlace := by
  refine raceWithin on (followWithin on.place ?_) (by simp) arrives
  exact List.forall_mem_singleton.mpr (.blank groups)

end Lockstep

namespace Backtrack

structure State.On (text : Text) (s : State) : Prop where
  here : s.here.On text
  marks : s.slots.Within text.IsPlace

theorem State.On.mark {text : Text} {s : State} (on : s.On text) (slot : Nat) : (s.mark slot).On text where
  here := on.here
  marks := on.marks.set (by rintro n ⟨⟩; exact on.here.place)

end Backtrack
end ExtendedPattern.Engine
