import ExtendedPattern.Proofs.Scanning
import ExtendedPattern.Proofs.SearchSpans
import ExtendedPattern.Proofs.TokenPlaces

/-! Conservation. Rewriting goes through a pattern from boundary to boundary, in no more steps than
there are characters. Each step cuts off one segment and writes one fragment for it: the segment
itself, or what a handler gave for the token there. -/
namespace ExtendedPattern
open Text (size)

def TokenRule.Whole (rule : TokenRule) (pattern : Text) : Prop :=
  ∀ {start m}, pattern.IsPlace start → rule.find? pattern start = .ok (some m) → pattern.Cuts ⟨m.start, m.stop⟩

namespace Text

theorem takeNone (t : Text) : t.takeBytes 0 = [] := by
  cases t <;> rfl

end Text

namespace TokenMatch

theorem textIsSlice (m : TokenMatch) : m.text = m.input.slice ⟨m.start, m.stop⟩ := by
  simp only [text, group?, start, stop]
  cases m.groupSpan? 0 with
  | none => cases m.input <;> simp [Text.slice, Text.dropBytes, Text.takeBytes]
  | some span => rfl

end TokenMatch

namespace TokenRule

theorem foundInput {rule : TokenRule} {pattern : Text} {start : Nat} {m : TokenMatch}
    (found : rule.find? pattern start = .ok (some m)) : m.input = pattern := by
  obtain ⟨_, _, same⟩ := mapOk found
  obtain ⟨_, _, rfl⟩ := Option.map_eq_some_iff.mp same
  rfl

theorem nativeIsWhole {native : Text} {handle : TokenMatch → Region → Context → Action (Text × Context)}
    {program : Engine.Program} (built : Engine.Program.build? {} native = some program) (keeps : program.keepsStart)
    {rule : TokenRule} (made : ofNative native handle = .ok rule) (pattern : Text) : rule.Whole pattern := by
  intro start m place found
  rw [ofNative, built] at made
  cases made
  obtain ⟨before, after, rfl, rfl⟩ := place
  simp only [find?, finderBy] at found
  cases searched : program.search (before ++ after) (size before) with
  | error e =>
    rw [searched] at found
    cases found
  | ok result =>
    rw [searched] at found
    obtain ⟨groups, rfl, rfl⟩ := Option.map_eq_some_iff.mp (Except.ok.inj found)
    obtain ⟨span, more, rfl, _, cuts⟩ := Engine.Program.searchSpan keeps searched
    exact cuts

end TokenRule

namespace Rewrite
open Scanning (Stage)

inductive Handled (rules : List TokenRule) (pattern : Text) (pos : Nat) (a : Stage) (fired : Fired) : Prop where
  | intro (rule : TokenRule) (start : Nat) (s t : Session) (known : rule ∈ rules)
      (place : pattern.IsPlace start) (early : start ≤ pos)
      (found : rule.find? pattern start = .ok (some fired.token)) (here : fired.token.start = pos)
      (gave : rule.handle fired.token a.region a.context s = (.ok (fired.fragment, fired.context), t))

inductive Cut (rules : List TokenRule) (before front rest : Text) (a : Stage) : Segment → Stage → Prop where
  | token (known : NativeToken.length? a.region (front ++ rest) = some (size front)) :
      Cut rules before front rest a ⟨front, front, false⟩ a
  | character (c : Char) (lone : front = [c]) (unknown : NativeToken.length? a.region (front ++ rest) = none) :
      Cut rules before front rest a ⟨front, front, false⟩ ⟨regionAfter a.region c, a.context⟩
  | rewritten (fired : Fired) (handled : Handled rules (before ++ (front ++ rest)) (size before) a fired)
      (source : fired.token.text = front ∨ fired.token.text = [] ∧ ∃ c, front = [c]) :
      Cut rules before front rest a ⟨front, fired.fragment, true⟩ ⟨a.region, fired.context⟩

inductive Conserved (rules : List TokenRule) : Text → Text → Stage → List Segment → Stage → Prop where
  | done (before : Text) (a : Stage) : Conserved rules before [] a [] a
  | goesOn {before text front rest : Text} {a b c : Stage} {segment : Segment} {more : List Segment}
      (split : text = front ++ rest) (present : front ≠ []) (cut : Cut rules before front rest a segment b)
      (others : Conserved rules (before ++ front) rest b more c) :
      Conserved rules before text a (segment :: more) c

inductive Trace : Text → Text → Progress → Session → Nat → Except Failure Progress × Session → Prop where
  | ends (before : Text) (p : Progress) (s : Session) : Trace before [] p s 0 (.ok p, s)
  | fails {before rest : Text} {c : Char} {p : Progress} {s t : Session} {e : Failure}
      (failed : step (before ++ c :: rest) c rest (size before) p s = (.error e, t)) :
      Trace before (c :: rest) p s 1 (.error e, t)
  | goesOn {before tail front rest : Text} {c : Char} {p q : Progress} {s t : Session} {n : Nat}
      {result : Except Failure Progress × Session} (split : tail = front ++ rest)
      (stepped : step (before ++ c :: tail) c tail (size before) p s = (.ok (q, size (before ++ c :: front)), t))
      (more : Trace (before ++ c :: front) rest q t n result) : Trace before (c :: tail) p s (n + 1) result

section Watching
variable {rules : List TokenRule} {pattern : Text} {pos later : Nat} {region : Region} {context : Context}

structure Watch.Remembered (rules : List TokenRule) (pattern : Text) (pos : Nat) (w : Watch) : Prop where
  known : w.1 ∈ rules
  found : ∀ {m}, w.2 = .found m → ∃ start ≤ pos, pattern.IsPlace start ∧ w.1.find? pattern start = .ok (some m)

theorem Watch.Remembered.onward {w : Watch} (kept : w.Remembered rules pattern pos) (ahead : pos ≤ later) :
    w.Remembered rules pattern later where
  known := kept.known
  found := fun same => by
    obtain ⟨start, early, place, found⟩ := kept.found same
    exact ⟨start, Nat.le_trans early ahead, place, found⟩

theorem refreshSearched {rule : TokenRule} {ahead : Lookahead} {result : Except Failure Lookahead}
    (refreshed : ahead.refresh rule pattern pos = result) :
    (rule.find? pattern pos).map Lookahead.ofSearch = result ∨ result = .ok ahead := by
  unfold Lookahead.refresh at refreshed
  split at refreshed
  · exact .inl refreshed
  · exact .inr refreshed.symm

theorem refreshFails {rule : TokenRule} {ahead : Lookahead} {e : Failure}
    (refreshed : ahead.refresh rule pattern pos = .error e) : rule.find? pattern pos = .error e := by
  rcases refreshSearched refreshed with searched | same
  · exact mapFails searched
  · cases same

theorem refreshRemembers {rule : TokenRule} {ahead fresh : Lookahead} (place : pattern.IsPlace pos)
    (kept : Watch.Remembered rules pattern pos (rule, ahead))
    (refreshed : ahead.refresh rule pattern pos = .ok fresh) : Watch.Remembered rules pattern pos (rule, fresh) where
  known := kept.known
  found := by
    intro m same
    dsimp only at same ⊢
    subst same
    rcases refreshSearched refreshed with searched | same
    · obtain ⟨result, found, same⟩ := mapOk searched
      cases result <;> cases same
      exact ⟨pos, Nat.le_refl pos, place, found⟩
    · cases same
      exact kept.found rfl

structure Ran (rules : List TokenRule) (pattern : Text) (pos : Nat) (a : Stage)
    (result : Except Failure (Option Fired)) (watches : List Watch) : Prop where
  watches : ∀ w ∈ watches, w.Remembered rules pattern pos
  fired : ∀ {fired}, result = .ok (some fired) → Handled rules pattern pos a fired
  failed : ∀ {e}, result = .error e →
    ∃ rule ∈ rules, ∃ start, pattern.IsPlace start ∧ rule.find? pattern start ≠ .ok none

theorem Ran.failing {a : Stage} {watches : List Watch} (kept : ∀ w ∈ watches, w.Remembered rules pattern pos) {e : Failure}
    (why : ∃ rule ∈ rules, ∃ start, pattern.IsPlace start ∧ rule.find? pattern start ≠ .ok none) :
    Ran rules pattern pos a (.error e) watches where
  watches := kept
  fired same := by cases same
  failed _ := why

theorem runRulesRan {watches : List Watch} (region : Region) (context : Context) (place : pattern.IsPlace pos)
    (kept : ∀ w ∈ watches, w.Remembered rules pattern pos) (s : Session) :
    Ran rules pattern pos ⟨region, context⟩ (runRules pattern pos region context watches s).1.1
      (runRules pattern pos region context watches s).1.2 := by
  induction watches generalizing s with
  | nil =>
    refine ⟨kept, fun same => ?_, fun same => ?_⟩
    · cases same
    · cases same
  | cons w others ih =>
    obtain ⟨rule, ahead⟩ := w
    obtain ⟨first, tail⟩ := List.forall_mem_cons.mp kept
    have pass (fresh : Lookahead) (remembered : Watch.Remembered rules pattern pos (rule, fresh)) (s : Session) :
        Ran rules pattern pos ⟨region, context⟩ (runRules pattern pos region context others s).1.1
          ((rule, fresh) :: (runRules pattern pos region context others s).1.2) := by
      have ran := ih tail s
      exact ⟨List.forall_mem_cons.mpr ⟨remembered, ran.watches⟩, ran.fired, ran.failed⟩
    simp only [runRules]
    cases applied : rule.applies region context s with
    | mk takesPart s =>
      cases takesPart with
      | false => exact pass ahead first s
      | true =>
        simp only [if_true]
        cases refreshed : ahead.refresh rule pattern pos with
        | error e =>
          have searched := refreshFails refreshed
          exact .failing kept ⟨rule, first.known, pos, place, by simp [searched]⟩
        | ok fresh =>
          have remembered := refreshRemembers place first refreshed
          cases fresh with
          | unsearched => exact pass .unsearched remembered s
          | exhausted => exact pass .exhausted remembered s
          | found m =>
            by_cases here : m.start = pos
            · obtain ⟨start, early, origin, found⟩ := remembered.found rfl
              have watches := List.forall_mem_cons.mpr ⟨remembered, tail⟩
              simp only [if_pos here]
              generalize handling : rule.handle m region context _ = handled
              obtain ⟨result, t⟩ := handled
              cases result with
              | error e => exact .failing watches ⟨rule, first.known, start, origin, by simp [found]⟩
              | ok gave =>
                refine ⟨watches, fun same => ?_, fun same => (by cases same)⟩
                cases same
                exact ⟨rule, start, _, t, first.known, origin, early, found, here, handling⟩
            · simp only [if_neg here]
              exact pass (.found m) remembered s

end Watching

def Progress.stage (p : Progress) : Stage := ⟨p.region, p.context⟩

structure Advanced (rules : List TokenRule) (before front rest : Text) (p q : Progress) : Prop where
  cut : ∃ segment, q.segments = segment :: p.segments ∧ Cut rules before front rest p.stage segment q.stage
  watches : ∀ w ∈ q.watches, w.Remembered rules (before ++ (front ++ rest)) (size (before ++ front))

section Stepping
variable {rules : List TokenRule} {before tail : Text} {c : Char} {p q : Progress} {s t : Session} {next : Nat}

theorem onwardWatches {front : Text} {watches : List Watch} {pattern : Text}
    (kept : ∀ w ∈ watches, w.Remembered rules pattern (size before)) :
    ∀ w ∈ watches, w.Remembered rules pattern (size (before ++ front)) := fun w mem =>
  (kept w mem).onward (by rw [Text.sizeAppend]; omega)

theorem handledCuts {a : Stage} {fired : Fired} (whole : ∀ rule ∈ rules, rule.Whole (before ++ c :: tail))
    (handled : Handled rules (before ++ c :: tail) (size before) a fired) :
    ∃ front rest, tail = front ++ rest ∧
      (if size before < fired.token.stop then fired.token.stop else size before + c.utf8Size) =
        size (before ++ c :: front) ∧
      (fired.token.text = c :: front ∨ fired.token.text = [] ∧ front = []) := by
  obtain ⟨rule, start, s, t, known, place, early, found, here, gave⟩ := handled
  have cuts := whole rule known place found
  have input := TokenRule.foundInput found
  rw [here] at cuts
  rw [TokenMatch.textIsSlice, input, here]
  have order : size before ≤ fired.token.stop := cuts.ordered
  obtain ⟨front, rest, parts, stop⟩ := Text.partToPlace cuts.stop order
  cases front with
  | nil =>
    have empty : fired.token.stop = size before := by simpa using stop
    refine ⟨[], tail, rfl, ?_, .inr ⟨?_, rfl⟩⟩
    · rw [if_neg (by omega), Text.sizeAppend]
      rfl
    · rw [empty, Text.slice, Nat.sub_self, Text.takeNone]
  | cons d front =>
    cases parts
    have positive := c.utf8Size_pos
    have ahead : size before < fired.token.stop := by
      have stop : fired.token.stop = size (before ++ c :: front) := stop
      rw [stop, Text.sizeAppend, size]
      omega
    refine ⟨front, rest, rfl, ?_, .inl ?_⟩
    · rw [if_pos ahead]
      exact stop
    · have stop : fired.token.stop = size (before ++ c :: front) := stop
      rw [stop, Text.sizeAppend]
      exact Text.sliceOfParts before (c :: front) rest

theorem stepAdvances (whole : ∀ rule ∈ rules, rule.Whole (before ++ c :: tail))
    (kept : ∀ w ∈ p.watches, w.Remembered rules (before ++ c :: tail) (size before))
    (stepped : step (before ++ c :: tail) c tail (size before) p s = (.ok (q, next), t)) :
    ∃ front rest, tail = front ++ rest ∧ next = size (before ++ c :: front) ∧
      Advanced rules before (c :: front) rest p q := by
  have ran := runRulesRan p.region p.context Text.placeBefore kept { s with inRules := true }
  simp only [step, Session.whileInRules] at stepped
  generalize runRules _ _ _ _ _ _ = result at stepped ran
  obtain ⟨⟨outcome, watches⟩, s'⟩ := result
  split at stepped
  · cases stepped
  · rename_i fired watches' _ same
    cases same
    cases stepped
    have handled := ran.fired rfl
    obtain ⟨front, rest, rfl, place, source⟩ := handledCuts whole handled
    have taken : Text.takeBytes (c :: (front ++ rest)) (size (before ++ c :: front) - size before) = c :: front := by
      rw [Text.sizeAppend, Nat.add_sub_cancel_left, Text.takeBytesFront]
    refine ⟨front, rest, rfl, place, ⟨_, rfl, ?_⟩, onwardWatches ran.watches⟩
    rw [place, taken]
    exact .rewritten fired handled (source.imp_right fun nothing => ⟨nothing.1, c, by rw [nothing.2]⟩)
  · rename_i watches' _ same
    cases same
    split at stepped
    · rename_i length known
      cases stepped
      obtain ⟨front, rest, rfl, rfl⟩ := NativeToken.lengthTakes known
      refine ⟨front, rest, rfl, by rw [Text.sizeAppend], ⟨_, rfl, ?_⟩, onwardWatches ran.watches⟩
      rw [Text.takeBytesFront]
      exact .token known
    · rename_i unknown
      cases stepped
      refine ⟨[], tail, rfl, by simp [Text.sizeAppend, size], ⟨_, rfl, ?_⟩, onwardWatches ran.watches⟩
      rw [Text.takeBytesHead]
      exact .character c rfl unknown

theorem stepFails (kept : ∀ w ∈ p.watches, w.Remembered rules (before ++ c :: tail) (size before)) {e : Failure}
    (failed : step (before ++ c :: tail) c tail (size before) p s = (.error e, t)) :
    ∃ rule ∈ rules, ∃ start, Text.IsPlace (before ++ c :: tail) start ∧
      rule.find? (before ++ c :: tail) start ≠ .ok none := by
  have ran := runRulesRan p.region p.context Text.placeBefore kept { s with inRules := true }
  simp only [step, Session.whileInRules] at failed
  generalize runRules _ _ _ _ _ _ = result at failed ran
  obtain ⟨⟨outcome, watches⟩, s'⟩ := result
  split at failed
  · rename_i same
    cases same
    exact ran.failed rfl
  · cases failed
  · split at failed <;> cases failed

end Stepping

variable {rules : List TokenRule} {p : Progress} {s : Session}

theorem scanSkips (input front rest : Text) (pos : Nat) (p : Progress) (s : Session) :
    scan input (front ++ rest) pos (pos + size front) p s =
      scan input rest (pos + size front) (pos + size front) p s := by
  induction front generalizing pos with
  | nil => rfl
  | cons d front ih =>
    have positive := d.utf8Size_pos
    have inside : pos < pos + size (d :: front) := by simp only [size]; omega
    have moved : pos + size (d :: front) = pos + d.utf8Size + size front := by simp only [size]; omega
    rw [List.cons_append, scan, if_pos inside, moved]
    exact ih (pos + d.utf8Size)

theorem scanTraces (before : Text) {rest : Text} (whole : ∀ rule ∈ rules, rule.Whole (before ++ rest))
    (kept : ∀ w ∈ p.watches, w.Remembered rules (before ++ rest) (size before)) :
    ∃ n ≤ rest.length, Trace before rest p s n (scan (before ++ rest) rest (size before) (size before) p s) := by
  induction more : rest.length using Nat.strong_induction_on generalizing before rest p s with
  | h k ih =>
    cases rest with
    | nil => exact ⟨0, Nat.zero_le k, .ends before p s⟩
    | cons c tail =>
      rw [scan, if_neg (Nat.lt_irrefl _)]
      cases stepped : step (before ++ c :: tail) c tail (size before) p s with
      | mk result t =>
        cases result with
        | error e => exact ⟨1, by rw [← more]; exact Nat.le_add_left 1 _, .fails stepped⟩
        | ok advanced =>
          obtain ⟨q, next⟩ := advanced
          obtain ⟨front, rest, rfl, rfl, advanced⟩ := stepAdvances whole kept stepped
          have joined : before ++ c :: (front ++ rest) = (before ++ c :: front) ++ rest := by simp
          have behind : size (before ++ c :: front) = size before + c.utf8Size + size front := by
            rw [Text.sizeAppend, size, Nat.add_assoc]
          have watches := advanced.watches
          rw [List.cons_append, joined] at watches
          simp only [List.length_cons, List.length_append] at more
          obtain ⟨n, few, trace⟩ := ih rest.length (by omega) (s := t) (before ++ c :: front) (joined ▸ whole) watches rfl
          refine ⟨n + 1, by omega, .goesOn rfl stepped ?_⟩
          dsimp only
          rw [joined, behind, scanSkips, ← behind]
          exact trace

theorem traceConserves {before rest : Text} {n : Nat} {result : Except Failure Progress × Session}
    (trace : Trace before rest p s n result) (whole : ∀ rule ∈ rules, rule.Whole (before ++ rest))
    (kept : ∀ w ∈ p.watches, w.Remembered rules (before ++ rest) (size before)) :
    (∀ {q}, result.1 = .ok q → ∃ segments, q.segments = segments.reverse ++ p.segments ∧
      Conserved rules before rest p.stage segments q.stage) ∧
    (∀ {e}, result.1 = .error e → ∃ rule ∈ rules, ∃ start, Text.IsPlace (before ++ rest) start ∧
      rule.find? (before ++ rest) start ≠ .ok none) := by
  induction trace with
  | ends before p s =>
    refine ⟨fun same => ?_, nofun⟩
    cases same
    exact ⟨[], rfl, .done before _⟩
  | fails failed => exact ⟨nofun, fun _ => stepFails kept failed⟩
  | goesOn split stepped more ih =>
    rename_i before tail front rest c p q s t n result
    subst split
    obtain ⟨front', rest', split, level, advanced⟩ := stepAdvances whole kept stepped
    have joined : before ++ c :: (front ++ rest) = (before ++ c :: front) ++ rest := by simp
    have whole' : (before ++ c :: front) ++ rest = (before ++ c :: front') ++ rest' := by simpa using split
    obtain ⟨fronts, rfl⟩ := Text.splitsOnce whole' level
    obtain rfl := (List.cons.inj (List.append_cancel_left fronts)).2
    have watches := advanced.watches
    rw [List.cons_append, joined] at watches
    obtain ⟨kept', failed⟩ := ih (joined ▸ whole) watches
    refine ⟨fun same => ?_, joined ▸ failed⟩
    obtain ⟨segment, first, cut⟩ := advanced.cut
    obtain ⟨segments, others, conserved⟩ := kept' same
    exact ⟨segment :: segments, by simp [others, first], .goesOn rfl (by simp) cut conserved⟩

namespace Conserved
variable {before rest : Text} {a b : Stage} {segments : List Segment}

theorem sources (conserved : Conserved rules before rest a segments b) : segments.flatMap Segment.source = rest := by
  induction conserved with
  | done => rfl
  | goesOn split present cut others ih =>
    rw [List.flatMap_cons, ih, split]
    cases cut <;> rfl

theorem piece (conserved : Conserved rules before rest a segments b) :
    ∀ segment ∈ segments, segment.source ≠ [] ∧ (segment.rewritten = false → segment.fragment = segment.source) := by
  induction conserved with
  | done => exact nofun
  | goesOn split present cut others ih =>
    refine List.forall_mem_cons.mpr ⟨?_, ih⟩
    cases cut with
    | token known => exact ⟨present, fun _ => rfl⟩
    | character c lone unknown => exact ⟨present, fun _ => rfl⟩
    | rewritten fired handled source => exact ⟨present, nofun⟩

theorem fewSegments (conserved : Conserved rules before rest a segments b) : segments.length ≤ rest.length := by
  induction conserved with
  | done => exact Nat.le_refl 0
  | goesOn split present cut others ih =>
    have positive := List.length_pos_iff.mpr present
    rw [split, List.length_append, List.length_cons]
    omega

theorem contextStays (conserved : Conserved rules before rest a segments b)
    (copied : ∀ segment ∈ segments, segment.rewritten = false) : b.context = a.context := by
  induction conserved with
  | done => rfl
  | goesOn split present cut others ih =>
    obtain ⟨first, copied⟩ := List.forall_mem_cons.mp copied
    rw [ih copied]
    cases cut with
    | token known => rfl
    | character c lone unknown => rfl
    | rewritten fired handled source => cases first

theorem copied (conserved : Conserved rules before rest a segments b)
    (silent : ∀ rule ∈ rules, ∀ start, Text.IsPlace (before ++ rest) start → rule.find? (before ++ rest) start = .ok none) :
    ∀ segment ∈ segments, segment.rewritten = false := by
  induction conserved with
  | done => exact nofun
  | goesOn split present cut others ih =>
    subst split
    refine List.forall_mem_cons.mpr ⟨?_, ih (by simpa using silent)⟩
    cases cut with
    | token known => rfl
    | character c lone unknown => rfl
    | rewritten fired handled source =>
      obtain ⟨rule, start, _, _, known, place, _, found, _⟩ := handled
      rw [silent rule known start place] at found
      cases found

end Conserved

def opening (rules : List TokenRule) (flags : FlagSet) : Progress :=
  { watches := rules.map (·, .unsearched), context := .start flags }

theorem openingRemembers (rules : List TokenRule) (flags : FlagSet) (pattern : Text) :
    ∀ w ∈ (opening rules flags).watches, w.Remembered rules pattern (size []) := by
  intro w mem
  obtain ⟨rule, known, rfl⟩ := List.mem_map.mp mem
  exact ⟨known, nofun⟩

end Rewrite

namespace Compilation

structure Untouched (done : Compilation) (pattern : Text) (flags : FlagSet) : Prop where
  native : done.native = pattern
  slots : done.context.slots = []
  flags : done.context.flags = flags

theorem untouched {rules : List TokenRule} {done : Compilation} {pattern : Text} {flags : FlagSet} {region : Region}
    (conserved : Rewrite.Conserved rules [] pattern ⟨.outside, .start flags⟩ done.segments ⟨region, done.context⟩)
    (copied : ∀ segment ∈ done.segments, segment.rewritten = false) : done.Untouched pattern flags := by
  have context : done.context = .start flags := conserved.contextStays copied
  refine ⟨?_, by rw [context]; rfl, by rw [context]; rfl⟩
  rw [native, ← conserved.sources]
  exact List.flatMap_congr fun segment mem => (conserved.piece segment mem).2 (copied segment mem)

end Compilation

section
open Rewrite
variable {r : Registry} {pattern : Text} {flags : FlagSet} {s t : Session} {done : Compilation}

theorem compileScans (compiled : compile pattern flags r s = (.ok done, t)) :
    ∃ p, (scan pattern pattern 0 0 (opening r.rules flags) s).1 = .ok p ∧ done = ⟨p.segments.reverse, p.context⟩ := by
  unfold compile rewrite at compiled
  split at compiled
  · cases compiled
  · dsimp only at compiled
    split at compiled
    · cases compiled
    · rename_i scanned
      cases compiled
      exact ⟨_, congrArg Prod.fst scanned, rfl⟩

theorem compileOfScan (idle : s.inRules = false) {p : Progress}
    (scanned : scan pattern pattern 0 0 (opening r.rules flags) s = (.ok p, t)) :
    ∃ u, compile pattern flags r s = (.ok ⟨p.segments.reverse, p.context⟩, u) := by
  rw [opening] at scanned
  rw [compile, rewrite, if_neg (by simp [idle])]
  dsimp only
  rw [scanned]
  exact ⟨_, rfl⟩

theorem compileConserves (whole : ∀ rule ∈ r.rules, rule.Whole pattern)
    (compiled : compile pattern flags r s = (.ok done, t)) :
    ∃ region, Conserved r.rules [] pattern ⟨.outside, .start flags⟩ done.segments ⟨region, done.context⟩ := by
  obtain ⟨p, scanned, rfl⟩ := compileScans compiled
  have kept := openingRemembers r.rules flags pattern
  obtain ⟨n, _, trace⟩ := scanTraces [] (s := s) whole kept
  obtain ⟨segments, same, conserved⟩ := (traceConserves trace whole kept).1 scanned
  have parts : p.segments.reverse = segments := by simp [same, opening]
  exact ⟨p.region, parts ▸ conserved⟩

theorem compileUntouched (silent : ∀ rule ∈ r.rules, ∀ start, pattern.IsPlace start → rule.find? pattern start = .ok none)
    (idle : s.inRules = false) : ∃ done t, compile pattern flags r s = (.ok done, t) ∧ done.Untouched pattern flags := by
  have whole : ∀ rule ∈ r.rules, rule.Whole pattern := by
    intro rule known start m place found
    rw [silent rule known start place] at found
    cases found
  have kept := openingRemembers r.rules flags pattern
  obtain ⟨n, _, trace⟩ := scanTraces [] (s := s) whole kept
  obtain ⟨_, failed⟩ := traceConserves trace whole kept
  cases scanned : scan pattern pattern 0 0 (opening r.rules flags) s with
  | mk result u =>
    cases result with
    | error e =>
      obtain ⟨rule, known, start, place, found⟩ := failed (congrArg Prod.fst scanned)
      exact absurd (silent rule known start place) found
    | ok p =>
      obtain ⟨t, compiled⟩ := compileOfScan idle scanned
      obtain ⟨region, conserved⟩ := compileConserves whole compiled
      exact ⟨_, t, compiled, Compilation.untouched conserved (conserved.copied silent)⟩

/-- Rewriting conserves the pattern. Its loop goes from boundary to boundary and takes at most one step for
a character. What it has compiled is cut into segments that are the pattern again, and written as their
fragments; where no rule fires, the fragments are the pattern too, and compiling succeeds. -/
theorem rewritingConserves (whole : ∀ rule ∈ r.rules, rule.Whole pattern) (flags : FlagSet) (s : Session) :
    (∃ n ≤ pattern.length, Trace [] pattern (opening r.rules flags) s n
      (scan pattern pattern 0 0 (opening r.rules flags) s)) ∧
    (∀ {done t}, compile pattern flags r s = (.ok done, t) →
      (∃ region, Conserved r.rules [] pattern ⟨.outside, .start flags⟩ done.segments ⟨region, done.context⟩) ∧
      done.segments.flatMap Segment.source = pattern ∧ done.native = done.segments.flatMap Segment.fragment ∧
      done.segments.length ≤ pattern.length ∧
      (∀ segment ∈ done.segments,
        segment.source ≠ [] ∧ (segment.rewritten = false → segment.fragment = segment.source)) ∧
      ((∀ segment ∈ done.segments, segment.rewritten = false) → done.Untouched pattern flags)) ∧
    ((∀ rule ∈ r.rules, ∀ start, pattern.IsPlace start → rule.find? pattern start = .ok none) → s.inRules = false →
      ∃ done t, compile pattern flags r s = (.ok done, t) ∧ done.Untouched pattern flags) := by
  refine ⟨scanTraces [] whole (openingRemembers r.rules flags pattern), ?_, compileUntouched⟩
  intro done t compiled
  obtain ⟨region, conserved⟩ := compileConserves whole compiled
  exact ⟨⟨region, conserved⟩, conserved.sources, rfl, conserved.fewSegments, conserved.piece,
    Compilation.untouched conserved⟩

def bracketed (m : TokenMatch) (_ : Region) (context : Context) : Action (Text × Context) :=
  .ok ('<' :: m.text ++ ['>'], context)

theorem cutOffEscapeIsKept :
    ∃ r : Registry, (∀ rule ∈ r.rules, rule.Whole "éx\\x4\x7b2".toList) ∧
    ∃ done t region, compile "éx\\x4\x7b2".toList .empty r {} = (.ok done, t) ∧
      done.native = "<><x>\\x4\x7b2".toList ∧
      Conserved r.rules [] "éx\\x4\x7b2".toList ⟨.outside, .start .empty⟩ done.segments ⟨region, done.context⟩ ∧
      done.segments.map Segment.source = [['é'], ['x'], ['\\', 'x'], ['4'], ['\x7b'], ['2']] := by
  have runs : (Engine.Program.build? {} "x|^".toList).any fun program => program.keepsStart &&
      match TokenRule.ofNative "x|^".toList bracketed with
      | .error _ => false
      | .ok rule =>
        (compile "éx\\x4\x7b2".toList .empty { registrations := [.rule rule] } {}).1.toOption.any fun done =>
          done.native == "<><x>\\x4\x7b2".toList &&
            done.segments.map Segment.source == [['é'], ['x'], ['\\', 'x'], ['4'], ['\x7b'], ['2']] := by
    decide +kernel
  obtain ⟨program, built, runs⟩ := (Option.any_eq_true _ _).mp runs
  obtain ⟨keeps, runs⟩ := Bool.and_eq_true_iff.mp runs
  split at runs
  · cases runs
  rename_i rule made
  obtain ⟨done, compiled, answer⟩ := (Option.any_eq_true _ _).mp runs
  simp only [Bool.and_eq_true, beq_iff_eq] at answer
  have whole : ∀ other ∈ Registry.rules { registrations := [.rule rule] }, other.Whole "éx\\x4\x7b2".toList := by
    intro other mem
    obtain rfl := List.mem_singleton.mp mem
    exact TokenRule.nativeIsWhole built keeps made _
  generalize ran : compile _ _ _ _ = outcome at compiled
  obtain ⟨result, t⟩ := outcome
  cases result with
  | error e => cases compiled
  | ok c =>
    cases compiled
    obtain ⟨⟨region, conserved⟩, _⟩ := (rewritingConserves whole .empty {}).2.1 ran
    exact ⟨_, whole, done, t, region, ran, answer.1, conserved, answer.2⟩

end
end ExtendedPattern
