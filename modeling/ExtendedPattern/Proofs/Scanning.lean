import ExtendedPattern.Proofs.StandardRules
import Mathlib.Logic.Relation

/-! Scanning chunk by chunk. A judgment says what the scanner writes for one chunk of a pattern,
given the text behind it; judgments for neighbouring chunks compose. -/
namespace ExtendedPattern.Scanning
open Text (size)
open Uncached (Progress)

structure Stage where
  region : Region
  context : Context

def written (p : Progress) : Text := p.segments.reverse.flatMap Segment.fragment

def Moves (locals : List LocalRule) (input : Text) (p q : Progress) : Prop :=
  ∃ (before rest : Text) (c : Char) (next : Nat) (s t : Session), input = before ++ c :: rest ∧
    Uncached.step (locals.map LocalRule.rule) input c rest (size before) p s = (.ok (q, next), t)

/-- The rewritten pattern is `input`, of which `chunk` stands behind `before` and `rest` behind it.
From every state at `a` the scanner goes on behind the chunk at `b`, with `out` written for it,
unless a search gives up, which takes `limit`. -/
def WritesUnless (limit : Prop) (locals : List LocalRule) (input before chunk rest : Text) (a b : Stage) (out : Text) : Prop :=
  input = before ++ (chunk ++ rest) → ∀ (p : Progress) (s : Session),
    p.region = a.region → p.context = a.context →
    (∃ (q : Progress) (t : Session),
      Uncached.scan (locals.map LocalRule.rule) input (chunk ++ rest) (size before) (size before) p s =
        Uncached.scan (locals.map LocalRule.rule) input rest (size (before ++ chunk))
          (size (before ++ chunk)) q t ∧
      q.region = b.region ∧ q.context = b.context ∧ written q = written p ++ out ∧
      Relation.ReflTransGen (Moves locals input) p q) ∨
    (Uncached.scan (locals.map LocalRule.rule) input (chunk ++ rest) (size before) (size before) p s).1 =
      .error .backtrackLimit ∧ limit

abbrev Writes (locals : List LocalRule) (input before chunk rest : Text) (a b : Stage) (out : Text) : Prop :=
  WritesUnless (¬ ∀ l ∈ locals, l.rule.Searches input) locals input before chunk rest a b out

variable {limit : Prop} {locals : List LocalRule} {input before rest : Text} {a b c : Stage}

theorem nothing : WritesUnless limit locals input before [] rest a a [] := by
  intro _ p s region context
  exact .inl ⟨p, s, by simp, region, context, by simp, .refl⟩

theorem andThen {chunk more out after : Text}
    (first : WritesUnless limit locals input before chunk (more ++ rest) a b out)
    (second : WritesUnless limit locals input (before ++ chunk) more rest b c after) :
    WritesUnless limit locals input before (chunk ++ more) rest a c (out ++ after) := by
  intro split p s region context
  rw [List.append_assoc]
  rcases first (by simpa using split) p s region context with ⟨q, t, same, region, context, text, moves⟩ | exceeded
  · rw [same]
    rcases second (by simpa using split) q t region context with ⟨r, u, same', region, context, text', moves'⟩ | exceeded
    · exact .inl ⟨r, u, by rw [same', List.append_assoc], region, context, by simp [text, text'], moves.trans moves'⟩
    · exact .inr exceeded
  · exact .inr exceeded

theorem scanSkips (rules : List TokenRule) (tail : Text) (pos : Nat) (p : Progress) (s : Session) :
    Uncached.scan rules input (tail ++ rest) pos (pos + size tail) p s =
      Uncached.scan rules input rest (pos + size tail) (pos + size tail) p s := by
  induction tail generalizing pos with
  | nil => rfl
  | cons d tail ih =>
    have positive := d.utf8Size_pos
    have inside : pos < pos + size (d :: tail) := by simp only [size]; omega
    have moved : pos + size (d :: tail) = pos + d.utf8Size + size tail := by simp only [size]; omega
    rw [List.cons_append, Uncached.scan, if_pos inside, moved]
    exact ih (pos + d.utf8Size)

def Stalls (limit : Prop) (locals : List LocalRule) (input before t : Text) (a : Stage) : Prop :=
  input = before ++ t → LocalRule.anyGivesUp a.region a.context (size before) t locals → limit

theorem exceeds {t : Text} : Stalls (¬ ∀ l ∈ locals, l.rule.Searches input) locals input before t a := by
  rintro rfl gives searches
  rw [LocalRule.noneGivesUp searches] at gives
  cases gives

theorem fromStart {t : Text} (searched : ∀ l ∈ locals, ∃ found, l.rule.find t 0 = .ok found) :
    Stalls limit locals t [] t a := by
  intro _ gives
  have calm : LocalRule.anyGivesUp a.region a.context (size []) t locals = false := LocalRule.noneGivesUpHere searched
  rw [calm] at gives
  cases gives

theorem ofStep {d : Char} {tail out : Text} (stalls : Stalls limit locals input before (d :: tail ++ rest) a)
    (step : ∀ (p : Progress) (s : Session), input = before ++ (d :: tail ++ rest) →
      LocalRule.anyGivesUp p.region p.context (size before) (d :: tail ++ rest) locals = false →
      p.region = a.region → p.context = a.context →
      ∃ (q : Progress) (t : Session),
        Uncached.step (locals.map LocalRule.rule) input d (tail ++ rest) (size before) p s =
          (.ok (q, size before + size (d :: tail)), t) ∧
        q.region = b.region ∧ q.context = b.context ∧ written q = written p ++ out) :
    WritesUnless limit locals input before (d :: tail) rest a b out := by
  intro split p s region context
  cases calm : LocalRule.anyGivesUp p.region p.context (size before) (d :: tail ++ rest) locals with
  | true =>
    refine .inr ⟨?_, stalls split (region ▸ context ▸ calm)⟩
    subst split
    rw [List.cons_append] at calm ⊢
    rw [Uncached.scan, if_neg (Nat.lt_irrefl _), Uncached.step, Session.whileInRules, LocalRule.fireFirst, if_pos calm]
  | false =>
    obtain ⟨q, t, stepped, region, context, text⟩ := step p s split calm region context
    refine .inl ⟨q, t, ?_, region, context, text, .single ⟨before, tail ++ rest, d, _, s, t, split, stepped⟩⟩
    have moved : size before + size (d :: tail) = size before + d.utf8Size + size tail := by
      simp only [size]; omega
    rw [List.cons_append, Uncached.scan, if_neg (Nat.lt_irrefl _), stepped]
    rw [Text.sizeAppend, moved]
    exact scanSkips _ tail _ q t

variable {region moved : Region} {context after : Context}

theorem stageFires {d : Char} {tail : Text} (split : input = before ++ (d :: tail ++ rest))
    (calm : LocalRule.anyGivesUp region context (size before) (d :: tail ++ rest) locals = false) (s : Session) :
    Uncached.fire input (size before) region context (locals.map LocalRule.rule) s =
      LocalRule.respond (LocalRule.first? locals region context (size before) (d :: tail ++ rest))
        input (size before) region context s := by
  subst split
  rw [List.cons_append] at calm ⊢
  rw [LocalRule.fireFirst, if_neg (by simp [calm])]

theorem ofRule {chunk out : Text} (stalls : Stalls limit locals input before (chunk ++ rest) ⟨region, context⟩)
    (rule : TokenRule) (groups : Groups) (present : chunk ≠ [])
    (first : ∃ l, LocalRule.first? locals region context (size before) (chunk ++ rest) = some (l, groups) ∧
      l.rule = rule)
    (whole : groups.head? = some (some ⟨0, size chunk⟩))
    (handled : input = before ++ (chunk ++ rest) → ∀ s,
      rule.handle (LocalRule.token input (size before) groups) region context s = (.ok (out, after), s)) :
    WritesUnless limit locals input before chunk rest ⟨region, context⟩ ⟨region, after⟩ out := by
  obtain ⟨l, seen, rfl⟩ := first
  obtain ⟨d, tail, rfl⟩ := List.exists_cons_of_ne_nil present
  apply ofStep stalls
  intro p s split calm stage stage'
  rw [stage, stage'] at calm
  have stop : (LocalRule.token input (size before) groups).stop = size before + size (d :: tail) :=
    LocalRule.tokenStop whole
  have positive := d.utf8Size_pos
  have ahead : size before < size before + size (d :: tail) := by simp only [size]; omega
  simp only [Uncached.step, Session.whileInRules, stage, stage', stageFires split calm, seen,
    LocalRule.respond, LocalRule.answer, handled split, stop, if_pos ahead]
  exact ⟨_, _, rfl, rfl, rfl, by simp [written]⟩

theorem ofNativeToken {d : Char} {tail : Text} (stalls : Stalls limit locals input before (d :: tail ++ rest) ⟨region, context⟩)
    (unseen : LocalRule.first? locals region context (size before) (d :: tail ++ rest) = none)
    (token : NativeToken.length? region (d :: tail ++ rest) = some (size (d :: tail))) :
    WritesUnless limit locals input before (d :: tail) rest ⟨region, context⟩ ⟨region, context⟩ (d :: tail) := by
  apply ofStep stalls
  intro p s split calm stage stage'
  rw [stage, stage'] at calm
  have source : Text.takeBytes (d :: tail ++ rest) (size (d :: tail)) = d :: tail :=
    Text.takeBytesSize (d :: tail) rest
  rw [List.cons_append] at source token
  simp only [Uncached.step, Session.whileInRules, stage, stage', stageFires split calm, unseen,
    LocalRule.respond, token]
  exact ⟨_, _, rfl, stage, stage', by simp [written, Progress.copy, source]⟩

theorem ofCharacter {d : Char} (stalls : Stalls limit locals input before ([d] ++ rest) ⟨region, context⟩)
    (unseen : LocalRule.first? locals region context (size before) (d :: rest) = none)
    (token : NativeToken.length? region (d :: rest) = none)
    (move : Rewrite.regionAfter region d = moved) :
    WritesUnless limit locals input before [d] rest ⟨region, context⟩ ⟨moved, context⟩ [d] := by
  apply ofStep stalls
  intro p s split calm stage stage'
  rw [stage, stage'] at calm
  have source : Text.takeBytes (d :: rest) d.utf8Size = [d] := Text.takeBytesHead d rest
  have unseen : LocalRule.first? locals region context (size before) ([d] ++ rest) = none := unseen
  simp only [Uncached.step, Session.whileInRules, stage, stage', stageFires split calm, unseen,
    LocalRule.respond, List.nil_append, token]
  refine ⟨_, _, rfl, ?_, stage', by simp [written, Progress.copy, source]⟩
  exact (congrArg (Rewrite.regionAfter · d) stage).trans move

theorem compiledUnless {r : Registry} {flags : FlagSet} {out : Text} (rules : r.rules = locals.map LocalRule.rule)
    (writes : WritesUnless limit locals input [] input [] ⟨.outside, .start flags⟩ ⟨region, context⟩ out)
    {s : Session} (idle : s.inRules = false) :
    (∃ (done : Compilation) (t : Session), compile input flags r s = (.ok done, t) ∧
      done.native = out ∧ done.context = context) ∨ (compile input flags r s).1 = .error .backtrackLimit ∧ limit := by
  rw [compilesLocally rules, Uncached.rewrite, if_neg (by simp [idle])]
  rcases writes (by simp) { context := .start flags } s rfl rfl with ⟨q, t, same, _, context, text, _⟩ | exceeded
  · simp only [List.append_nil, size] at same
    rw [same, Uncached.scan]
    exact .inl ⟨_, _, rfl, by simpa [written, Compilation.native] using text, context⟩
  · simp only [List.append_nil, size] at exceeded
    refine .inr ⟨?_, exceeded.2⟩
    generalize Uncached.scan _ input input 0 0 _ s = scanned at exceeded ⊢
    obtain ⟨result, t⟩ := scanned
    obtain rfl : result = .error .backtrackLimit := exceeded.1
    rfl

theorem compiledOrTooFar {r : Registry} {flags : FlagSet} {out : Text} (standard : r.Standard locals)
    (writes : Writes locals input [] input [] ⟨.outside, .start flags⟩ ⟨region, context⟩ out)
    {s : Session} (idle : s.inRules = false) :
    (∃ (done : Compilation) (t : Session), compile input flags r s = (.ok done, t) ∧
      done.native = out ∧ done.context = context) ∨
      (compile input flags r s).1 = .error .backtrackLimit ∧ LocalRule.GroupTooFar input := by
  refine (compiledUnless standard.rules writes idle).imp_right fun exceeded => ⟨exceeded.1, ?_⟩
  refine Classical.byContradiction fun near => exceeded.2 ?_
  exact standard.searches.mp (standard.searchesNear.mpr near)

theorem compiled {r : Registry} {flags : FlagSet} {out : Text} (standard : r.Standard locals) (searches : r.Searches input)
    (writes : Writes locals input [] input [] ⟨.outside, .start flags⟩ ⟨region, context⟩ out)
    {s : Session} (idle : s.inRules = false) :
    ∃ (done : Compilation) (t : Session), compile input flags r s = (.ok done, t) ∧
      done.native = out ∧ done.context = context :=
  (compiledUnless standard.rules writes idle).resolve_right fun exceeded => exceeded.2 (standard.searches.mp searches)

end ExtendedPattern.Scanning
