import ExtendedPattern.Compile

/-! The scanner keeps for every rule where its next token is. It is compared with a scanner
that keeps nothing and asks every rule anew at every place: while searches are steady, both
end in the same way, with the same session. -/
namespace ExtendedPattern

def Text.IsPlace (t : Text) (pos : Nat) : Prop :=
  ∃ before after, t = before ++ after ∧ Text.size before = pos

theorem Text.placeBefore {before after : Text} : Text.IsPlace (before ++ after) (size before) :=
  ⟨before, after, rfl, rfl⟩

structure TokenRule.Steady (rule : TokenRule) (input : Text) : Prop where
  found : ∀ {p q m}, input.IsPlace p → input.IsPlace q → p ≤ q →
    rule.find? input p = .ok (some m) → q ≤ m.start → rule.find? input q = .ok (some m)
  exhausted : ∀ {p q}, input.IsPlace p → input.IsPlace q → p ≤ q →
    rule.find? input p = .ok none → rule.find? input q = .ok none

namespace Uncached
open Rewrite (Fired regionAfter)

def fire (input : Text) (pos : Nat) (region : Region) (context : Context) :
    List TokenRule → Session → Except Failure (Option Fired) × Session
  | [], s => (.ok none, s)
  | rule :: others, s =>
    match rule.applies region context s with
    | (false, s) => fire input pos region context others s
    | (true, s) =>
      match rule.find? input pos with
      | .error e => (.error e, s)
      | .ok none => fire input pos region context others s
      | .ok (some m) =>
        if m.start = pos then
          let s := { s with events := .tokenMatched rule.pattern m.text pos :: s.events }
          match rule.handle m region context s with
          | (.ok (fragment, context), s) => (.ok (some ⟨m, fragment, context⟩), s)
          | (.error e, s) => (.error e, s)
        else fire input pos region context others s

structure Progress where
  region : Region := .outside
  context : Context
  segments : List Segment := []

def Progress.copy (p : Progress) (rest : Text) (length : Nat) : Progress :=
  let source := rest.takeBytes length
  { p with segments := ⟨source, source, false⟩ :: p.segments }

def step (rules : List TokenRule) (input : Text) (c : Char) (rest : Text) (pos : Nat)
    (p : Progress) (s : Session) : Except Failure (Progress × Nat) × Session :=
  match s.whileInRules (fire input pos p.region p.context rules) with
  | (.error e, s) => (.error e, s)
  | (.ok (some fired), s) =>
    let next := if pos < fired.token.stop then fired.token.stop else pos + c.utf8Size
    let segment : Segment := ⟨Text.takeBytes (c :: rest) (next - pos), fired.fragment, true⟩
    (.ok ({ p with context := fired.context, segments := segment :: p.segments }, next), s)
  | (.ok none, s) =>
    match NativeToken.length? p.region (c :: rest) with
    | some length => (.ok (p.copy (c :: rest) length, pos + length), s)
    | none =>
      let p := p.copy (c :: rest) c.utf8Size
      (.ok ({ p with region := regionAfter p.region c }, pos + c.utf8Size), s)

def scan (rules : List TokenRule) (input : Text) :
    Text → Nat → Nat → Progress → Session → Except Failure Progress × Session
  | [], _, _, p, s => (.ok p, s)
  | c :: rest, pos, next, p, s =>
    if pos < next then scan rules input rest (pos + c.utf8Size) next p s
    else
      match step rules input c rest pos p s with
      | (.ok (p, next), s) => scan rules input rest (pos + c.utf8Size) next p s
      | (.error e, s) => (.error e, s)

def rewrite (rules : List TokenRule) (pattern : Text) (flags : FlagSet) : Action Compilation := fun s =>
  if s.inRules then (.error .reentrantCompilation, s)
  else
    match scan rules pattern pattern 0 0 { context := .start flags } s with
    | (.error e, s) => (.error e, s)
    | (.ok p, s) =>
      let done : Compilation := ⟨p.segments.reverse, p.context⟩
      (.ok done, { s with events := .compiled pattern done.native p.context.slots.length :: s.events })

def compile (pattern : Text) (flags : FlagSet) (r : Registry) : Action Compilation :=
  rewrite r.rules pattern flags

end Uncached

namespace Rewrite

def Watch.Valid (input : Text) (pos : Nat) : Watch → Prop
  | (_, .unsearched) => True
  | (rule, .found m) => m.start < pos ∨ rule.find? input pos = .ok (some m)
  | (rule, .exhausted) => rule.find? input pos = .ok none

theorem watchMoves {input : Text} {p q : Nat} {w : Watch} (steady : w.1.Steady input)
    (placeP : input.IsPlace p) (placeQ : input.IsPlace q) (later : p ≤ q)
    (valid : w.Valid input p) : w.Valid input q := by
  obtain ⟨rule, ahead⟩ := w
  cases ahead with
  | unsearched => trivial
  -- A token that is passed is stale; one still ahead is what the later search finds too.
  | found m =>
    by_cases passed : m.start < q
    · exact .inl passed
    · rcases valid with stale | same
      · omega
      · exact .inr (steady.found placeP placeQ later same (Nat.le_of_not_lt passed))
  | exhausted => exact steady.exhausted placeP placeQ later valid

theorem refreshSearches {input : Text} {pos : Nat} {rule : TokenRule} {ahead : Lookahead}
    (valid : Watch.Valid input pos (rule, ahead)) :
    ahead.refresh rule input pos = (rule.find? input pos).map Lookahead.ofSearch := by
  unfold Lookahead.refresh
  split
  · rfl
  · rename_i fresh
    cases ahead with
    | unsearched => simp [Lookahead.isStale] at fresh
    | found m =>
      have ahead : ¬ m.start < pos := by simpa [Lookahead.isStale] using fresh
      have same := valid.resolve_left ahead
      rw [same]; rfl
    | exhausted =>
      have same : rule.find? input pos = .ok none := valid
      rw [same]; rfl

theorem searchedValid {input : Text} {pos : Nat} {rule : TokenRule} {found : Option TokenMatch}
    (search : rule.find? input pos = .ok found) :
    Watch.Valid input pos (rule, Lookahead.ofSearch found) := by
  cases found with
  | none => exact search
  | some m => exact .inr search

theorem runRulesFires {input : Text} {pos : Nat} {watches : List Watch}
    (valid : ∀ w ∈ watches, w.Valid input pos) (region : Region) (context : Context) (s : Session) :
    ∃ after, runRules input pos region context watches s =
        (((Uncached.fire input pos region context (watches.map Prod.fst) s).1, after),
          (Uncached.fire input pos region context (watches.map Prod.fst) s).2) ∧
      after.map Prod.fst = watches.map Prod.fst ∧ ∀ w ∈ after, w.Valid input pos := by
  induction watches generalizing s with
  | nil => exact ⟨[], rfl, rfl, by simp⟩
  | cons w others ih =>
    obtain ⟨rule, ahead⟩ := w
    have head : Watch.Valid input pos (rule, ahead) := valid _ List.mem_cons_self
    have tail : ∀ w ∈ others, w.Valid input pos := fun w mem => valid w (List.mem_cons_of_mem _ mem)
    have pass (ahead : Lookahead) (known : Watch.Valid input pos (rule, ahead)) (s : Session) :
        ∃ after, ((((runRules input pos region context others s).1.1,
              (rule, ahead) :: (runRules input pos region context others s).1.2),
            (runRules input pos region context others s).2) =
          (((Uncached.fire input pos region context (others.map Prod.fst) s).1, after),
            (Uncached.fire input pos region context (others.map Prod.fst) s).2)) ∧
          after.map Prod.fst = rule :: others.map Prod.fst ∧ ∀ w ∈ after, Watch.Valid input pos w := by
      obtain ⟨after, same, rules, fresh⟩ := ih tail s
      refine ⟨(rule, ahead) :: after, by rw [same], by simp [rules], ?_⟩
      exact List.forall_mem_cons.mpr ⟨known, fresh⟩
    simp only [runRules, Uncached.fire, List.map_cons]
    cases applied : rule.applies region context s with
    | mk takesPart s =>
      cases takesPart with
      | false => exact pass ahead head s
      | true =>
        simp only [refreshSearches head]
        cases search : rule.find? input pos with
        | error e => exact ⟨(rule, ahead) :: others, rfl, rfl, valid⟩
        | ok found =>
          have known := searchedValid search
          cases found with
          | none => exact pass .exhausted known s
          | some m =>
            by_cases here : m.start = pos
            · have after := List.forall_mem_cons.mpr ⟨known, tail⟩
              simp only [Except.map, Lookahead.ofSearch, if_pos here]
              generalize rule.handle m region context _ = handled
              obtain ⟨result, s⟩ := handled
              cases result <;> exact ⟨_, rfl, rfl, after⟩
            · simp only [Except.map, Lookahead.ofSearch, if_neg here]
              exact pass (.found m) known s

def restore (watches : List Watch) (p : Uncached.Progress) : Progress :=
  { watches, region := p.region, context := p.context, segments := p.segments }

theorem stepRecalls {input : Text} {pos : Nat} {watches : List Watch}
    (valid : ∀ w ∈ watches, w.Valid input pos) (c : Char) (rest : Text) (p : Uncached.Progress)
    (s : Session) :
    ∃ after, step input c rest pos (restore watches p) s =
        (((Uncached.step (watches.map Prod.fst) input c rest pos p s).1.map
            fun (p, next) => (restore after p, next)),
          (Uncached.step (watches.map Prod.fst) input c rest pos p s).2) ∧
      after.map Prod.fst = watches.map Prod.fst ∧ ∀ w ∈ after, w.Valid input pos := by
  obtain ⟨after, same, rules, fresh⟩ :=
    runRulesFires valid p.region p.context { s with inRules := true }
  refine ⟨after, ?_, rules, fresh⟩
  simp only [step, Uncached.step, Session.whileInRules, restore, same]
  generalize Uncached.fire input pos p.region p.context (watches.map Prod.fst) _ = fired
  obtain ⟨result, s⟩ := fired
  cases result with
  | error e => rfl
  | ok found =>
    cases found with
    | some fired => rfl
    | none =>
      simp only
      cases NativeToken.length? p.region (c :: rest) <;> rfl

theorem scanRecalls {input before rest : Text} {watches : List Watch}
    (split : input = before ++ rest) (steady : ∀ w ∈ watches, w.1.Steady input)
    (valid : ∀ w ∈ watches, w.Valid input (Text.size before)) (next : Nat)
    (p : Uncached.Progress) (s : Session) :
    ∃ after, scan input rest (Text.size before) next (restore watches p) s =
      (((Uncached.scan (watches.map Prod.fst) input rest (Text.size before) next p s).1.map
          (restore after)),
        (Uncached.scan (watches.map Prod.fst) input rest (Text.size before) next p s).2) := by
  induction rest generalizing before watches next p s with
  | nil => exact ⟨watches, rfl⟩
  | cons c rest ih =>
    have moved : Text.size (before ++ [c]) = Text.size before + c.utf8Size := by
      simp [Text.sizeAppend, Text.size]
    have split' : input = (before ++ [c]) ++ rest := by simpa using split
    have here : input.IsPlace (Text.size before) := split ▸ Text.placeBefore
    have there : input.IsPlace (Text.size (before ++ [c])) := split' ▸ Text.placeBefore
    have later {watches : List Watch} (steady : ∀ w ∈ watches, w.1.Steady input)
        (valid : ∀ w ∈ watches, w.Valid input (Text.size before)) :
        ∀ w ∈ watches, w.Valid input (Text.size (before ++ [c])) := fun w mem =>
      watchMoves (steady w mem) here there (by omega) (valid w mem)
    simp only [scan, Uncached.scan]
    by_cases skip : Text.size before < next
    · simp only [if_pos skip, ← moved]
      exact ih split' steady (later steady valid) next p s
    · simp only [if_neg skip]
      obtain ⟨after, same, rules, fresh⟩ := stepRecalls valid c rest p s
      have steady' : ∀ w ∈ after, w.1.Steady input := by
        intro w mem
        have rule : w.1 ∈ watches.map Prod.fst := rules ▸ List.mem_map_of_mem mem
        obtain ⟨old, member, eq⟩ := List.mem_map.mp rule
        exact eq ▸ steady old member
      rw [same]
      generalize Uncached.step (watches.map Prod.fst) input c rest (Text.size before) p s = stepped
      obtain ⟨result, s⟩ := stepped
      cases result with
      | error e => exact ⟨after, rfl⟩
      | ok found =>
        obtain ⟨p, next⟩ := found
        simp only [Except.map, ← moved, ← rules]
        exact ih split' steady' (later steady' fresh) next p s

end Rewrite

theorem rewriteUncached {rules : List TokenRule} {pattern : Text}
    (steady : ∀ rule ∈ rules, rule.Steady pattern) (flags : FlagSet) (s : Session) :
    rewrite rules pattern flags s = Uncached.rewrite rules pattern flags s := by
  have steady' : ∀ w ∈ rules.map (·, Rewrite.Lookahead.unsearched), w.1.Steady pattern := by
    simpa using steady
  have valid : ∀ w ∈ rules.map (·, Rewrite.Lookahead.unsearched),
      Rewrite.Watch.Valid pattern (Text.size []) w := by
    intro w mem
    obtain ⟨rule, _, rfl⟩ := List.mem_map.mp mem
    trivial
  have whole : pattern = [] ++ pattern := rfl
  obtain ⟨after, same⟩ := Rewrite.scanRecalls whole steady' valid 0 { context := .start flags } s
  have names : (rules.map (·, Rewrite.Lookahead.unsearched)).map Prod.fst = rules := by
    simp [Function.comp_def]
  rw [names] at same
  unfold rewrite Uncached.rewrite
  split
  · rfl
  · simp only [Rewrite.restore, Text.size] at same
    simp only [same]
    generalize Uncached.scan rules pattern pattern 0 0 _ s = scanned
    obtain ⟨result, s⟩ := scanned
    cases result <;> rfl

end ExtendedPattern
