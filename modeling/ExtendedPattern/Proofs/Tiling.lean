import ExtendedPattern.Proofs.BalancedCall
import Mathlib.Data.List.Chain

/-! Parts of a subject with balanced delimiters. Each round of the loop goes on behind the delimiter it
met, so the loop ends by itself, and its pairs lie one behind the other; with the gaps between them they
tile the subject. -/
namespace ExtendedPattern
open Text (size)

namespace Balanced

variable {search : Searches} {subject : Text} {mode : Mode}

inductive Trace (subject : Text) (mode : Mode) (search : Searches) : State → Except Failure Unit × State → Prop where
  | fails {s e} (failed : search.next s.position = .error e) : Trace subject mode search s (.error e, s)
  | stops {s t found} (searched : search.next s.position = .ok found) (met : s.meet subject mode found = (.done, t)) :
      Trace subject mode search s (.ok (), t)
  | unbalanced {s t found} (searched : search.next s.position = .ok found)
      (met : s.meet subject mode found = (.unbalanced, t)) : Trace subject mode search s (.error .unbalancedDelimiter, t)
  | goesOn {s t delimiter span result} (searched : search.next s.position = .ok (some (delimiter, span)))
      (cuts : subject.Cuts span) (met : s.meet subject mode (some (delimiter, span)) = (.goOn, t))
      (more : Trace subject mode search t result) : Trace subject mode search s result

theorem traceSame {s : State} {first second : Except Failure Unit × State} (one : Trace subject mode search s first)
    (other : Trace subject mode search s second) : first = second := by
  induction one with
  | fails failed =>
    cases other with
    | fails again => cases failed.symm.trans again; rfl
    | stops searched => cases failed.symm.trans searched
    | unbalanced searched => cases failed.symm.trans searched
    | goesOn searched => cases failed.symm.trans searched
  | stops searched met =>
    cases other with
    | fails failed => cases searched.symm.trans failed
    | stops again met' => cases searched.symm.trans again; cases met.symm.trans met'; rfl
    | unbalanced again met' => cases searched.symm.trans again; cases met.symm.trans met'
    | goesOn again _ met' => cases searched.symm.trans again; cases met.symm.trans met'
  | unbalanced searched met =>
    cases other with
    | fails failed => cases searched.symm.trans failed
    | stops again met' => cases searched.symm.trans again; cases met.symm.trans met'
    | unbalanced again met' => cases searched.symm.trans again; cases met.symm.trans met'; rfl
    | goesOn again _ met' => cases searched.symm.trans again; cases met.symm.trans met'
  | goesOn searched _ met _ ih =>
    cases other with
    | fails failed => cases searched.symm.trans failed
    | stops again met' => cases searched.symm.trans again; cases met.symm.trans met'
    | unbalanced again met' => cases searched.symm.trans again; cases met.symm.trans met'
    | goesOn again _ met' more => cases searched.symm.trans again; cases met.symm.trans met'; exact ih more

inductive Met (subject : Text) (s : State) : Option (Delimiter × Span) → Verdict × State → Prop where
  | stays {found verdict} (ends : verdict ≠ .goOn) : Met subject s found (verdict, s)
  | enters {span} : Met subject s (some (.left, span)) (.goOn, (s.enter span).passed subject span)
  | leaves {span} (deep : 0 < s.depth) : Met subject s (some (.right, span)) (.goOn, (s.leave span).passed subject span)
  | closes {span} (deep : 0 < s.depth) : Met subject s (some (.right, span)) (.done, s.leave span)

theorem stateMeets (subject : Text) (mode : Mode) (s : State) (found : Option (Delimiter × Span)) :
    Met subject s found (s.meet subject mode found) := by
  unfold State.meet
  split
  · split <;> exact .stays nofun
  rename_i delimiter span
  split
  · exact .stays nofun
  cases delimiter with
  | left => exact .enters
  | right =>
    dsimp only
    split
    · exact .stays nofun
    rename_i deep
    split
    · exact .closes (Nat.pos_of_ne_zero deep)
    · exact .leaves (Nat.pos_of_ne_zero deep)

theorem passedBehind {span : Span} (cuts : subject.Cuts span) (s : State) :
    span.start < (s.passed subject span).position ∧ span.stop ≤ (s.passed subject span).position ∧
      (subject.IsPlace (s.passed subject span).position ∨ subject.size < (s.passed subject span).position) :=
  Text.cutsResume cuts rfl

theorem traceOfScan (lawful : search.Lawful subject) {fuel : Nat} {s : State}
    (at_ : subject.IsPlace s.position ∨ subject.size < s.position) (enough : subject.placesFrom s.position < fuel) :
    Trace subject mode search s (scan subject mode search fuel s) := by
  induction fuel generalizing s with
  | zero => contradiction
  | succ fuel ih =>
    rw [scanRound]
    cases searched : search.next s.position with
    | error e => exact .fails searched
    | ok found =>
      dsimp only
      cases met : s.meet subject mode found with
      | mk verdict t =>
        cases verdict with
        | done => exact .stops searched met
        | unbalanced => exact .unbalanced searched met
        | goOn =>
          obtain ⟨delimiter, span, u, rfl, rfl⟩ : ∃ delimiter span u, found = some (delimiter, span) ∧
              t = State.passed u subject span := by
            cases met ▸ stateMeets subject mode s found with
            | stays ends => contradiction
            | enters => exact ⟨_, _, _, rfl, rfl⟩
            | leaves => exact ⟨_, _, _, rfl, rfl⟩
          obtain ⟨behind, cuts, _⟩ := lawful.next searched
          obtain ⟨ahead, _, next⟩ := passedBehind cuts u
          have inside := Text.placeInside cuts.start
          have here : subject.IsPlace s.position := at_.resolve_right (by omega)
          have fewer := Text.placesShrink here (Nat.lt_of_le_of_lt behind ahead) next
          exact .goesOn searched cuts met (ih next (by omega))

structure Pair.Sound (p : Pair) (search : Searches) (subject : Text) : Prop where
  left : search.Finds ⟨p.outer, p.inner⟩ .left
  right : search.Finds p.right .right
  opening : subject.Cuts ⟨p.outer, p.inner⟩
  inside : subject.Cuts ⟨p.inner, p.right.start⟩
  closing : subject.Cuts p.right

inductive Row (search : Searches) (subject : Text) : Nat → List Pair → Nat → Prop where
  | nil (n : Nat) : Row search subject n [] n
  | cons {n m : Nat} {p : Pair} {more : List Pair} (behind : n ≤ p.outer) (sound : p.Sound search subject)
      (row : Row search subject p.right.stop more m) : Row search subject n (p :: more) m

theorem Row.snoc {n m : Nat} {p : Pair} {ps : List Pair} (row : Row search subject n ps m) (behind : m ≤ p.outer)
    (sound : p.Sound search subject) : Row search subject n (ps ++ [p]) p.right.stop := by
  induction row with
  | nil n => exact .cons behind sound (.nil _)
  | cons first whole _ ih => exact .cons first whole (ih behind)

structure State.Sound (s : State) (search : Searches) (subject : Text) : Prop where
  behind : s.lastEnd ≤ s.position
  opened : 0 < s.depth → s.lastEnd ≤ s.outer ∧ search.Finds ⟨s.outer, s.inner⟩ .left ∧
    subject.Cuts ⟨s.outer, s.inner⟩ ∧ s.inner ≤ s.position
  row : Row search subject 0 s.pairs.reverse s.lastEnd

namespace State.Sound
variable {s : State} {span : Span}

theorem enter (sound : s.Sound search subject) (behind : s.position ≤ span.start) (cuts : subject.Cuts span)
    (found : search.Finds span .left) : ((s.enter span).passed subject span).Sound search subject := by
  obtain ⟨_, past, _⟩ := passedBehind cuts (s.enter span)
  have order := cuts.ordered
  have last := sound.behind
  by_cases flat : s.depth = 0
  · have same : (s.enter span).lastEnd = s.lastEnd ∧ (s.enter span).pairs = s.pairs ∧
        (s.enter span).outer = span.start ∧ (s.enter span).inner = span.stop := by simp [State.enter, flat]
    obtain ⟨end_, pairs, outer, inner⟩ := same
    constructor <;> simp only [State.passed, end_, pairs, outer, inner] at past ⊢
    · omega
    · exact fun _ => ⟨by omega, found, cuts, past⟩
    · exact sound.row
  · obtain ⟨first, open_, opening, inside⟩ := sound.opened (Nat.pos_of_ne_zero flat)
    have same : (s.enter span).lastEnd = s.lastEnd ∧ (s.enter span).pairs = s.pairs ∧
        (s.enter span).outer = s.outer ∧ (s.enter span).inner = s.inner := by simp [State.enter, flat]
    obtain ⟨end_, pairs, outer, inner⟩ := same
    constructor <;> simp only [State.passed, end_, pairs, outer, inner] at past ⊢
    · omega
    · exact fun _ => ⟨first, open_, opening, by omega⟩
    · exact sound.row

theorem leaveRow (sound : s.Sound search subject) (deep : 0 < s.depth) (behind : s.position ≤ span.start)
    (cuts : subject.Cuts span) (found : search.Finds span .right) :
    Row search subject 0 (s.leave span).pairs.reverse (s.leave span).lastEnd := by
  obtain ⟨first, open_, opening, inside⟩ := sound.opened deep
  unfold State.leave
  dsimp only
  split
  · have pair : Pair.Sound ⟨s.outer, s.inner, span⟩ search subject :=
      ⟨open_, found, opening, ⟨opening.stop, cuts.start, Nat.le_trans inside behind⟩, cuts⟩
    rw [List.reverse_cons]
    exact sound.row.snoc first pair
  · exact sound.row

theorem leave (sound : s.Sound search subject) (deep : 0 < s.depth) (behind : s.position ≤ span.start)
    (cuts : subject.Cuts span) (found : search.Finds span .right) :
    ((s.leave span).passed subject span).Sound search subject := by
  have row := sound.leaveRow deep behind cuts found
  obtain ⟨first, open_, opening, inside⟩ := sound.opened deep
  obtain ⟨_, past, _⟩ := passedBehind cuts (s.leave span)
  have order := cuts.ordered
  have last := sound.behind
  by_cases closes : s.depth - 1 = 0
  · have same : (s.leave span).lastEnd = span.stop ∧ (s.leave span).depth = 0 := by simp [State.leave, closes]
    constructor
    · simpa only [State.passed, same.1] using past
    · intro still
      exact absurd still (by simp [State.passed, same.2])
    · exact row
  · have same : (s.leave span).lastEnd = s.lastEnd ∧ (s.leave span).outer = s.outer ∧
        (s.leave span).inner = s.inner := by simp [State.leave, closes]
    obtain ⟨end_, outer, inner⟩ := same
    constructor
    · simp only [State.passed, end_] at past ⊢
      omega
    · simp only [State.passed, end_, outer, inner] at past ⊢
      exact fun _ => ⟨first, open_, opening, by omega⟩
    · exact row

end State.Sound

theorem traceRow (lawful : search.Lawful subject) {s : State} {result : Except Failure Unit × State}
    (trace : Trace subject mode search s result) (sound : s.Sound search subject) :
    Row search subject 0 result.2.pairs.reverse result.2.lastEnd := by
  induction trace with
  | fails => exact sound.row
  | stops searched met =>
    cases met ▸ stateMeets subject mode _ _ with
    | stays => exact sound.row
    | closes deep =>
      obtain ⟨behind, cuts, found⟩ := lawful.next searched
      exact sound.leaveRow deep behind cuts found
  | unbalanced _ met =>
    cases met ▸ stateMeets subject mode _ _ with
    | stays => exact sound.row
  | goesOn searched cuts met _ ih =>
    obtain ⟨behind, _, found⟩ := lawful.next searched
    cases met ▸ stateMeets subject mode _ _ with
    | stays ends => contradiction
    | enters => exact ih (sound.enter behind cuts found)
    | leaves deep => exact ih (sound.leave deep behind cuts found)

inductive Kind where
  | between
  | left
  | inner
  | right
  deriving DecidableEq, Repr

inductive Kind.Before : Kind → Kind → Prop where
  | opens : Before .between .left
  | fills : Before .left .inner
  | closes : Before .inner .right
  | parts : Before .right .between
  | touches : Before .right .left

structure Tile where
  kind : Kind
  span : Span
  deriving DecidableEq, Repr

def gap (n m : Nat) : List Tile := if n < m then [⟨.between, ⟨n, m⟩⟩] else []

def Pair.tiles (p : Pair) : List Tile :=
  [⟨.left, ⟨p.outer, p.inner⟩⟩, ⟨.inner, ⟨p.inner, p.right.start⟩⟩, ⟨.right, p.right⟩]

def tiles (subject : Text) (rest : Bool) (lastEnd : Nat) : List Pair → List Tile
  | [] => if rest then gap lastEnd subject.size else []
  | p :: more => gap lastEnd p.outer ++ (p.tiles ++ tiles subject rest p.right.stop more)

def Kind.label (labels : PartLabels) : Kind → Option Text
  | .between => labels.between
  | .left => labels.left
  | .inner => labels.inner
  | .right => labels.right

def Tile.part? (subject : Text) (labels : PartLabels) (t : Tile) : Option Part :=
  (t.kind.label labels).map fun label => ⟨label, subject.slice t.span, t.span⟩

variable (subject : Text) (labels : PartLabels)

theorem partOfTile (t : Tile) : part subject (t.kind.label labels) t.span = (t.part? subject labels).toList := by
  unfold part Tile.part?
  cases t.kind.label labels <;> rfl

theorem shownFirst (t : Tile) (ts : List Tile) : (t :: ts).filterMap (Tile.part? subject labels) =
    part subject (t.kind.label labels) t.span ++ ts.filterMap (Tile.part? subject labels) := by
  rw [partOfTile]
  cases shown : t.part? subject labels <;> simp [shown]

theorem betweenOfGap (n m : Nat) :
    between subject labels n m = (gap n m).filterMap (Tile.part? subject labels) := by
  unfold between gap
  split
  · rw [shownFirst]
    exact (List.append_nil _).symm
  · rfl

theorem partsOfTiles (rest : Bool) (lastEnd : Nat) (ps : List Pair) :
    parts subject labels rest lastEnd ps = (tiles subject rest lastEnd ps).filterMap (Tile.part? subject labels) := by
  induction ps generalizing lastEnd with
  | nil =>
    cases rest with
    | false => rfl
    | true => exact betweenOfGap subject labels lastEnd subject.size
  | cons p more ih =>
    simp only [parts, tiles, Pair.tiles, List.filterMap_append, shownFirst, ← betweenOfGap, ih, List.append_assoc]
    rfl

theorem insidesOfTiles (rest : Bool) (lastEnd : Nat) (ps : List Pair) :
    ((tiles subject rest lastEnd ps).filter (·.kind = .inner)).map (subject.slice ·.span) =
      ps.map fun p => subject.slice ⟨p.inner, p.right.start⟩ := by
  have apart (n m : Nat) : (gap n m).filter (·.kind = .inner) = [] := by unfold gap; split <;> rfl
  induction ps generalizing lastEnd with
  | nil =>
    cases rest with
    | false => rfl
    | true => exact congrArg (List.map _) (apart lastEnd subject.size)
  | cons p more ih => simp [tiles, Pair.tiles, apart, ih]

theorem pairsOfTiles (rest : Bool) (lastEnd : Nat) (ps : List Pair) :
    (tiles subject rest lastEnd ps).filter (·.kind ≠ .between) = ps.flatMap Pair.tiles := by
  have apart (n m : Nat) : (gap n m).filter (·.kind ≠ .between) = [] := by unfold gap; split <;> rfl
  induction ps generalizing lastEnd with
  | nil =>
    cases rest with
    | false => rfl
    | true => exact apart lastEnd subject.size
  | cons p more ih =>
    have whole : p.tiles.filter (·.kind ≠ .between) = p.tiles := rfl
    rw [tiles, List.filter_append, List.filter_append, apart, whole, ih, List.flatMap_cons, List.nil_append]

theorem lastOfTiles (lastEnd : Nat) (ps : List Pair) :
    (tiles subject false lastEnd ps).getLast? = ps.getLast?.map fun p => ⟨.right, p.right⟩ := by
  induction ps generalizing lastEnd with
  | nil => rfl
  | cons p more ih =>
    rw [tiles, List.getLast?_append, List.getLast?_append, ih, List.getLast?_cons]
    cases more.getLast? <;> rfl

variable {subject : Text} {rest : Bool} {previous : Kind} {n m : Nat}

def Tile.Sound (t : Tile) (search : Searches) (subject : Text) : Prop :=
  subject.Cuts t.span ∧
    match t.kind with
    | .between => t.span.start < t.span.stop
    | .left => search.Finds t.span .left
    | .inner => True
    | .right => search.Finds t.span .right

/-- Tiles from byte `n` on: the first starts there, as if behind a tile of the kind `previous`, and each
starts where the one before ends. -/
structure Tiling (search : Searches) (subject : Text) (rest : Bool) (previous : Kind) (n : Nat)
    (ts : List Tile) : Prop where
  start : ∀ t ∈ ts.head?, t.span.start = n
  joined : ts.IsChain fun a b => a.span.stop = b.span.start
  order : (previous :: ts.map Tile.kind).IsChain Kind.Before
  sound : ∀ t ∈ ts, t.Sound search subject
  whole : rest = true → (ts.getLast?.map (·.span.stop)).getD n = subject.size
  closed : rest = false → ∀ t ∈ ts.getLast?, t.kind = .right

theorem Tiling.nil (whole : rest = true → n = subject.size) : Tiling search subject rest previous n [] where
  start := by simp
  joined := .nil
  order := by simp
  sound := by simp
  whole := whole
  closed := by simp

theorem Tiling.cons {t : Tile} {ts : List Tile} (tiling : Tiling search subject rest t.kind t.span.stop ts)
    (start : t.span.start = n) (order : previous.Before t.kind) (sound : t.Sound search subject)
    (closed : rest = false → ts = [] → t.kind = .right) : Tiling search subject rest previous n (t :: ts) where
  start := by simpa using start
  joined := List.isChain_cons.mpr ⟨fun u head => (tiling.start u head).symm, tiling.joined⟩
  order := List.isChain_cons_cons.mpr ⟨order, tiling.order⟩
  sound := List.forall_mem_cons.mpr ⟨sound, tiling.sound⟩
  whole all := by
    have whole := tiling.whole all
    rw [List.getLast?_cons]
    cases last : ts.getLast? <;> simpa [last] using whole
  closed part := by
    have others := tiling.closed part
    rw [List.getLast?_cons]
    cases last : ts.getLast? with
    | none => simpa using closed part (List.getLast?_eq_none_iff.mp last)
    | some u => simpa [last] using others

theorem Tiling.gap {ts : List Tile} (tiling : Tiling search subject rest .between m ts)
    (touching : Tiling search subject rest .right m ts) (order : n ≤ m) (first : subject.IsPlace n)
    (last : subject.IsPlace m) (more : rest = false → ts ≠ []) :
    Tiling search subject rest .right n (Balanced.gap n m ++ ts) := by
  unfold Balanced.gap
  split
  · rename_i apart
    exact .cons tiling rfl .parts ⟨⟨first, last, order⟩, apart⟩ fun part none => absurd none (more part)
  · cases Nat.le_antisymm order (by omega)
    exact touching

theorem tilesTile {ps : List Pair} (rest : Bool) (row : Row search subject n ps m) (place : subject.IsPlace n) :
    Tiling search subject rest .right n (tiles subject rest n ps) := by
  induction row with
  | nil n =>
    cases rest with
    | false => exact .nil (by simp)
    | true =>
      have nothing (kind : Kind) : Tiling search subject true kind subject.size [] := .nil fun _ => rfl
      have whole := Tiling.gap (nothing .between) (nothing .right) (Text.placeInside place) place
        (Text.placeAtEnd subject) (by simp)
      simpa [tiles] using whole
  | @cons n m p more behind sound _ ih =>
    have right : Tiling search subject rest .inner p.right.start (⟨.right, p.right⟩ :: tiles subject rest p.right.stop more) :=
      .cons (ih sound.closing.stop) rfl .closes ⟨sound.closing, sound.right⟩ fun _ _ => rfl
    have inner := Tiling.cons (t := ⟨.inner, ⟨p.inner, p.right.start⟩⟩) right rfl .fills ⟨sound.inside, trivial⟩ (by simp)
    have left {previous : Kind} (order : previous.Before .left) :=
      Tiling.cons (t := ⟨.left, ⟨p.outer, p.inner⟩⟩) inner rfl order ⟨sound.opening, sound.left⟩ (by simp)
    exact .gap (left .opens) (left .touches) behind place sound.opening.start (by simp [Pair.tiles])

def shown (subject : Text) (labels : Option PartLabels) (ts : List Tile) : BalancedResult :=
  match labels with
  | none => .values ((ts.filter (·.kind = .inner)).map (subject.slice ·.span))
  | some labels => .parts (ts.filterMap (Tile.part? subject labels))

theorem reportShown (subject : Text) (labels : Option PartLabels) (mode : Mode) (ps : List Pair) :
    report subject labels mode ps = shown subject labels (tiles subject (mode.global && !mode.sticky) 0 ps) := by
  cases labels with
  | none => exact congrArg BalancedResult.values (insidesOfTiles subject _ _ _).symm
  | some labels => exact congrArg BalancedResult.parts (partsOfTiles subject labels _ _ _)

theorem Call.Orderly.scanRow {call : Call} {subject : Text} (orderly : call.Orderly subject) :
    Trace subject call.mode (call.search subject) {} (call.scan subject) ∧
      Row (call.search subject) subject 0 (call.scan subject).2.pairs.reverse (call.scan subject).2.lastEnd := by
  have start : subject.IsPlace 0 := Text.placeAtStart subject
  have enough : subject.placesFrom 0 < rounds subject := by
    rw [Text.placesFromStart, rounds]
    omega
  have trace : Trace subject call.mode (call.search subject) {} (call.scan subject) :=
    traceOfScan orderly.lawful (.inl start) enough
  have sound : State.Sound {} (call.search subject) subject :=
    ⟨Nat.le_refl _, fun deep => absurd deep (Nat.lt_irrefl _), .nil 0⟩
  exact ⟨trace, traceRow orderly.lawful trace sound⟩

/-- The tiles of the pairs that a call has met: side by side, each pair as its left, inner and right part. Without a rest
the last tile is the right part of the last pair. -/
structure Tiled (call : Call) (subject : Text) (rest : Bool) (ts : List Tile) : Prop where
  own : ts = tiles subject rest 0 (call.scan subject).2.pairs.reverse
  tiling : Tiling (call.search subject) subject rest .right 0 ts
  each : ts.filter (·.kind ≠ .between) = (call.scan subject).2.pairs.reverse.flatMap Pair.tiles
  last : rest = false → ts.getLast? = (call.scan subject).2.pairs.reverse.getLast?.map fun p => ⟨.right, p.right⟩

theorem Call.Orderly.tiled {call : Call} {subject : Text} (orderly : call.Orderly subject) (rest : Bool) :
    Tiled call subject rest (tiles subject rest 0 (call.scan subject).2.pairs.reverse) where
  own := rfl
  tiling := tilesTile rest orderly.scanRow.2 (Text.placeAtStart subject)
  each := pairsOfTiles subject rest 0 _
  last := by
    rintro rfl
    exact lastOfTiles subject 0 _

theorem Row.ordered {search : Searches} {ps : List Pair} (row : Row search subject n ps m) : ∀ p ∈ ps, p.inner ≤ p.right.start := by
  induction row with
  | nil => exact nofun
  | cons _ sound _ ih => exact List.forall_mem_cons.mpr ⟨sound.inside.ordered, ih⟩

theorem Call.Orderly.answers {call : Call} {subject : Text} (orderly : call.Orderly subject) (labels : Option PartLabels) :
    call.answer subject labels =
      (call.scan subject).1.map fun _ => report subject labels call.mode (call.scan subject).2.pairs.reverse :=
  answerOrdered labels call.mode fun _ p mem => orderly.scanRow.2.ordered p (List.mem_reverse.mpr mem)

/-- The loop of a call ends by itself, and what it reports, under any labels, shows the same tiles of the subject: those of
the outermost pairs it has met, with the gaps between them. -/
theorem partsTileSubject {subject left right letters : Text} {escape : Option Text} {s : Session}
    (orderly : ∀ flags call, FlagSet.ofLetters letters = .ok flags →
      (Call.prepare left right flags escape s).1 = .ok call → call.Orderly subject) :
    (∀ flags call, FlagSet.ofLetters letters = .ok flags → (Call.prepare left right flags escape s).1 = .ok call →
      (∀ result, Trace subject call.mode (call.search subject) {} result ↔ result = call.scan subject) ∧
      Row (call.search subject) subject 0 (call.scan subject).2.pairs.reverse (call.scan subject).2.lastEnd) ∧
    ((∃ e, ∀ labels, (matchBalanced subject left right letters ⟨labels, escape⟩ s).1 = .error e) ∨
      ∃ flags call ts, FlagSet.ofLetters letters = .ok flags ∧ (Call.prepare left right flags escape s).1 = .ok call ∧
        Tiled call subject (flags.has .global && !flags.has .sticky) ts ∧
        ∀ labels, (matchBalanced subject left right letters ⟨labels, escape⟩ s).1 = .ok (shown subject labels ts)) := by
  constructor
  · intro flags call known prepared
    obtain ⟨trace, row⟩ := (orderly flags call known prepared).scanRow
    exact ⟨fun result => ⟨fun other => traceSame other trace, fun same => same ▸ trace⟩, row⟩
  · cases known : FlagSet.ofLetters letters with
    | error e => exact .inl ⟨e, fun _ => by rw [matchPrepares, known]⟩
    | ok flags =>
      cases prepared : (Call.prepare left right flags escape s).1 with
      | error e => exact .inl ⟨e, fun _ => by simp only [matchPrepares, known, prepared]⟩
      | ok call =>
        have orderly := orderly flags call known prepared
        have answers (labels : Option PartLabels) : (matchBalanced subject left right letters ⟨labels, escape⟩ s).1 =
            (call.scan subject).1.map fun _ => report subject labels call.mode (call.scan subject).2.pairs.reverse :=
          (matchAnswers known prepared).trans (orderly.answers labels)
        cases scanned : (call.scan subject).1 with
        | error e => exact .inl ⟨e, fun labels => by rw [answers, scanned]; rfl⟩
        | ok =>
          have mode : call.mode = ⟨flags.has .global, flags.has .sticky⟩ := (Call.prepareBuilds prepared).mode
          refine .inr ⟨flags, call, _, rfl, prepared, orderly.tiled _, fun labels => ?_⟩
          simp only [answers, scanned, Except.map, reportShown, mode]

theorem emptyDelimiterAtEnd :
    (∀ flags call, FlagSet.ofLetters ['g'] = .ok flags → (Call.prepare ['a'] ['$'] flags none {}).1 = .ok call →
      call.Orderly ['é', 'a']) ∧
    ∃ flags call ts, FlagSet.ofLetters ['g'] = .ok flags ∧ (Call.prepare ['a'] ['$'] flags none {}).1 = .ok call ∧
      Tiled call ['é', 'a'] true ts ∧ ts = [⟨.between, ⟨0, 2⟩⟩, ⟨.left, ⟨2, 3⟩⟩, ⟨.inner, ⟨3, 3⟩⟩, ⟨.right, ⟨3, 3⟩⟩] ∧
      ∀ labels, (matchBalanced ['é', 'a'] ['a'] ['$'] ['g'] ⟨labels, none⟩ {}).1 = .ok (shown ['é', 'a'] labels ts) := by
  have facts : (Pattern.assemble ['$'] ['$'] (.single .global) none {}).toOption.map (fun p =>
      let call : Call := ⟨⟨true, false⟩, .ofCharacter 'a' (.single .global), p, none⟩
      (p.program.keepsStart, (call.scan ['é', 'a']).1.toOption, (call.scan ['é', 'a']).2.pairs)) =
        some (true, some (), [⟨2, 3, ⟨3, 3⟩⟩]) := by
    decide +kernel
  obtain ⟨t, leftBuilt, idle⟩ := @Pattern.compilesCharacter 'a' (.single .global) rfl {} rfl
  have writes : Scanning.Writes _ ['$'] [] ['$'] [] ⟨.outside, .start (.single .global)⟩
      ⟨.outside, .start (.single .global)⟩ ['$'] :=
    Scanning.ofLone .global (by decide) (by decide) (by decide) rfl
  have searches : Registry.global.Searches ['$'] := Registry.Standard.global.shortSearches (by decide)
  obtain ⟨u, rightBuilt, _⟩ := Pattern.compilesTo .global searches writes idle
  have source : escape ['a'] = ['a'] := rfl
  have start : (Context.start (.single .global)).flags = .single .global ∧ (Context.start (.single .global)).names = none :=
    ⟨rfl, rfl⟩
  rw [source] at leftBuilt
  rw [start.1, start.2] at rightBuilt
  obtain ⟨p, built, facts⟩ := okOfMap facts
  obtain ⟨keeps, rest⟩ := Prod.mk.inj facts
  obtain ⟨ends, pairs⟩ := Prod.mk.inj rest
  let call : Call := ⟨⟨true, false⟩, .ofCharacter 'a' (.single .global), p, none⟩
  rw [built] at rightBuilt
  have prepared : (Call.prepare ['a'] ['$'] (.single .global) none {}).1 = .ok call :=
    Call.prepareOf leftBuilt rightBuilt rfl
  have orderly : call.Orderly ['é', 'a'] := ⟨Pattern.orderly rfl _, Pattern.orderly keeps _, nofun⟩
  have global : FlagSet.ofLetters ['g'] = .ok (.single .global) := rfl
  have answer := (matchAnswers (o := ⟨none, none⟩) global prepared).trans (orderly.answers none)
  have ended : (call.scan ['é', 'a']).1 = .ok () := okOfToOption ends
  have orderly : ∀ flags call, FlagSet.ofLetters ['g'] = .ok flags →
      (Call.prepare ['a'] ['$'] flags none {}).1 = .ok call → call.Orderly ['é', 'a'] := by
    rintro flags other ⟨⟩ again
    cases prepared.symm.trans again
    exact orderly
  refine ⟨orderly, ?_⟩
  obtain ⟨_, ⟨e, failed⟩ | ⟨flags, other, ts, known, again, tiled, shown⟩⟩ := partsTileSubject orderly
  · rw [failed, ended] at answer
    cases answer
  · cases known
    cases prepared.symm.trans again
    refine ⟨_, call, ts, rfl, prepared, tiled, ?_, shown⟩
    rw [tiled.own]
    change tiles _ true 0 ((call.scan ['é', 'a']).2.pairs.reverse) = _
    rw [pairs]
    rfl

end Balanced
end ExtendedPattern
