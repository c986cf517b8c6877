import ExtendedPattern.Proofs.EscapeRun

/-! Balanced pairs of single characters. The searches for an escaped stretch and for the two
delimiters find the next delimiter that counts, so the loop reads the subject as the reference does. -/
namespace ExtendedPattern
open Text (size)

namespace Balanced

theorem refersNot {t : Text} (plain : ∀ c ∈ t, c ≠ '\\' ∧ c ≠ '[') (fuel : Nat) :
    hasNumberedReference fuel t = false := by
  induction fuel generalizing t with
  | zero => rfl
  | succ fuel ih =>
    cases t with
    | nil => rfl
    | cons c rest =>
      obtain ⟨⟨noEscape, noClass⟩, plain⟩ := List.forall_mem_cons.mp plain
      simp [hasNumberedReference, noEscape, ih plain]

theorem spellingRefersNot {c : Char} {spelling : Text} (spells : Spelling c spelling) (fuel : Nat) :
    hasNumberedReference fuel spelling = false := by
  cases fuel with
  | zero => rfl
  | succ fuel =>
    have digits {t : Text} (numbers : ∀ d ∈ t, Engine.isHex d) : ∀ d ∈ t, d ≠ '\\' ∧ d ≠ '[' := by
      intro d mem
      have hex := numbers d mem
      constructor <;> rintro rfl <;> contradiction
    cases spells with
    | plain _ ordinary =>
      refine refersNot (List.forall_mem_singleton.mpr ⟨?_, ?_⟩) _ <;> rintro rfl <;>
        exact ordinary (by simp [metaChars])
    | escaped special =>
      have signs : metaChars.all (fun d => !('1' ≤ d && d ≤ '9')) = true := rfl
      have noDigit : ('1' ≤ c && c ≤ '9') = false := by
        simpa only [Bool.not_eq_true'] using List.all_eq_true.mp signs c special
      rw [hasNumberedReference, noDigit]
      exact refersNot (List.forall_mem_nil _) fuel
    | byte numbers =>
      have plain := digits fun d mem => (numbers.hex d mem).2
      have front : ('1' ≤ 'x' && 'x' ≤ '9') = false := by decide
      rw [hasNumberedReference, front, refersNot plain]
      rfl
    | @braced hex numbers =>
      have plain := digits fun d mem => (numbers.hex d mem).2
      have front : ('1' ≤ 'u' && 'u' ≤ '9') = false := by decide
      have inner : ∀ d ∈ '{' :: (hex ++ ['}']), d ≠ '\\' ∧ d ≠ '[' := by
        simpa [or_imp, forall_and] using plain
      rw [hasNumberedReference, front]
      exact refersNot inner fuel

namespace Signs
variable {m : Signs}

def next (m : Signs) (place : Nat) : Text → Option (Delimiter × Span)
  | [] => none
  | c :: _ =>
    if c = m.left then some (.left, ⟨place, place + c.utf8Size⟩)
    else if c = m.right then some (.right, ⟨place, place + c.utf8Size⟩)
    else none

end Signs

def Searches.next (search : Searches) (position : Nat) : Except Failure (Option (Delimiter × Span)) := do
  let position := ((← search.escaped position).getD position)
  let left ← search.left position
  let right ← search.right position
  .ok (nearest left right)

def Signs.searches (m : Signs) (subject : Text) : Searches where
  left := spanSearch (.ofCharacter m.left (.single .global)) subject
  right := spanSearch (.ofCharacter m.right (.single .global)) subject
  escaped := escapeSearch (m.escape.map fun e => .ofRun m.left m.right e) subject

namespace State

def Ordered (s : State) : Prop := ∀ p ∈ s.pairs, p.inner ≤ p.right.start

def values (s : State) (subject : Text) : List Text :=
  s.pairs.reverse.map fun p => subject.slice ⟨p.inner, p.right.start⟩

structure Tracks (s : State) (before inside : Text) : Prop where
  position : s.position = size before
  inner : 0 < s.depth → ∃ opened, before = opened ++ inside ∧ s.inner = size opened
  ordered : s.Ordered

namespace Tracks
variable {s : State} {before inside : Text}

theorem flat (position : s.position = size before) (depth : s.depth = 0) (ordered : s.Ordered) (inside : Text) : s.Tracks before inside :=
  ⟨position, fun deep => by omega, ordered⟩

theorem signSpan {span : Span} {before front : Text} {c : Char}
    (place : span = ⟨size before + size front, size before + size front + c.utf8Size⟩) :
    span.isEmpty = false ∧ span.stop = size (before ++ (front ++ [c])) := by
  have positive := c.utf8Size_pos
  constructor
  · simp [Span.isEmpty, place]
    omega
  · simp [place, Text.sizeAppend, size, Nat.add_assoc]

theorem enter (tracks : s.Tracks before inside) (subject front : Text) (c : Char) {span : Span}
    (place : span = ⟨size before + size front, size before + size front + c.utf8Size⟩) :
    ((s.enter span).passed subject span).depth = s.depth + 1 ∧
      ((s.enter span).passed subject span).pairs = s.pairs ∧
      ((s.enter span).passed subject span).Tracks (before ++ (front ++ [c]))
        (if s.depth = 0 then [] else inside ++ (front ++ [c])) := by
  obtain ⟨solid, behind⟩ := signSpan place
  by_cases flat : s.depth = 0
  · simp only [State.enter, State.passed, solid, flat, if_true, Bool.false_eq_true, if_false]
    exact ⟨trivial, trivial, behind, fun _ => ⟨_, (List.append_nil _).symm, behind⟩, tracks.ordered⟩
  · obtain ⟨opened, same, inner⟩ := tracks.inner (Nat.pos_of_ne_zero flat)
    simp only [State.enter, State.passed, solid, flat, Bool.false_eq_true, if_false]
    exact ⟨trivial, trivial, behind, fun _ => ⟨opened, by simp [same], inner⟩, tracks.ordered⟩

theorem leave (tracks : s.Tracks before inside) (deep : 0 < s.depth) {subject front rest : Text} {c : Char}
    (split : subject = before ++ (front ++ c :: rest)) {span : Span}
    (place : span = ⟨size before + size front, size before + size front + c.utf8Size⟩) :
    ((s.leave span).passed subject span).depth = s.depth - 1 ∧
      ((s.leave span).passed subject span).values subject =
        s.values subject ++ (if s.depth = 1 then [inside ++ front] else []) ∧
      ((s.leave span).passed subject span).Tracks (before ++ (front ++ [c])) (inside ++ (front ++ [c])) := by
  obtain ⟨solid, behind⟩ := signSpan place
  obtain ⟨opened, same, inner⟩ := tracks.inner deep
  by_cases last : s.depth = 1
  · have start : span.start = size opened + size (inside ++ front) := by
      simp [place, same, Text.sizeAppend, Nat.add_assoc]
    have ordered : ∀ p ∈ (⟨s.outer, s.inner, span⟩ : Pair) :: s.pairs, p.inner ≤ p.right.start :=
      List.forall_mem_cons.mpr ⟨by rw [start, inner]; exact Nat.le_add_right _ _, tracks.ordered⟩
    have text : subject.slice ⟨s.inner, span.start⟩ = inside ++ front := by
      have parts : subject = opened ++ ((inside ++ front) ++ c :: rest) := by simp [split, same]
      rw [inner, start, parts]
      exact Text.sliceOfParts opened (inside ++ front) (c :: rest)
    simp only [State.leave, State.passed, solid, last, Nat.sub_self, if_true, Bool.false_eq_true, if_false]
    exact ⟨trivial, by simp [values, text], behind, fun deep => absurd deep (Nat.lt_irrefl 0), ordered⟩
  · have deeper : s.depth - 1 ≠ 0 := by omega
    simp only [State.leave, State.passed, solid, last, deeper, Bool.false_eq_true, if_false]
    exact ⟨trivial, by simp [values], behind, fun _ => ⟨opened, by simp [same], inner⟩, tracks.ordered⟩

end Tracks
end State

/-- How the loop ends, by the depth that the reference comes to, unless a search exceeds its limit. -/
inductive Ends (m : Signs) (subject : Text) (verdict : Option Nat) (values : List Text) :
    Except Failure Unit × State → Prop where
  | limit {s : State} (escapes : m.escape.isSome) (ordered : s.Ordered) :
      Ends m subject verdict values (.error .backtrackLimit, s)
  | balanced {s : State} (level : verdict = some 0) (same : s.values subject = values) (ordered : s.Ordered) :
      Ends m subject verdict values (.ok (), s)
  | unbalanced {s : State} (uneven : verdict ≠ some 0) (ordered : s.Ordered) :
      Ends m subject verdict values (.error .unbalancedDelimiter, s)

theorem Ends.ordered {m : Signs} {subject : Text} {verdict : Option Nat} {values : List Text}
    {ended : Except Failure Unit × State} (ends : Ends m subject verdict values ended) : ended.2.Ordered := by
  cases ends <;> assumption

theorem scanRound (subject : Text) (mode : Mode) (search : Searches) (fuel : Nat) (s : State) :
    scan subject mode search (fuel + 1) s =
      match search.next s.position with
      | .error e => (.error e, s)
      | .ok found =>
        match s.meet subject mode found with
        | (.done, s) => (.ok (), s)
        | (.unbalanced, s) => (.error .unbalancedDelimiter, s)
        | (.goOn, s) => scan subject mode search fuel s := rfl

section
variable {search : Searches} {subject : Text} {fuel : Nat} {s : State} {span : Span}

theorem meetLeft (s : State) (subject : Text) (mode : Mode) (span : Span) :
    s.meet subject mode (some (.left, span)) =
      if mode.sticky && s.depth = 0 && s.lastEnd < span.start then (.done, s)
      else (.goOn, (s.enter span).passed subject span) := rfl

theorem meetRight (deep : s.depth ≠ 0) (subject : Text) (mode : Mode) (span : Span) :
    s.meet subject mode (some (.right, span)) =
      if (s.leave span).depth = 0 && !mode.global then (.done, s.leave span)
      else (.goOn, (s.leave span).passed subject span) := by
  simp [State.meet, deep]

theorem roundEnters (found : search.next s.position = .ok (some (.left, span))) :
    scan subject ⟨true, false⟩ search (fuel + 1) s =
      scan subject ⟨true, false⟩ search fuel ((s.enter span).passed subject span) := by
  rw [scanRound, found]
  rfl

theorem roundLeaves (found : search.next s.position = .ok (some (.right, span))) (deep : s.depth ≠ 0) :
    scan subject ⟨true, false⟩ search (fuel + 1) s =
      scan subject ⟨true, false⟩ search fuel ((s.leave span).passed subject span) := by
  rw [scanRound, found]
  simp only [meetRight deep, Bool.not_true, Bool.and_false, Bool.false_eq_true, if_false]

theorem roundUnopened (found : search.next s.position = .ok (some (.right, span))) (flat : s.depth = 0) :
    scan subject ⟨true, false⟩ search (fuel + 1) s = (.error .unbalancedDelimiter, s) := by
  rw [scanRound, found]
  simp [State.meet, flat]

theorem roundEnds (found : search.next s.position = .ok none) :
    scan subject ⟨true, false⟩ search (fuel + 1) s =
      (if s.depth = 0 then .ok () else .error .unbalancedDelimiter, s) := by
  rw [scanRound, found]
  by_cases flat : s.depth = 0 <;> simp [State.meet, flat]

end

theorem cutInsidesOk {subject : Text} {ps : List Pair} : cutInsides subject ps = .ok () ↔ ∀ p ∈ ps, p.inner ≤ p.right.start := by
  induction ps with
  | nil => simp [cutInsides]
  | cons p more ih =>
    rw [List.forall_mem_cons, ← ih, cutInsides]
    by_cases ordered : p.inner ≤ p.right.start
    · simp [Text.betweenOrdered ordered, ordered, bind, Except.bind]
    · simp [Text.betweenReversed (Nat.lt_of_not_le ordered), ordered, bind, Except.bind]

theorem answerOrdered {subject : Text} {ended : Except Failure Unit × State} (labels : Option PartLabels) (mode : Mode)
    (ordered : showsInside labels → ended.2.Ordered) :
    answer subject labels mode ended = ended.1.map fun _ => report subject labels mode ended.2.pairs.reverse := by
  have cut (shows : showsInside labels) : cutInsides subject ended.2.pairs.reverse = .ok () :=
    cutInsidesOk.mpr fun p mem => ordered shows p (List.mem_reverse.mp mem)
  obtain ⟨result, s⟩ := ended
  unfold answer
  cases shows : showsInside labels with
  | false => cases result <;> rfl
  | true =>
    simp only [cut shows]
    cases result <;> rfl

theorem answerOf {subject : Text} {labels : Option PartLabels} {mode : Mode} {ended : Except Failure Unit × State} {pairs : List Pair}
    (ends : ended.1 = .ok ()) (found : ended.2.pairs.reverse = pairs)
    (ordered : showsInside labels → ∀ p ∈ pairs, p.inner ≤ p.right.start) :
    answer subject labels mode ended = .ok (report subject labels mode pairs) := by
  rw [answerOrdered labels mode fun shows p mem => ordered shows p (found ▸ List.mem_reverse.mpr mem), ends, found]
  rfl

theorem escapeBuiltOf {left right : Pattern} {l r : Char} (e : Char) {flags : FlagSet}
    (leftText : left.native = escapeChar l)
    (rightText : right.native = escapeChar r) (plain : flags.inter .native = .empty) :
    escapePattern [e] left right flags = .ok (.ofRun l r e) := by
  have refersNot := spellingRefersNot (spelled r) ((escapeChar r).length + 1)
  have sign : escape [e] = escapeChar e := by simp [escape]
  have opened : ∀ t, FlagSet.openNative .empty t = t := fun _ => rfl
  have built := Engine.Program.buildRun (spelled l) (spelled r) (spelled e)
  simp only [escapePattern, List.length_singleton, Nat.lt_irrefl, if_false, leftText, rightText, refersNot,
    sign, plain, Pattern.ofNative, Pattern.assemble, opened, built, Bool.false_eq_true]
  rfl

theorem escapeBuilt (l r e : Char) :
    escapePattern [e] (.ofCharacter l (.single .global)) (.ofCharacter r (.single .global)) (.single .global) =
      .ok (.ofRun l r e) :=
  escapeBuiltOf e rfl rfl rfl

end Balanced
end ExtendedPattern
