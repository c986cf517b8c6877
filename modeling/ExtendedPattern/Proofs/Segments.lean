import ExtendedPattern.Proofs.Arrivals
import ExtendedPattern.Proofs.Slots

/-! The segments of a compilation with the rules of the library. Each is a token of the first rule that sees
one where it starts; where no rule does, a native token or a lone character is copied. What a token starts
with tells the rule. -/
namespace ExtendedPattern
open Text (size)

namespace BuiltinRules
variable {t : Text} {groups : Groups}

theorem closedTokenParts {close : Char} {opener : Nat} (seen : closedToken close opener t = some groups) :
    ∃ inner rest, t = inner ++ close :: rest ∧ groups = token (opener + size inner + 1) := by
  have closed : close ∈ t := by
    rw [← closesBehind]
    by_contra open_
    rw [closedToken, if_neg open_] at seen
    cases seen
  obtain ⟨inner, rest, rfl, open_⟩ := List.eq_append_cons_of_mem closed
  rw [closedAt opener open_] at seen
  exact ⟨inner, rest, rfl, (Option.some.inj seen).symm⟩

theorem blankPlace (inComment : Bool) (t : Text) : t.IsPlace (blankSize inComment t) := by
  have next {c : Char} {rest : Text} {n : Nat} (place : rest.IsPlace n) : Text.IsPlace (c :: rest) (c.utf8Size + n) :=
    Text.placeAhead [c] place
  induction t generalizing inComment with
  | nil => exact Text.placeAtStart []
  | cons c rest ih =>
    rw [blankSize]
    split
    · split
      · exact next (ih false)
      · exact next (ih true)
    split
    · exact next (ih false)
    split
    · exact next (ih true)
    · exact Text.placeAtStart _

theorem blankParts (seen : blank t = some groups) :
    ∃ front rest, t = front ++ rest ∧ (∃ c ∈ front.head?, Unicode.isSpace c ∨ c = '#') ∧ groups = token (size front) := by
  unfold blank at seen
  dsimp only at seen
  split at seen
  · cases seen
  rename_i present
  obtain ⟨front, rest, rfl, length⟩ := blankPlace false t
  rw [← length] at present seen
  refine ⟨front, rest, rfl, ?_, (Option.some.inj seen).symm⟩
  cases front with
  | nil => contradiction
  | cons c front =>
    refine ⟨c, rfl, ?_⟩
    by_contra solid
    rw [not_or] at solid
    rw [List.cons_append, blankSize, if_neg Bool.false_ne_true, if_neg solid.1, if_neg solid.2] at length
    exact present length

end BuiltinRules

theorem behindMarkParts {mark t : Text} {see : Text → Option Groups} {groups : Groups}
    (seen : BuiltinRules.behindMark mark see t = some groups) : ∃ rest, t = mark ++ rest ∧ see rest = some groups := by
  unfold BuiltinRules.behindMark at seen
  split at seen
  · rename_i starts
    obtain ⟨rest, rfl⟩ := starts
    rw [List.drop_left] at seen
    exact ⟨rest, rfl, seen⟩
  · cases seen

namespace UnicodeNames
variable {t : Text} {groups : Groups}

theorem nameParts (seen : nameBehind t = some groups) :
    ∃ inner rest, t = inner ++ '}' :: rest ∧ groups.head? = some (some ⟨0, 3 + size inner + 1⟩) := by
  obtain ⟨caret, named, rfl, mark⟩ : ∃ caret named, t = caret ++ named ∧ (caret = ['^'] ∨ caret = [] ∧ named.head? ≠ some '^') := by
    by_cases negated : t.head? = some '^'
    · obtain ⟨named, rfl⟩ := List.head?_eq_some_iff.mp negated
      exact ⟨['^'], named, rfl, .inl rfl⟩
    · exact ⟨[], t, rfl, .inr ⟨rfl, negated⟩⟩
  rw [nameOf mark] at seen
  split at seen
  · rename_i closed
    obtain ⟨name, rest, rfl, open_⟩ := List.eq_append_cons_of_mem closed
    have run : (name ++ '}' :: rest).takeWhile (· != '}') = name :=
      Text.takeWhileEnds (fun d mem => by simpa using ne_of_mem_of_not_mem mem open_) rfl
    rw [run] at seen
    cases seen
    exact ⟨caret ++ name, rest, (List.append_assoc ..).symm, by rw [Text.sizeAppend, ← Nat.add_assoc]; rfl⟩
  · cases seen

theorem tokenParts (seen : token t = some groups) :
    ∃ front rest, t = front ++ rest ∧ groups.head? = some (some ⟨0, size front⟩) ∧
      (['\\', 'p'] <+: front ∨ ['\\', 'P'] <+: front) := by
  have parts (letter : Char) (ascii : letter.utf8Size = 1) {rest : Text} (named : nameBehind rest = some groups) :
      ∃ front behind, ['\\', letter] ++ ['{'] ++ rest = front ++ behind ∧ groups.head? = some (some ⟨0, size front⟩) ∧
        ['\\', letter] <+: front := by
    obtain ⟨inner, behind, rfl, whole⟩ := nameParts named
    refine ⟨['\\', letter] ++ (['{'] ++ (inner ++ ['}'])), behind, by simp, ?_, List.prefix_append ..⟩
    have signs : '\\'.utf8Size = 1 ∧ '{'.utf8Size = 1 ∧ '}'.utf8Size = 1 := ⟨rfl, rfl, rfl⟩
    rw [whole]
    simp only [List.cons_append, List.nil_append, size, Text.sizeAppend, signs, ascii]
    congr 3
    omega
  rw [tokenMarked] at seen
  rcases Option.or_eq_some_iff.mp seen with lower | ⟨_, upper⟩
  · obtain ⟨rest, rfl, named⟩ := behindMarkParts lower
    obtain ⟨front, behind, split, whole, starts⟩ := parts 'p' rfl named
    exact ⟨front, behind, split, whole, .inl starts⟩
  · obtain ⟨rest, rfl, named⟩ := behindMarkParts upper
    obtain ⟨front, behind, split, whole, starts⟩ := parts 'P' rfl named
    exact ⟨front, behind, split, whole, .inr starts⟩

end UnicodeNames

namespace LocalRule
open BuiltinRules

inductive Starts : Text → TokenRule → Prop where
  | plainOpener : Starts ['('] plainOpenerRule
  | namedOpener {front : Text} (starts : ['(', '?', '<'] <+: front) : Starts front namedOpenerRule
  | dot : Starts ['.'] dotRule
  | blank {front : Text} (starts : ∃ c ∈ front.head?, Unicode.isSpace c ∨ c = '#') : Starts front blankRule
  | reference {front : Text} (starts : ['\\', 'k', '<'] <+: front) : Starts front referenceRule
  | leadingModes {front : Text} (letter : Char) (mode : isModeLetter letter) (starts : ['(', '?', letter] <+: front) :
      Starts front leadingModesRule
  | comment {front : Text} (starts : ['(', '?', '#'] <+: front) : Starts front commentRule
  | emptyClass {front : Text} (starts : ['['] <+: front) : Starts front emptyClassRule
  | placeholder {front : Text} (starts : ['\\', 'p'] <+: front ∨ ['\\', 'P'] <+: front) : Starts front unicodePlaceholder
  | names {front : Text} (names : UnicodeNames) (starts : ['\\', 'p'] <+: front ∨ ['\\', 'P'] <+: front) : Starts front names.rule

def Fronts (rule : TokenRule) (groups : Groups) (t : Text) : Prop :=
  ∃ front rest, t = front ++ rest ∧ groups.head? = some (some ⟨0, size front⟩) ∧ Starts front rule

theorem enclosedFront (mark inner : Text) {close : Char} (ascii : close.utf8Size = 1) (groups : List Span) :
    (BuiltinRules.token (size mark + size inner + 1) groups).head? = some (some ⟨0, size (mark ++ (inner ++ [close]))⟩) := by
  have single : size [close] = 1 := ascii
  rw [Text.sizeAppend, Text.sizeAppend, single, ← Nat.add_assoc]
  rfl

theorem builtinsFront (offset : Nat) (t : Text) :
    ∀ l ∈ builtins, ∀ groups, l.recognize offset t = some groups → Fronts l.rule groups t := by
  simp only [builtins, List.forall_mem_cons]
  refine ⟨fun groups seen => ?_, fun groups seen => ?_, fun groups seen => ?_, fun groups seen => ?_, fun groups seen => ?_,
    fun groups seen => ?_, fun groups seen => ?_, fun groups seen => ?_, fun groups seen => ?_, by simp⟩ <;>
    dsimp only [plainGroup, always, underFlag] at seen ⊢
  · unfold plainOpener at seen
    split at seen <;> cases seen
    exact ⟨['('], _, rfl, rfl, .plainOpener⟩
  · unfold namedOpener at seen
    split at seen <;> try contradiction
    obtain ⟨n, more, rfl, rfl⟩ := nameTokenParts seen
    exact ⟨['(', '?', '<'] ++ (n.name ++ ['>']), more, by simp, enclosedFront ['(', '?', '<'] n.name rfl _,
      .namedOpener (List.prefix_append ..)⟩
  · unfold dot at seen
    split at seen <;> cases seen
    exact ⟨['.'], _, rfl, rfl, .dot⟩
  · obtain ⟨front, rest, rfl, starts, rfl⟩ := blankParts seen
    exact ⟨front, rest, rfl, rfl, .blank starts⟩
  · unfold reference at seen
    split at seen <;> try contradiction
    obtain ⟨n, more, rfl, rfl⟩ := nameTokenParts seen
    exact ⟨['\\', 'k', '<'] ++ (n.name ++ ['>']), more, by simp, enclosedFront ['\\', 'k', '<'] n.name rfl _,
      .reference (List.prefix_append ..)⟩
  · obtain ⟨_, letters, rest, present, modes, rfl, rfl⟩ := leadingModesParts seen
    obtain ⟨letter, letters, rfl⟩ := List.exists_cons_of_ne_nil present
    have ascii : size (letter :: letters) = (letter :: letters).length := Text.sizeOfAscii fun c mem => modeLetterSize (modes c mem)
    have whole := enclosedFront ['(', '?'] (letter :: letters) (rfl : ')'.utf8Size = 1) [⟨2, 2 + (letter :: letters).length⟩]
    have length : size ['(', '?'] + size (letter :: letters) + 1 = (letter :: letters).length + 3 := by
      have opening : size ['(', '?'] = 2 := rfl
      rw [ascii, opening]
      omega
    rw [length] at whole
    exact ⟨['(', '?'] ++ ((letter :: letters) ++ [')']), rest, by simp, whole,
      .leadingModes letter (modes letter List.mem_cons_self) ⟨letters ++ [')'], rfl⟩⟩
  · unfold comment at seen
    split at seen <;> try contradiction
    obtain ⟨inner, rest, rfl, rfl⟩ := closedTokenParts seen
    exact ⟨['(', '?', '#'] ++ (inner ++ [')']), rest, by simp, enclosedFront ['(', '?', '#'] inner rfl _,
      .comment (List.prefix_append ..)⟩
  · unfold emptyClass at seen
    split at seen <;> cases seen
    · exact ⟨['[', ']'], _, rfl, rfl, .emptyClass ⟨_, rfl⟩⟩
    · exact ⟨['[', '^', ']'], _, rfl, rfl, .emptyClass ⟨_, rfl⟩⟩
  · unfold unicodeToken at seen
    split at seen <;> try contradiction
    · obtain ⟨inner, rest, rfl, rfl⟩ := closedTokenParts seen
      exact ⟨['\\', 'p', '{'] ++ (inner ++ ['}']), rest, by simp, enclosedFront ['\\', 'p', '{'] inner rfl _,
        .placeholder (.inl ⟨_, rfl⟩)⟩
    · obtain ⟨inner, rest, rfl, rfl⟩ := closedTokenParts seen
      exact ⟨['\\', 'P', '{'] ++ (inner ++ ['}']), rest, by simp, enclosedFront ['\\', 'P', '{'] inner rfl _,
        .placeholder (.inr ⟨_, rfl⟩)⟩

theorem Bundled.fronts {l : LocalRule} (bundled : l.Bundled) {offset : Nat} {t : Text} {groups : Groups}
    (seen : l.recognize offset t = some groups) : Fronts l.rule groups t := by
  cases bundled with
  | unicode names =>
    obtain ⟨front, rest, split, whole, starts⟩ := UnicodeNames.tokenParts seen
    exact ⟨front, rest, split, whole, .names names starts⟩
  | builtin mem => exact builtinsFront offset t l mem groups seen

theorem Starts.head {front : Text} {rule : TokenRule} (starts : Starts front rule) :
    ∃ c ∈ front.head?, c ∈ ['(', '.', '#', '\\', '['] ∨ Unicode.isSpace c := by
  have first {c : Char} {more : Text} (starts : c :: more <+: front) : c ∈ front.head? := by
    obtain ⟨rest, rfl⟩ := starts
    rfl
  cases starts with
  | plainOpener => exact ⟨'(', rfl, .inl (by decide)⟩
  | namedOpener starts => exact ⟨'(', first starts, .inl (by decide)⟩
  | dot => exact ⟨'.', rfl, .inl (by decide)⟩
  | blank starts =>
    obtain ⟨c, head, space | rfl⟩ := starts
    · exact ⟨c, head, .inr space⟩
    · exact ⟨'#', head, .inl (by decide)⟩
  | reference starts => exact ⟨'\\', first starts, .inl (by decide)⟩
  | leadingModes letter mode starts => exact ⟨'(', first starts, .inl (by decide)⟩
  | comment starts => exact ⟨'(', first starts, .inl (by decide)⟩
  | emptyClass starts => exact ⟨'[', first starts, .inl (by decide)⟩
  | placeholder starts => exact ⟨'\\', starts.elim first first, .inl (by decide)⟩
  | names names starts => exact ⟨'\\', starts.elim first first, .inl (by decide)⟩

theorem takesPartWithin (l : LocalRule) {region : Region} {context : Context} (part : l.takesPart region context) :
    l.rule.regions.has region := by
  have applies := l.applies region context {}
  unfold TokenRule.applies at applies
  split at applies
  · assumption
  · rw [part] at applies
    cases applies

end LocalRule

namespace Uncached
open Scanning (Stage)

inductive Made (locals : List LocalRule) (before front rest : Text) (a : Stage) : Segment → Stage → Prop where
  | token (unseen : LocalRule.first? locals a.region a.context (size before) (front ++ rest) = none)
      (known : NativeToken.length? a.region (front ++ rest) = some (size front)) :
      Made locals before front rest a ⟨front, front, false⟩ a
  | character (c : Char) (lone : front = [c])
      (unseen : LocalRule.first? locals a.region a.context (size before) (front ++ rest) = none)
      (unknown : NativeToken.length? a.region (front ++ rest) = none) :
      Made locals before front rest a ⟨front, front, false⟩ ⟨Rewrite.regionAfter a.region c, a.context⟩
  | fired (l : LocalRule) (groups : Groups) (wrote : Text × Context) (s : Session)
      (first : LocalRule.first? locals a.region a.context (size before) (front ++ rest) = some (l, groups))
      (whole : groups.head? = some (some ⟨0, size front⟩)) (starts : LocalRule.Starts front l.rule)
      (gave : (l.rule.handle (LocalRule.token (before ++ (front ++ rest)) (size before) groups) a.region a.context s).1 = .ok wrote) :
      Made locals before front rest a ⟨front, wrote.1, true⟩ ⟨a.region, wrote.2⟩

inductive Segmented (locals : List LocalRule) : Text → Text → Stage → List Segment → Stage → Prop where
  | done (before : Text) (a : Stage) : Segmented locals before [] a [] a
  | goesOn {before front rest : Text} {a b c : Stage} {g : Segment} {more : List Segment} (present : front ≠ [])
      (made : Made locals before front rest a g b) (others : Segmented locals (before ++ front) rest b more c) :
      Segmented locals before (front ++ rest) a (g :: more) c

variable {locals : List LocalRule} {before rest : Text} {a b c : Stage} {segments : List Segment}

theorem Made.source {front : Text} {g : Segment} (made : Made locals before front rest a g b) : g.source = front := by
  cases made <;> rfl

theorem Segmented.sources (segmented : Segmented locals before rest a segments b) : segments.flatMap Segment.source = rest := by
  induction segmented with
  | done => rfl
  | goesOn present made others ih => rw [List.flatMap_cons, ih, made.source]

theorem Segmented.next {g : Segment} (segmented : Segmented locals before rest a (g :: segments) c) :
    ∃ b, Made locals before g.source (segments.flatMap Segment.source) a g b ∧
      Segmented locals (before ++ g.source) (segments.flatMap Segment.source) b segments c := by
  cases segmented with
  | goesOn present made others =>
    rw [made.source, others.sources]
    exact ⟨_, made, others⟩

theorem Segmented.behind {front : List Segment} (segmented : Segmented locals before rest a (front ++ segments) c) :
    ∃ b, Segmented locals (before ++ front.flatMap Segment.source) (segments.flatMap Segment.source) b segments c := by
  induction front generalizing before rest a with
  | nil =>
    rw [List.nil_append] at segmented
    rw [segmented.sources, List.flatMap_nil, List.append_nil]
    exact ⟨a, segmented⟩
  | cons g front ih =>
    cases segmented with
    | goesOn present made others =>
      obtain ⟨b, behind⟩ := ih others
      rw [List.flatMap_cons, made.source, ← List.append_assoc]
      exact ⟨b, behind⟩

def Progress.stage (p : Progress) : Stage := ⟨p.region, p.context⟩

theorem stepMakes (known : ∀ l ∈ locals, l.Bundled) {d : Char} {tail : Text} {p q : Progress} {s : Session} {next : Nat}
    (stepped : (step (locals.map LocalRule.rule) (before ++ d :: tail) d tail (size before) p s).1 = .ok (q, next)) :
    ∃ front rest g, tail = front ++ rest ∧ next = size (before ++ d :: front) ∧ q.segments = g :: p.segments ∧
      Made locals before (d :: front) rest p.stage g q.stage := by
  have calm := stepCalm stepped
  cases first : LocalRule.first? locals p.region p.context (size before) (d :: tail) with
  | none =>
    rw [stepCopies calm first] at stepped
    cases length : NativeToken.length? p.region (d :: tail) with
    | none =>
      rw [length] at stepped
      cases stepped
      refine ⟨[], tail, _, rfl, by simp [Text.sizeAppend, size], rfl, ?_⟩
      rw [Text.takeBytesHead]
      exact .character d rfl first length
    | some n =>
      rw [length] at stepped
      cases stepped
      obtain ⟨front, rest, rfl, rfl⟩ := NativeToken.lengthTakes length
      refine ⟨front, rest, _, rfl, (Text.sizeAppend ..).symm, rfl, ?_⟩
      rw [Text.takeBytesFront]
      exact .token first length
  | some found =>
    obtain ⟨l, groups⟩ := found
    obtain ⟨mem, _, seen⟩ := LocalRule.firstParts first
    obtain ⟨token, rest, parts, whole, starts⟩ := (known l mem).fronts seen
    obtain ⟨u, fires⟩ := stepFires (s := s) calm first whole
    rw [fires] at stepped
    cases token with
    | nil =>
      obtain ⟨_, head, _⟩ := starts.head
      cases head
    | cons e front =>
      rw [List.cons_append] at parts
      cases parts
      have positive := d.utf8Size_pos
      have ahead : 0 < size (d :: front) := by simp only [size]; omega
      obtain ⟨wrote, gave, same⟩ := mapOk stepped
      simp only [if_pos ahead, Text.takeBytesFront] at same
      cases same
      exact ⟨front, rest, _, rfl, (Text.sizeAppend ..).symm, rfl, .fired l groups wrote u first whole starts gave⟩

theorem scanSegments (known : ∀ l ∈ locals, l.Bundled) {before rest : Text} {p q : Progress} {s : Session}
    (scanned : (scan (locals.map LocalRule.rule) (before ++ rest) rest (size before) (size before) p s).1 = .ok q) :
    ∃ segments, q.segments = segments.reverse ++ p.segments ∧ Segmented locals before rest p.stage segments q.stage := by
  -- A segment may take several characters of the pattern, so the induction is on how much of it is left.
  induction more : rest.length using Nat.strong_induction_on generalizing before rest p s with
  | h k ih =>
    cases rest with
    | nil =>
      cases scanned
      exact ⟨[], rfl, .done before _⟩
    | cons d tail =>
      rw [scan, if_neg (Nat.lt_irrefl _)] at scanned
      cases stepped : step (locals.map LocalRule.rule) (before ++ d :: tail) d tail (size before) p s with
      | mk result t =>
        rw [stepped] at scanned
        cases result with
        | error e => cases scanned
        | ok advanced =>
          obtain ⟨p', next⟩ := advanced
          obtain ⟨front, rest, g, rfl, rfl, first, made⟩ := stepMakes known (congrArg Prod.fst stepped)
          have joined : before ++ d :: (front ++ rest) = (before ++ d :: front) ++ rest := by simp
          have behind : size (before ++ d :: front) = size before + d.utf8Size + size front := by
            rw [Text.sizeAppend, size, Nat.add_assoc]
          dsimp only at scanned
          rw [joined, behind, Scanning.scanSkips, ← behind] at scanned
          simp only [List.length_cons, List.length_append] at more
          obtain ⟨segments, others, segmented⟩ := ih rest.length (by omega) scanned rfl
          exact ⟨g :: segments, by simp [others, first], .goesOn (List.cons_ne_nil d front) made segmented⟩

end Uncached

theorem compileSegments {r : Registry} {locals : List LocalRule} (bundled : r.Bundled locals) {pattern : Text} {flags : FlagSet}
    {s t : Session} {done : Compilation} (compiled : compile pattern flags r s = (.ok done, t)) :
    ∃ region, Uncached.Segmented locals [] pattern ⟨.outside, .start flags⟩ done.segments ⟨region, done.context⟩ := by
  rw [compilesLocally bundled.rules, Uncached.rewrite] at compiled
  split at compiled
  · cases compiled
  · split at compiled
    · cases compiled
    · rename_i p _ scanned
      cases compiled
      obtain ⟨segments, same, segmented⟩ := @Uncached.scanSegments locals bundled.known [] pattern _ p s (congrArg Prod.fst scanned)
      have parts : p.segments.reverse = segments := by simp [same]
      exact ⟨p.region, parts ▸ segmented⟩

end ExtendedPattern
