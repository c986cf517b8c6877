import ExtendedPattern.Proofs.Arrivals
import ExtendedPattern.Proofs.Slots
import ExtendedPattern.Proofs.Spelling
import Mathlib

/-! Syntax that vanishes between a character and its quantifier. Each comment, and each stretch of blanks,
decides by the text right behind it whether to leave an empty group. In front of a quantifier that is
known only the last one leaves none. -/
namespace ExtendedPattern
open Text (size Apart)
open Uncached (Arrives)

inductive Vanishing where
  | comment (words : Text) (open_ : ∀ c ∈ words, (c != ')') = true)
  | space (c : Char) (space : Unicode.isSpace c)
  | lineComment (words : Text) (line : ∀ c ∈ words, (c != '\n') = true)

namespace Vanishing

instance : Spelled Vanishing where
  text
    | comment words _ => ['(', '?', '#'] ++ (words ++ [')'])
    | space c _ => [c]
    | lineComment words _ => '#' :: (words ++ ['\n'])

def isBlank : Vanishing → Bool
  | comment _ _ => false
  | space _ _ => true
  | lineComment _ _ => true

def startsBlank (run : List Vanishing) : Bool := (run.head?.map isBlank).getD false

def tokens : List Vanishing → Nat
  | [] => 0
  | item :: run => if item.isBlank && startsBlank run then tokens run else tokens run + 1

/-- What is left of a run: an empty group for each token, but none for the last one if the text behind
is taken for a quantifier. -/
def fences (run : List Vanishing) (quantified : Bool) : Text :=
  (List.replicate (tokens run - (if quantified then 1 else 0)) "(?:)".toList).flatten

end Vanishing

inductive Repetition where
  | known (q : Quantifier)
  | upTo (most : Numeral) (reluctant : Bool)

namespace Repetition

instance : Spelled Repetition where
  text
    | known q => text q
    | upTo most reluctant => ['{', ','] ++ most.digits ++ ['}'] ++ NativeToken.reluctance reluctant

def isKnown : Repetition → Bool
  | known _ => true
  | upTo _ _ => false

end Repetition

namespace Unicode

theorem spaceOther {c : Char} (space : isSpace c) :
    BuiltinRules.isNameChar c = false ∧ c ∉ Text.deciding ∧ c ∉ operators ∧ c ≠ '#' := by
  have all : (spaces.all fun c => !BuiltinRules.isNameChar c && !(Text.deciding ++ operators ++ ['#']).contains c) = true := by
    decide
  have other := List.all_eq_true.mp all c (spaceListed space)
  simpa [and_assoc] using other

end Unicode

namespace Vanishing
open BuiltinRules
variable {run blanks : List Vanishing} {item : Vanishing} {rest : Text}

inductive Starts : Text → Prop where
  | intro {c : Char} {tail : Text} (start : c = '(' ∨ c = '#' ∨ Unicode.isSpace c) : Starts (c :: tail)

theorem textStarts (item : Vanishing) (rest : Text) : Starts (text item ++ rest) := by
  cases item with
  | comment words _ => exact .intro (.inl rfl)
  | space c space => exact .intro (.inr (.inr space))
  | lineComment words _ => exact .intro (.inr (.inl rfl))

theorem runStarts (present : run ≠ []) (rest : Text) : Starts (run.flatMap text ++ rest) := by
  obtain ⟨item, more, rfl⟩ := List.exists_cons_of_ne_nil present
  rw [List.flatMap_cons, List.append_assoc]
  exact textStarts item _

theorem Starts.apart {t : Text} (starts : Starts t) : Apart t := by
  cases starts with
  | intro start =>
    rcases start with rfl | rfl | space
    · exact .intro (by decide) (by decide)
    · exact .intro (by decide) (by decide)
    · exact .intro (Unicode.spaceOther space).1 (Unicode.spaceOther space).2.1

theorem Starts.other {t : Text} (starts : Starts t) : ∀ e ∈ t.head?, e ∉ ['{', '<', '?', '*', '+'] := by
  cases starts with
  | intro start =>
    intro e head
    cases head
    rcases start with rfl | rfl | space
    · decide
    · decide
    · obtain ⟨_, undecided, plain, _⟩ := Unicode.spaceOther space
      simp only [operators, Text.deciding, List.mem_cons, List.not_mem_nil, or_false, not_or] at plain undecided
      simp [plain, undecided]

theorem Starts.noQuantifier {t : Text} (starts : Starts t) : NativeToken.startsWithQuantifier t = false := by
  have other := starts.other
  cases starts with
  | @intro c tail start =>
    have other := other c rfl
    simp only [List.mem_cons, List.not_mem_nil, or_false, not_or] at other
    simp [NativeToken.startsWithQuantifier, other]

theorem lineSize {words : Text} (line : ∀ c ∈ words, (c != '\n') = true) (rest : Text) :
    blankSize true (words ++ '\n' :: rest) = size words + 1 + blankSize false rest := by
  induction words with
  | nil =>
    have feed : '\n'.utf8Size = 1 := rfl
    simp [blankSize, size, feed]
  | cons c words ih =>
    obtain ⟨other, line⟩ := List.forall_mem_cons.mp line
    have other : c ≠ '\n' := by simpa using other
    simp only [List.cons_append, blankSize, if_true, if_neg other, ih line, size]
    omega

theorem blanksSize (all : ∀ b ∈ blanks, b.isBlank) (rest : Text) :
    blankSize false (blanks.flatMap text ++ rest) = size (blanks.flatMap text) + blankSize false rest := by
  induction blanks with
  | nil => simp [size]
  | cons b blanks ih =>
    obtain ⟨blank, all⟩ := List.forall_mem_cons.mp all
    have ih := ih all
    rw [List.flatMap_cons, List.append_assoc, Text.sizeAppend]
    generalize blanks.flatMap text = more at ih ⊢
    cases b with
    | comment words _ => cases blank
    | space c space =>
      simp only [text, List.cons_append, List.nil_append, blankSize, space, if_true, Bool.false_eq_true, if_false, size, ih]
      omega
    | lineComment words line =>
      have solid : Unicode.isSpace '#' = false := by decide
      have sign : '#'.utf8Size = 1 := rfl
      have feed : '\n'.utf8Size = 1 := rfl
      simp only [text, List.cons_append, List.append_assoc, List.nil_append, blankSize, solid, if_true, Bool.false_eq_true,
        if_false, size, Text.sizeAppend, sign, feed, lineSize line, ih]
      omega

theorem firstBlank {r : Registry} {locals : List LocalRule} (standard : r.Standard locals) {context : Context} {offset : Nat}
    (on : context.has .extended) {c : Char} (other : c ∉ ['(', '.', '\\']) {groups : Groups}
    (seen : blank (c :: rest) = some groups) :
    ∃ l, LocalRule.first? locals .outside context offset (c :: rest) = some (l, groups) ∧ l.rule = blankRule := by
  simp only [List.mem_cons, List.not_mem_nil, or_false, not_or] at other
  obtain ⟨paren, point, backslash⟩ := other
  rw [LocalRule.firstBuiltin standard _ _ _ (UnicodeNames.tokenElsewhere backslash)]
  have part : (blankRule.regions.has .outside && context.has .extended) = true := on
  exact ⟨_, (LocalRule.firstLater (plainOpenerElsewhere paren)).trans ((LocalRule.firstLater (namedOpenerElsewhere paren)).trans
    ((LocalRule.firstLater (dotElsewhere point)).trans (LocalRule.firstHere part seen))), rfl⟩

theorem blankHead (blank : item.isBlank) : ∃ c tail, text item = c :: tail ∧ c ∉ ['(', '.', '\\'] := by
  cases item with
  | comment words _ => cases blank
  | space c space =>
    refine ⟨c, [], rfl, ?_⟩
    obtain ⟨_, _, plain, _⟩ := Unicode.spaceOther space
    simp only [operators, List.mem_cons, List.not_mem_nil, or_false, not_or] at plain
    simp [plain]
  | lineComment words _ => exact ⟨'#', _, rfl, by decide⟩

def fence (quantified : Bool) : Text := if quantified then [] else "(?:)".toList

theorem tokensPresent (present : run ≠ []) : 0 < tokens run := by
  induction run with
  | nil => contradiction
  | cons item run ih =>
    rw [tokens]
    split
    · refine ih ?_
      rintro rfl
      simp_all [startsBlank]
    · omega

theorem tokensBehindBlanks (all : ∀ b ∈ blanks, b.isBlank) (present : blanks ≠ []) (settled : startsBlank run = false) :
    tokens (blanks ++ run) = tokens run + 1 := by
  induction blanks with
  | nil => contradiction
  | cons b blanks ih =>
    obtain ⟨blank, all⟩ := List.forall_mem_cons.mp all
    rw [List.cons_append, tokens, blank, Bool.true_and]
    cases blanks with
    | nil => rw [List.nil_append, settled, if_neg Bool.false_ne_true]
    | cons b' blanks =>
      have next : startsBlank (b' :: blanks ++ run) = true := all b' List.mem_cons_self
      rw [next, if_pos rfl]
      exact ih all (List.cons_ne_nil b' blanks)

theorem fencesNone (quantified : Bool) : fences [] quantified = [] := by
  cases quantified <;> rfl

theorem fencesAlone (single : tokens run = 1) (quantified : Bool) : fences run quantified = fence quantified := by
  rw [fences, single]
  cases quantified <;> rfl

theorem fencesGone (present : run ≠ []) (quantified : Bool) : fences run quantified = [] ↔ tokens run = 1 ∧ quantified := by
  have positive := tokensPresent present
  have gone : fences run quantified = [] ↔ tokens run - (if quantified then 1 else 0) = 0 := by
    simp [fences]
  rw [gone]
  cases quantified <;> simp <;> omega

theorem fencesBefore {others : List Vanishing} (more : tokens run = tokens others + 1) (present : others ≠ []) (quantified : Bool) :
    fences run quantified = fence false ++ fences others quantified := by
  have positive := tokensPresent present
  have counts : tokens run - (if quantified then 1 else 0) = tokens others - (if quantified then 1 else 0) + 1 := by
    split <;> omega
  rw [fences, counts, List.replicate_succ, List.flatten_cons]
  rfl

end Vanishing

namespace Scanning
open Vanishing (fence fences tokens startsBlank)
variable {locals : List LocalRule} {r : Registry} {input before rest : Text} {context : Context} {run blanks : List Vanishing}

theorem ofBlanks (standard : r.Standard locals) (on : context.has .extended) (all : ∀ b ∈ blanks, b.isBlank)
    (present : blanks ≠ []) (ends : BuiltinRules.blankSize false rest = 0) :
    Writes locals input before (blanks.flatMap text) rest ⟨.outside, context⟩ ⟨.outside, context⟩
      (fence (NativeToken.startsWithQuantifier rest)) := by
  have whole := Vanishing.blanksSize all rest
  rw [ends, Nat.add_zero] at whole
  obtain ⟨c, tail, spelled, other⟩ : ∃ c tail, blanks.flatMap text = c :: tail ∧ c ∉ ['(', '.', '\\'] := by
    obtain ⟨b, more, rfl⟩ := List.exists_cons_of_ne_nil present
    obtain ⟨c, tail, spelled, other⟩ := Vanishing.blankHead (all b List.mem_cons_self)
    exact ⟨c, tail ++ more.flatMap text, by rw [List.flatMap_cons, spelled, List.cons_append], other⟩
  rw [spelled] at whole ⊢
  have seen : BuiltinRules.blank (c :: (tail ++ rest)) = some (BuiltinRules.token (size (c :: tail))) := by
    have positive := c.utf8Size_pos
    rw [BuiltinRules.blank, ← List.cons_append, whole]
    exact if_neg (by simp only [size]; omega)
  have token : (BuiltinRules.token (size (c :: tail))).head? = some (some ⟨0, size (c :: tail)⟩) := rfl
  refine ofRule exceeds BuiltinRules.blankRule _ (List.cons_ne_nil c tail) (Vanishing.firstBlank standard on other seen) token ?_
  intro split s
  have behind := (tokenReads split token).2
  dsimp only [BuiltinRules.blankRule, BuiltinRules.constantly, BuiltinRules.separator]
  rw [behind]
  rfl

theorem ofCommentBefore (standard : r.Standard locals) {item : Vanishing} (solid : item.isBlank = false)
    (others : Writes locals input (before ++ text item) (run.flatMap text) rest ⟨.outside, context⟩ ⟨.outside, context⟩
      (fences run (NativeToken.startsWithQuantifier rest))) :
    Writes locals input before ((item :: run).flatMap text) rest ⟨.outside, context⟩ ⟨.outside, context⟩
      (fences (item :: run) (NativeToken.startsWithQuantifier rest)) := by
  have one : tokens (item :: run) = tokens run + 1 := by
    rw [tokens, solid, Bool.false_and, if_neg Bool.false_ne_true]
  have first : Writes locals input before (text item) (run.flatMap text ++ rest) ⟨.outside, context⟩ ⟨.outside, context⟩
      (fence (NativeToken.startsWithQuantifier (run.flatMap text ++ rest))) := by
    cases item with
    | comment words open_ => exact ofComment standard open_
    | space c space => cases solid
    | lineComment words line => cases solid
  have both := andThen first others
  by_cases present : run = []
  · subst present
    rw [Vanishing.fencesAlone one]
    rwa [Vanishing.fencesNone, List.append_nil] at both
  · rw [Vanishing.fencesBefore one present]
    rwa [(Vanishing.runStarts present rest).noQuantifier] at both

theorem ofPending (standard : r.Standard locals) (all : ∀ b ∈ blanks, b.isBlank)
    (active : ∀ item ∈ blanks ++ run, item.isBlank → context.has .extended) (ends : BuiltinRules.blankSize false rest = 0) :
    Writes locals input before ((blanks ++ run).flatMap text) rest ⟨.outside, context⟩ ⟨.outside, context⟩
      (fences (blanks ++ run) (NativeToken.startsWithQuantifier rest)) := by
  induction run generalizing before blanks with
  | nil =>
    have one : blanks ≠ [] → tokens (blanks ++ []) = 1 := fun present => Vanishing.tokensBehindBlanks all present rfl
    rw [List.append_nil] at active one ⊢
    by_cases present : blanks = []
    · rw [present, Vanishing.fencesNone]
      exact nothing
    · obtain ⟨b, mem⟩ := List.exists_mem_of_ne_nil blanks present
      rw [Vanishing.fencesAlone (one present)]
      exact ofBlanks standard (active b mem (all b mem)) all present ends
  | cons item run ih =>
    obtain ⟨activeBlanks, activeRun⟩ := List.forall_mem_append.mp active
    cases blank : item.isBlank with
    | true =>
      have all : ∀ b ∈ blanks ++ [item], b.isBlank := List.forall_mem_append.mpr ⟨all, List.forall_mem_singleton.mpr blank⟩
      have moved : blanks ++ item :: run = blanks ++ [item] ++ run := by simp
      rw [moved] at active ⊢
      exact ih all active
    | false =>
      have comments (before : Text) : Writes locals input before ((item :: run).flatMap text) rest ⟨.outside, context⟩
          ⟨.outside, context⟩ (fences (item :: run) (NativeToken.startsWithQuantifier rest)) :=
        ofCommentBefore standard blank (ih (List.forall_mem_nil _) (List.forall_mem_cons.mp activeRun).2)
      by_cases present : blanks = []
      · rw [present]
        exact comments before
      · have starts := Vanishing.runStarts (List.cons_ne_nil item run) rest
        have more : tokens (blanks ++ item :: run) = tokens (item :: run) + 1 :=
          Vanishing.tokensBehindBlanks all present (by simp [startsBlank, blank])
        obtain ⟨b, mem⟩ := List.exists_mem_of_ne_nil blanks present
        have stops : BuiltinRules.blankSize false ((item :: run).flatMap text ++ rest) = 0 := by
          cases item with
          | comment words open_ => rfl
          | space c space => cases blank
          | lineComment words line => cases blank
        have first : Writes locals input before (blanks.flatMap text) ((item :: run).flatMap text ++ rest) ⟨.outside, context⟩
            ⟨.outside, context⟩ _ := ofBlanks standard (activeBlanks b mem (all b mem)) all present stops
        rw [starts.noQuantifier] at first
        rw [List.flatMap_append, Vanishing.fencesBefore more (List.cons_ne_nil item run)]
        exact andThen first (comments _)

theorem ofRun (standard : r.Standard locals) (active : ∀ item ∈ run, item.isBlank → context.has .extended)
    (ends : BuiltinRules.blankSize false rest = 0) :
    Writes locals input before (run.flatMap text) rest ⟨.outside, context⟩ ⟨.outside, context⟩
      (fences run (NativeToken.startsWithQuantifier rest)) :=
  @ofPending locals r input before rest context run [] standard (List.forall_mem_nil _) active ends

theorem ofPlain (standard : r.Standard locals) {c : Char} (plain : c ∉ operators)
    (solid : context.has .extended → Unicode.isSpace c = false ∧ c ≠ '#') :
    Writes locals input before [c] rest ⟨.outside, context⟩ ⟨.outside, context⟩ [c] := by
  simp only [operators, List.mem_cons, List.not_mem_nil, or_false, not_or] at plain
  obtain ⟨backslash, paren, _, bracket, _, brace, _, option, star, plus, _, _, _, point⟩ := plain
  have unread : LocalRule.Unread context (size before) (c :: rest) := {
    plainOpener := BuiltinRules.plainOpenerElsewhere paren
    namedOpener := BuiltinRules.namedOpenerElsewhere paren
    dot := fun _ => BuiltinRules.dotElsewhere point
    blank := fun on => BuiltinRules.blankElsewhere (solid on).1 (solid on).2
    reference := BuiltinRules.referenceElsewhere backslash
    leadingModes := BuiltinRules.leadingModesElsewhere paren _
    comment := BuiltinRules.commentElsewhere paren
    emptyClass := BuiltinRules.emptyClassElsewhere bracket
    unicodeToken := BuiltinRules.unicodeTokenElsewhere backslash
    unicodeName := UnicodeNames.tokenElsewhere backslash }
  refine ofUnread standard unread ?_ bracket
  simp [NativeToken.length?, backslash, paren, brace, option, star, plus]

end Scanning

namespace Repetition
variable (q : Repetition) (w : Text)

theorem textStarts : ∃ e tail, text q ++ w = e :: tail ∧ e ∈ ['*', '+', '?', '{'] := by
  cases q with
  | upTo most reluctant => exact ⟨'{', _, rfl, by decide⟩
  | known q =>
    obtain ⟨bounds, reluctant⟩ := q
    cases bounds with
    | star => exact ⟨'*', _, rfl, by decide⟩
    | plus => exact ⟨'+', _, rfl, by decide⟩
    | option => exact ⟨'?', _, rfl, by decide⟩
    | exactly n => exact ⟨'{', _, rfl, by decide⟩
    | atLeast n => exact ⟨'{', _, rfl, by decide⟩
    | between low high => exact ⟨'{', _, rfl, by decide⟩

theorem apart : Apart (text q ++ w) := by
  obtain ⟨e, tail, spelled, mark⟩ := q.textStarts w
  have marks : ∀ e ∈ ['*', '+', '?', '{'], BuiltinRules.isNameChar e = false ∧ e ∉ Text.deciding := by
    simp only [List.forall_mem_cons, List.not_mem_nil, false_implies, implies_true, and_true]
    decide
  rw [spelled]
  exact .intro (marks e mark).1 (marks e mark).2

theorem solid : BuiltinRules.blankSize false (text q ++ w) = 0 := by
  obtain ⟨e, tail, spelled, mark⟩ := q.textStarts w
  have marks : ∀ e ∈ ['*', '+', '?', '{'], Unicode.isSpace e = false ∧ e ≠ '#' := by
    simp only [List.forall_mem_cons, List.not_mem_nil, false_implies, implies_true, and_true]
    decide
  rw [spelled]
  simp [BuiltinRules.blankSize, marks e mark]

theorem countedStarts {body : Text} (counted : NativeToken.Counted body) (rest : Text) :
    NativeToken.startsWithQuantifier ('{' :: (body ++ rest)) = true := by
  simp [NativeToken.startsWithQuantifier, NativeToken.countedLength counted]

theorem starts : NativeToken.startsWithQuantifier (text q ++ w) = q.isKnown := by
  cases q with
  | upTo most reluctant => rfl
  | known q =>
    obtain ⟨bounds, reluctant⟩ := q
    have spelled : text (known ⟨bounds, reluctant⟩) ++ w = text bounds ++ (NativeToken.reluctance reluctant ++ w) :=
      List.append_assoc ..
    rw [spelled]
    cases bounds with
    | star => rfl
    | plus => rfl
    | option => rfl
    | exactly n => exact countedStarts (.exactly n) _
    | atLeast n => exact countedStarts (.atLeast n) _
    | between low high => exact countedStarts (.between low high) _

end Repetition

def Compilation.result (done : Compilation) : Text × Context := (done.native, done.context)

namespace Uncached
open Scanning (written)

def Progress.result (p : Progress) : Text × Context := (written p, p.context)

theorem endsAlike {p q : Progress} {result result' : Except Failure Progress} (ends : Pairing.same.Ends p q result result') :
    ∃ behind : Except Failure (Text × Context),
      result.map Progress.result = behind.map (fun b => (written p ++ b.1, b.2)) ∧
        result'.map Progress.result = behind.map fun b => (written q ++ b.1, b.2) := by
  cases ends with
  | fail e => exact ⟨.error e, rfl, rfl⟩
  | @done p' q' onward =>
    obtain ⟨region, context, a, b, segments, segments', paired⟩ := onward
    have context : p'.context = q'.context := context
    have same := Pairing.sameSegments paired
    refine ⟨.ok (a.reverse.flatMap Segment.fragment, p'.context), ?_, ?_⟩
    · simp [Except.map, Progress.result, written, segments]
    · simp [Except.map, Progress.result, written, segments', context, same]

theorem restAlike {locals : List LocalRule} (known : ∀ l ∈ locals, l.Bundled) {input input' before before' rest : Text}
    (split : input = before ++ rest) (split' : input' = before' ++ rest) (present : before ≠ []) (present' : before' ≠ [])
    {p q : Progress} (region : p.region = q.region) (context : p.context = q.context) (s u : Session) :
    ∃ behind : Except Failure (Text × Context),
      (scan (locals.map LocalRule.rule) input rest (size before) (size before) p s).1.map Progress.result =
        behind.map (fun b => (written p ++ b.1, b.2)) ∧
      (scan (locals.map LocalRule.rule) input' rest (size before') (size before') q u).1.map Progress.result =
        behind.map fun b => (written q ++ b.1, b.2) := by
  refine endsAlike (scansPair split split' ?_ region context ((Nat.sub_self _).trans (Nat.sub_self _).symm) s u)
  intro middle t _ _ l mem
  refine (known l mem).pairs (iff_of_false ?_ ?_) t
  · simp [Text.sizeZero, present]
  · simp [Text.sizeZero, present']

end Uncached

theorem Registry.Standard.compilesTo {r : Registry} {locals : List LocalRule} (standard : r.Standard locals) (pattern : Text)
    (flags : FlagSet) {s : Session} (idle : s.inRules = false) :
    (compile pattern flags r s).1.map Compilation.result =
      (Uncached.scan (locals.map LocalRule.rule) pattern pattern 0 0 { context := .start flags } s).1.map
        Uncached.Progress.result := by
  rw [standard.compiles, Uncached.rewrite, if_neg (by simp [idle])]
  generalize Uncached.scan _ pattern pattern 0 0 _ s = result
  obtain ⟨result, t⟩ := result
  cases result <;> rfl

section Run
variable {r : Registry} {locals : List LocalRule} {front w : Text} {c : Char} {v : List Vanishing} {q : Repetition}
  {flags : FlagSet} {p : Uncached.Progress}

theorem quantifiedAlike (standard : r.Standard locals)
    (arrives : Arrives (locals.map LocalRule.rule) (front ++ c :: (v.flatMap text ++ (text q ++ w))) flags front p)
    (outside : p.region = .outside) (plain : c ∉ operators)
    (solid : p.context.has .extended → Unicode.isSpace c = false ∧ c ≠ '#') (present : v ≠ [])
    (active : ∀ item ∈ v, item.isBlank → p.context.has .extended)
    (searches : r.Searches (front ++ c :: (v.flatMap text ++ (text q ++ w)))) (searches' : r.Searches (front ++ c :: (text q ++ w)))
    {s : Session} (idle : s.inRules = false) :
    ∃ behind : Except Failure (Text × Context),
      (compile (front ++ c :: (v.flatMap text ++ (text q ++ w))) flags r s).1.map Compilation.result =
        behind.map (fun b => (Scanning.written p ++ c :: (Vanishing.fences v q.isKnown ++ b.1), b.2)) ∧
      (compile (front ++ c :: (text q ++ w)) flags r s).1.map Compilation.result =
        behind.map fun b => (Scanning.written p ++ c :: b.1, b.2) := by
  have known := standard.bundled.known
  have starts := Vanishing.runStarts present (text q ++ w)
  have closed : ∀ e ∈ (v.flatMap text ++ (text q ++ w)).head?, e ∉ ['{', '<'] := by
    intro e head mem
    have other := starts.other e head
    simp only [List.mem_cons, List.not_mem_nil, or_false, not_or] at mem other
    exact mem.elim other.1 other.2.1
  have arrives' := Uncached.arrivesKnown standard ⟨starts.apart, q.apart w, List.subset_append_right _ _⟩ closed plain searches'
    arrives (List.append_nil front).symm solid
  have alone : Scanning.Writes locals (front ++ c :: (text q ++ w)) front [c] (text q ++ w) ⟨.outside, p.context⟩
      ⟨.outside, p.context⟩ [c] := Scanning.ofPlain standard plain solid
  have run : Scanning.Writes locals (front ++ c :: (v.flatMap text ++ (text q ++ w))) (front ++ [c]) (v.flatMap text)
      (text q ++ w) ⟨.outside, p.context⟩ ⟨.outside, p.context⟩ _ := Scanning.ofRun standard active (q.solid w)
  rw [q.starts] at run
  obtain ⟨p₁, t₁, same₁, region₁, context₁, text₁⟩ :=
    (Scanning.andThen (Scanning.ofPlain standard plain solid) run (by simp) p s outside rfl).resolve_right fun exceeded =>
      exceeded.2 (standard.searches.mp searches)
  obtain ⟨p₂, t₂, same₂, region₂, context₂, text₂⟩ := (alone (by simp) p s outside rfl).resolve_right fun exceeded =>
    exceeded.2 (standard.searches.mp searches')
  have split : front ++ c :: (v.flatMap text ++ (text q ++ w)) = front ++ ([c] ++ v.flatMap text) ++ (text q ++ w) := by simp
  have split' : front ++ c :: (text q ++ w) = front ++ [c] ++ (text q ++ w) := by simp
  obtain ⟨behind, left, right⟩ := Uncached.restAlike known split split' (by simp) (by simp) (region₁.trans region₂.symm)
    (context₁.trans context₂.symm) t₁ t₂
  rw [← same₁] at left
  rw [← same₂] at right
  rw [standard.compilesTo _ flags idle, standard.compilesTo _ flags idle, Uncached.scanFrom known arrives rfl s s,
    Uncached.scanFrom known arrives' rfl s s]
  refine ⟨behind, left.trans ?_, right.trans ?_⟩
  · simp [text₁]
  · simp [text₂]

/-- Outside a class, let the scan arrive before a character that stands for itself, with syntax that vanishes
and then a quantifier behind the character, and let no search fail with that syntax or without. What is written is the same as without that syntax but for the
groups left for its tokens: one for each token, without the last if the rules know the quantifier. So the
syntax is gone exactly where it is one token and the quantifier has a lower bound. -/
theorem vanishingLeavesFences (standard : r = .builtins ∨ r = .global)
    (arrives : Arrives r.rules (front ++ c :: (v.flatMap text ++ (text q ++ w))) flags front p) (outside : p.region = .outside)
    (plain : c ∉ operators) (solid : p.context.has .extended → Unicode.isSpace c = false ∧ c ≠ '#') (present : v ≠ [])
    (active : ∀ item ∈ v, item.isBlank → p.context.has .extended)
    (searches : r.Searches (front ++ c :: (v.flatMap text ++ (text q ++ w)))) (searches' : r.Searches (front ++ c :: (text q ++ w)))
    (s : Session) :
    (∃ behind : Except Failure (Text × Context),
      (compile (front ++ c :: (v.flatMap text ++ (text q ++ w))) flags r s).1.map Compilation.result =
        behind.map (fun b => (Scanning.written p ++ c :: (Vanishing.fences v q.isKnown ++ b.1), b.2)) ∧
      (compile (front ++ c :: (text q ++ w)) flags r s).1.map Compilation.result =
        behind.map fun b => (Scanning.written p ++ c :: b.1, b.2)) ∧
    ((compile (front ++ c :: (v.flatMap text ++ (text q ++ w))) flags r s).1.map Compilation.result =
        (compile (front ++ c :: (text q ++ w)) flags r s).1.map Compilation.result ↔
      ∀ done, (compile (front ++ c :: (text q ++ w)) flags r s).1 = .ok done → Vanishing.tokens v = 1 ∧ q.isKnown) := by
  obtain ⟨locals, known⟩ := Registry.Standard.ofLibrary standard
  rw [known.rules] at arrives
  obtain ⟨behind, left, right⟩ : ∃ behind : Except Failure (Text × Context), _ ∧ _ := by
    by_cases idle : s.inRules = false
    · exact quantifiedAlike known arrives outside plain solid present active searches searches' idle
    · refine ⟨.error .reentrantCompilation, ?_, ?_⟩ <;> simp [compile, rewrite, idle] <;> rfl
  refine ⟨⟨behind, left, right⟩, ?_⟩
  rw [left, right, ← Vanishing.fencesGone present]
  cases behind with
  | error e =>
    refine iff_of_true rfl fun done compiled => ?_
    rw [compiled] at right
    cases right
  | ok b =>
    have compiles : ∃ done, (compile (front ++ c :: (text q ++ w)) flags r s).1 = .ok done := by
      cases outcome : (compile (front ++ c :: (text q ++ w)) flags r s).1 with
      | ok done => exact ⟨done, rfl⟩
      | error e =>
        rw [outcome] at right
        cases right
    obtain ⟨done, compiled⟩ := compiles
    simp [Except.map, compiled]

theorem spacedRunLeavesFences :
    let front := "(?x)".toList
    let v : List Vanishing := [.space ' ' rfl, .comment ['n'] (List.forall_mem_singleton.mpr rfl),
      .lineComment ['m'] (List.forall_mem_singleton.mpr rfl)]
    let q : Repetition := .known ⟨.star, true⟩
    ∃ p : Uncached.Progress, Arrives Registry.builtins.rules (front ++ 'a' :: (v.flatMap text ++ (text q ++ []))) .empty front p ∧
      (∃ behind : Except Failure (Text × Context),
        (compile (front ++ 'a' :: (v.flatMap text ++ (text q ++ []))) .empty .builtins {}).1.map Compilation.result =
          behind.map (fun b => ('a' :: ("(?:)(?:)".toList ++ b.1), b.2)) ∧
        (compile (front ++ 'a' :: (text q ++ [])) .empty .builtins {}).1.map Compilation.result =
          behind.map fun b => ('a' :: b.1, b.2)) ∧
      (compile (front ++ 'a' :: (v.flatMap text ++ (text q ++ []))) .empty .builtins {}).1.map Compilation.result ≠
        (compile (front ++ 'a' :: (text q ++ [])) .empty .builtins {}).1.map Compilation.result := by
  intro front v q
  let p : Uncached.Progress := ⟨.outside, ⟨[], .single .extended⟩, [⟨front, [], true⟩]⟩
  have arrives : Arrives Registry.builtins.rules (front ++ 'a' :: (v.flatMap text ++ (text q ++ []))) .empty front p :=
    .onward (s := {}) .start rfl (by cbv)
  have plain : 'a' ∉ operators := by decide
  have solid : Unicode.isSpace 'a' = false ∧ 'a' ≠ '#' := by decide
  have on : p.context.has .extended = true := by decide
  obtain ⟨same, differ⟩ := vanishingLeavesFences (.inl rfl) arrives rfl plain (fun _ => solid) (List.cons_ne_nil _ _)
    (fun _ _ _ => on) (Registry.Standard.builtins.shortSearches (by decide))
    (Registry.Standard.builtins.shortSearches (by decide)) {}
  refine ⟨p, arrives, same, fun equal => ?_⟩
  have compiles : (compile (front ++ 'a' :: (text q ++ [])) .empty .builtins {}).1.toOption.isSome := by
    cbv
  obtain ⟨done, compiled⟩ := okOfSome compiles
  have three : Vanishing.tokens v = 3 := rfl
  have one := (differ.mp equal done compiled).1
  omega

end Run

theorem commentCutsQuantifierOff :
    (compile "a(?#x)(?#y)*".toList .empty .builtins {}).1.map Compilation.native = .ok "a(?:)*".toList ∧
      (compile "a*".toList .empty .builtins {}).1.map Compilation.native = .ok "a*".toList ∧
      (compile "a(?#c)\x7b,3\x7d".toList .empty .builtins {}).1.map Compilation.native = .ok "a(?:)\x7b,3\x7d".toList ∧
      (compile "a\x7b,3\x7d".toList .empty .builtins {}).1.map Compilation.native = .ok "a\x7b,3\x7d".toList :=
  ⟨by cbv, by cbv, by cbv, by cbv⟩

end ExtendedPattern
