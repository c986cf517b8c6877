import ExtendedPattern.Proofs.Expansion
import ExtendedPattern.Proofs.LiteralSearch
import ExtendedPattern.Proofs.Replacement

/-! Literal replacement. The escaped search text finds its occurrences one behind the other, and a template with each
dollar sign doubled stands for the text itself, so what comes out is the subject with that text in their place. -/
namespace ExtendedPattern
open Text (size)

namespace Template

def doubled (t : Text) : Text := t.flatMap fun c => if c = '$' then ['$', '$'] else [c]

theorem doubledExpands (t : Text) (m : Match) : expand (doubled t) m = t := by
  rw [expand]
  induction t with
  | nil => rfl
  | cons c rest ih =>
    rw [doubled, List.flatMap_cons]
    change (pieces 0 (_ ++ doubled rest)).flatMap _ = _
    by_cases dollar : c = '$'
    · subst dollar
      rw [if_pos rfl]
      change (pieces 0 ('$' :: '$' :: doubled rest)).flatMap _ = _
      rw [piecesToken]
      exact congrArg _ ih
    · rw [if_neg dollar, List.singleton_append, piecesCopied _ dollar]
      exact congrArg _ ih

end Template

namespace Text
variable {t w s out other front rest : Text}

def FirstBehind (t front rest : Text) : Prop :=
  ∀ other behind, front ++ (t ++ rest) = other ++ (t ++ behind) → size front ≤ size other

inductive ReplacedOnce (t w : Text) : Text → Text → Prop where
  | none {s : Text} (absent : ¬ t <:+: s) : ReplacedOnce t w s s
  | first {front rest : Text} (least : FirstBehind t front rest) :
      ReplacedOnce t w (front ++ (t ++ rest)) (front ++ (w ++ rest))

/-- From the front on each occurrence is replaced that does not overlap the one before. -/
inductive Replaced (t w : Text) : Text → Text → Prop where
  | none {s : Text} (absent : ¬ t <:+: s) : Replaced t w s s
  | next {front rest out : Text} (least : FirstBehind t front rest) (more : Replaced t w rest out) :
      Replaced t w (front ++ (t ++ rest)) (front ++ (w ++ out))

theorem occurs (t front rest : Text) : t <:+: front ++ (t ++ rest) := ⟨front, rest, by simp⟩

theorem firstSame {front' rest' : Text} (least : FirstBehind t front rest) (least' : FirstBehind t front' rest')
    (same : front ++ (t ++ rest) = front' ++ (t ++ rest')) : front = front' ∧ rest = rest' := by
  have level : size front = size front' := Nat.le_antisymm (least _ _ same) (least' _ _ same.symm)
  obtain ⟨fronts, rests⟩ := splitsOnce same level
  exact ⟨fronts, List.append_cancel_left rests⟩

theorem replacedOnceSame (one : ReplacedOnce t w s out) (two : ReplacedOnce t w s other) : out = other := by
  cases one with
  | none absent =>
    cases two with
    | none => rfl
    | first => exact absurd (occurs ..) absent
  | @first front rest least =>
    generalize whole : front ++ (t ++ rest) = s at two
    cases two with
    | none absent => exact absurd (whole ▸ occurs ..) absent
    | first least' =>
      obtain ⟨rfl, rfl⟩ := firstSame least least' whole
      rfl

theorem replacedSame (one : Replaced t w s out) (two : Replaced t w s other) : out = other := by
  induction one generalizing other with
  | none absent =>
    cases two with
    | none => rfl
    | next => exact absurd (occurs ..) absent
  | @next front rest out least _ ih =>
    generalize whole : front ++ (t ++ rest) = s at two
    cases two with
    | none absent => exact absurd (whole ▸ occurs ..) absent
    | next least' more =>
      obtain ⟨rfl, rfl⟩ := firstSame least least' whole
      rw [ih more]

end Text

namespace Pattern
variable {p : Pattern} {t before after : Text}

theorem Finds.behind (finds : p.Finds t) (before after : Text) :
    (p.execAt (before ++ after) (size before) false = .ok none ∧ ¬ t <:+: after) ∨
      ∃ front rest, after = front ++ (t ++ rest) ∧ Text.FirstBehind t front rest ∧
        p.execAt (before ++ after) (size before) false =
          .ok (some (textMatch (before ++ after) t (size (before ++ front)))) := by
  have stands {front rest : Text} (same : after = front ++ (t ++ rest)) :
      t.StandsAt (before ++ after) (size (before ++ front)) :=
    ⟨before ++ front, rest, by rw [same, List.append_assoc], rfl⟩
  obtain ⟨place?, first, found⟩ := finds (before ++ after) (size before) false
  cases place? with
  | none =>
    refine .inl ⟨found, ?_⟩
    rintro ⟨front, rest, same⟩
    rw [List.append_assoc] at same
    exact first _ (by rw [Text.sizeAppend]; omega) (stands same.symm)
  | some n =>
    obtain ⟨at_, behind, least⟩ := first
    obtain ⟨front, rest, same, rfl⟩ := Text.standsBehind behind at_
    refine .inr ⟨front, rest, same, fun other behind whole => ?_, ?_⟩
    · have late := least (size (before ++ other)) (by rw [Text.sizeAppend]; omega) (stands (same.trans whole))
      rw [Text.sizeAppend] at late
      omega
    · rw [Text.sizeAppend]
      exact found

theorem textMatchResume (subject t : Text) (n : Nat) :
    (textMatch subject t n).resume = if t = [] then subject.stepFrom n else n + size t := by
  have empty : (textMatch subject t n).isEmpty = true ↔ t = [] := by
    simp [textMatch, Match.isEmpty, Match.range, Match.groupSpan?, Span.isEmpty, Text.sizeZero]
  by_cases nothing : t = []
  · rw [Match.resume, if_pos (empty.mpr nothing), if_pos nothing, nothing]
    rfl
  · rw [Match.resume, if_neg fun flat => nothing (empty.mp flat), if_neg nothing]
    rfl

theorem Finds.findsAll (finds : p.Finds t) (subject : Text) : ∃ ms, p.findAll subject = .ok ms := by
  cases found : p.findAll subject with
  | ok ms => exact ⟨ms, rfl⟩
  | error e =>
    obtain ⟨place, failed⟩ := Iteration.traceFails (Iteration.traceAll (finds.orderly subject)) found
    obtain ⟨_, _, searched⟩ := finds subject place false
    cases failed.symm.trans searched

end Pattern

namespace Replace
variable {p : Pattern} {t w subject : Text} {start : Nat} {result : Except Failure (List Match)} {ms : List Match}

theorem weaveNothing (before after : Text) : weave (before ++ after) (size before) [] = after := Text.dropBytesSize before after

theorem weaveNext {before part rest : Text} (parts : subject = before ++ (part ++ rest)) (t w : Text)
    (more : List (Match × Text)) :
    weave subject (size before) ((Pattern.textMatch subject t (size (before ++ part)), w) :: more) =
      part ++ (w ++ weave subject (size (before ++ part) + size t) more) := by
  have slice : subject.slice ⟨size before, size (before ++ part)⟩ = part := by
    rw [parts, Text.sizeAppend]
    exact Text.sliceOfParts before part rest
  exact (congrArg (· ++ w ++ _) slice).trans (List.append_assoc ..)

theorem weaveOccurrences (finds : p.Finds t) (some : t ≠ []) (trace : Iteration.Trace (p.searcher subject) start result)
    (done : result = .ok ms) {before after : Text} (parts : subject = before ++ after) (here : start = size before) :
    Text.Replaced t w after (weave subject start (ms.map (·, w))) := by
  induction trace generalizing before after ms with
  | stops none =>
    cases done
    subst here parts
    obtain ⟨_, absent⟩ | ⟨_, _, _, _, searched⟩ := finds.behind before after
    · rw [List.map_nil, weaveNothing]
      exact .none absent
    · cases none.symm.trans searched
  | fails => cases done
  | @goesOn start m rest found _ ih =>
    cases rest with
    | error => cases done
    | ok more =>
      cases done
      subst here parts
      obtain ⟨searched, _⟩ | ⟨front, rest, rfl, least, searched⟩ := finds.behind before after
      · cases searched.symm.trans found
      cases searched.symm.trans found
      have resume : (Pattern.textMatch (before ++ (front ++ (t ++ rest))) t (size (before ++ front))).resume =
          size (before ++ front ++ t) := by
        rw [Pattern.textMatchResume, if_neg some, Text.sizeAppend _ t]
      rw [List.map_cons, weaveNext rfl]
      refine .next least ?_
      rw [← Text.sizeAppend, ← resume]
      exact ih rfl (by simp) resume

theorem weaveEverywhere (finds : p.Finds []) (trace : Iteration.Trace (p.searcher subject) start result)
    (done : result = .ok ms) {before passed after : Text} (parts : subject = before ++ passed ++ after)
    (here : start = size (before ++ passed)) :
    weave subject (size before) (ms.map (·, w)) = passed ++ (after.flatMap (fun c => w ++ [c]) ++ w) := by
  have first {front rest : Text} (least : Text.FirstBehind [] front rest) : front = [] :=
    Text.sizeZero.mp (Nat.le_zero.mp (least [] (front ++ rest) rfl))
  induction trace generalizing before passed after ms with
  | stops none =>
    subst here parts
    obtain ⟨_, absent⟩ | ⟨_, _, _, _, searched⟩ := finds.behind (before ++ passed) after
    · exact absurd List.nil_infix absent
    · cases none.symm.trans searched
  | fails => cases done
  | @goesOn start m rest found others ih =>
    cases rest with
    | error => cases done
    | ok more =>
      cases done
      subst here parts
      obtain ⟨_, absent⟩ | ⟨front, rest, _, least, searched⟩ := finds.behind (before ++ passed) after
      · exact absurd List.nil_infix absent
      rw [first least, List.append_nil] at searched
      cases searched.symm.trans found
      have step := Pattern.textMatchResume (before ++ passed ++ after) [] (size (before ++ passed))
      rw [if_pos rfl, Text.stepFrom, Text.dropBytesSize] at step
      rw [List.map_cons, weaveNext (List.append_assoc ..), size, Nat.add_zero]
      cases after with
      | nil =>
        dsimp only at step
        have beyond : Iteration.Trace (p.searcher (before ++ passed ++ [])) (size (before ++ passed) + 1) (.ok []) :=
          .stops (Iteration.searchBeyond (by simp))
        rw [step] at others
        cases Iteration.traceSame others beyond
        rw [List.map_nil, weaveNothing]
        simp
      | cons c after =>
        have next : size (before ++ passed) + c.utf8Size = size (before ++ passed ++ [c]) := by
          rw [Text.sizeAppend _ [c], size, size, Nat.add_zero]
        have parts : before ++ passed ++ c :: after = before ++ passed ++ [c] ++ after := by simp
        rw [ih rfl parts (step.trans next)]
        simp

end Replace

namespace Pattern
variable {p : Pattern} {t : Text}

theorem escapedBuilds (fits : Engine.Program.fits (escape t)) {flags : FlagSet} (caseful : flags.has .ignoreCase = false)
    (plain : flags.nativeOpener = []) : ∃ p, ofNative (escape t) flags = .ok p ∧ p.Finds t := by
  obtain ⟨items, stand, built⟩ := Engine.Program.literalBuilds (escapeIsLiteral t) flags
  have opened : flags.openNative (escape t) = escape t := by rw [FlagSet.openNative, plain, List.nil_append]
  rw [caseful] at stand
  rw [opened, if_pos fits] at built
  refine ⟨ofItems (escape t) flags items, ?_, itemsFind stand _ flags⟩
  rw [ofNative, assemble, opened, built]
  rfl

theorem doubledTexts (w : Text) (ms : List Match) :
    (Replacer.ofTemplate (Template.doubled w)).texts ms () = .ok (ms.map fun _ => w) := by
  rw [templateTexts]
  congr 2
  funext m
  exact Template.doubledExpands w m

theorem doubledFirst {found : Option Match} {subject : Text} (searched : p.find subject = .ok found) (w : Text) :
    p.replaceFirst subject (.ofTemplate (Template.doubled w)) () =
      .ok (Replace.weave subject 0 (found.toList.map (·, w)), p.rewind) := by
  rw [replaceFirstWeaves searched, doubledTexts, ← zipEach]
  rfl

theorem doubledAll {ms : List Match} {subject : Text} (found : p.findAll subject = .ok ms) (apart : Iteration.Apart 0 ms)
    (w : Text) : p.replaceAll subject (.ofTemplate (Template.doubled w)) () =
      .ok (Replace.weave subject 0 (ms.map (·, w)), p.rewind) := by
  rw [replaceAllWeaves found apart, doubledTexts, ← zipEach]
  rfl

theorem Finds.replacesFirst (finds : p.Finds t) (subject w : Text) :
    ∃ out q, p.replaceFirst subject (.ofTemplate (Template.doubled w)) () = .ok (out, q) ∧ Text.ReplacedOnce t w subject out := by
  obtain ⟨searched, absent⟩ | ⟨front, rest, rfl, least, searched⟩ := finds.behind [] subject
  · have searched : p.find subject = .ok none := searched
    have whole : Replace.weave subject 0 [] = subject := Replace.weaveNothing [] subject
    refine ⟨_, _, doubledFirst searched w, ?_⟩
    rw [Option.toList, List.map_nil, whole]
    exact .none absent
  · refine ⟨_, _, doubledFirst searched w, ?_⟩
    have woven := @Replace.weaveNext (front ++ (t ++ rest)) [] front (t ++ rest) rfl t w []
    have behind : (front ++ (t ++ rest)).dropBytes (size front + size t) = rest := by
      rw [← Text.sizeAppend, ← List.append_assoc, Text.dropBytesSize]
    rw [Replace.weave, List.nil_append, behind] at woven
    exact woven ▸ .first least

theorem Finds.replacesAll (finds : p.Finds t) (subject w : Text) :
    ∃ out q, p.replaceAll subject (.ofTemplate (Template.doubled w)) () = .ok (out, q) ∧
      (t ≠ [] → Text.Replaced t w subject out) ∧ (t = [] → out = subject.flatMap (fun c => w ++ [c]) ++ w) := by
  obtain ⟨ms, found⟩ := finds.findsAll subject
  have trace := Iteration.traceAll (finds.orderly subject)
  have apart := (Iteration.foundInOrder (finds.orderly subject) found).apart
  refine ⟨_, _, doubledAll found apart w, fun some => ?_, ?_⟩
  · exact Replace.weaveOccurrences finds some trace found (List.nil_append subject).symm rfl
  · rintro rfl
    exact @Replace.weaveEverywhere p w subject 0 _ ms finds trace found [] [] subject rfl rfl

end Pattern

/-- A text with its dollar signs doubled, as the template, takes the place of every occurrence of the search text or of the
first one. The empty text occurs in front of every character and at the end. -/
theorem literalsAreReplaced {search : Text} (fits : Engine.Program.fits (escape search)) (subject w : Text) :
    (∀ m, Template.expand (Template.doubled w) m = w) ∧
      (∃ out, replaceLiteral subject search (Template.doubled w) false = .ok out ∧
        ∀ other, Text.ReplacedOnce search w subject other ↔ other = out) ∧
      (search ≠ [] → ∃ out, replaceLiteral subject search (Template.doubled w) true = .ok out ∧
        ∀ other, Text.Replaced search w subject other ↔ other = out) ∧
      (search = [] → replaceLiteral subject search (Template.doubled w) true =
        .ok (subject.flatMap (fun c => w ++ [c]) ++ w)) := by
  have built (all : Bool) {p : Pattern} {out : Text} {q : Pattern}
      (made : Pattern.ofNative (escape search) (if all then .single .global else .empty) = .ok p)
      (given : p.replaceWith subject (.ofTemplate (Template.doubled w)) () all = .ok (out, q)) :
      replaceLiteral subject search (Template.doubled w) all = .ok out := by
    simp [replaceLiteral, made, given, bind, Except.bind]
  obtain ⟨p, once, finds⟩ := Pattern.escapedBuilds fits (by decide : FlagSet.empty.has .ignoreCase = false) (by decide)
  obtain ⟨q, global, each⟩ := Pattern.escapedBuilds fits (by decide : (FlagSet.single .global).has .ignoreCase = false) (by decide)
  obtain ⟨first, _, givesFirst, replacedOnce⟩ := finds.replacesFirst subject w
  obtain ⟨out, _, givesAll, replaced, everywhere⟩ := each.replacesAll subject w
  have all : replaceLiteral subject search (Template.doubled w) true = .ok out := built true global givesAll
  refine ⟨Template.doubledExpands w, ⟨first, built false once givesFirst, fun other => ?_⟩, fun some => ⟨out, all, fun other => ?_⟩, ?_⟩
  · exact ⟨fun also => Text.replacedOnceSame also replacedOnce, fun same => same ▸ replacedOnce⟩
  · exact ⟨fun also => Text.replacedSame also (replaced some), fun same => same ▸ replaced some⟩
  · exact fun nothing => everywhere nothing ▸ all

theorem overlapIsLeftAlone :
    Engine.Program.fits (escape ".a.a".toList) ∧ ".a.a".toList ≠ [] ∧
      replaceLiteral "é.a.a.a$&".toList ".a.a".toList (Template.doubled "$1".toList) true = .ok "é$1.a$&".toList ∧
      Text.Replaced ".a.a".toList "$1".toList "é.a.a.a$&".toList "é$1.a$&".toList := by
  have fits : Engine.Program.fits (escape ".a.a".toList) :=
    Engine.Program.literalFits (escapeIsLiteral ".a.a".toList) .empty (by decide)
  have some : ".a.a".toList ≠ [] := by decide
  have given : replaceLiteral "é.a.a.a$&".toList ".a.a".toList (Template.doubled "$1".toList) true = .ok "é$1.a$&".toList :=
    okOfToOption (by decide +kernel)
  obtain ⟨_, _, each, _⟩ := literalsAreReplaced fits "é.a.a.a$&".toList "$1".toList
  obtain ⟨out, all, replaced⟩ := each some
  obtain rfl := Except.ok.inj (given.symm.trans all)
  exact ⟨fits, some, given, (replaced _).mpr rfl⟩

end ExtendedPattern
