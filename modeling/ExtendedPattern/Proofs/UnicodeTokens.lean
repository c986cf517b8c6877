import ExtendedPattern.Proofs.ClassBodies
import ExtendedPattern.Proofs.NamedData
import ExtendedPattern.Proofs.ReadAhead

/-! Tokens for names of code points, alone and inside classes. -/
namespace ExtendedPattern
open Text (size sign classText)

namespace UnicodeNames

def letter (upper : Bool) : Char := if upper then 'P' else 'p'

def spell (upper caret : Bool) (name : Text) : Text :=
  ['\\', letter upper] ++ (['{'] ++ (sign caret ++ (name ++ ['}'])))

structure Spellable (name : Text) : Prop where
  start : name.head? ≠ some '^'
  inner : '}' ∉ name

variable {name before rest : Text} {upper caret : Bool}

def spans (caret : Bool) (name : Text) : Groups :=
  let stop := 3 + size (sign caret) + size name
  [⟨0, stop + 1⟩, ⟨1, 2⟩, ⟨3, 3 + size (sign caret)⟩, ⟨3 + size (sign caret), stop⟩].map some

theorem letterSeen (upper : Bool) (rest : Text) : token ('\\' :: letter upper :: '{' :: rest) = nameBehind rest := by
  cases upper <;> rfl

theorem spelledSeen (spellable : Spellable name) (upper caret : Bool) (rest : Text) :
    token (spell upper caret name ++ rest) = some (spans caret name) := by
  have mark : sign caret = ['^'] ∨ sign caret = [] ∧ (name ++ '}' :: rest).head? ≠ some '^' := by
    cases caret with
    | true => exact .inl rfl
    | false =>
      refine .inr ⟨rfl, ?_⟩
      have start := spellable.start
      cases name with
      | nil => simp
      | cons c name => simpa using start
  have run : (name ++ '}' :: rest).takeWhile (· != '}') = name :=
    Text.takeWhileEnds (fun d mem => by simpa using ne_of_mem_of_not_mem mem spellable.inner) rfl
  have split : spell upper caret name ++ rest = '\\' :: letter upper :: '{' :: (sign caret ++ (name ++ '}' :: rest)) := by
    simp [spell]
  rw [split, letterSeen, nameOf mark, if_pos (by simp), run]
  rfl

theorem spelledSize (upper caret : Bool) (name : Text) : size (spell upper caret name) = 3 + size (sign caret) + size name + 1 := by
  have single : (letter upper).utf8Size = 1 := by cases upper <;> rfl
  have backslash : '\\'.utf8Size = 1 := rfl
  have opening : '{'.utf8Size = 1 := rfl
  have closing : '}'.utf8Size = 1 := rfl
  simp only [spell, List.cons_append, List.nil_append, size, Text.sizeAppend, single, backslash, opening, closing]
  omega

theorem spelledGroups (before rest : Text) (upper caret : Bool) (name : Text) :
    let m := LocalRule.token (before ++ (spell upper caret name ++ rest)) (size before) (spans caret name)
    m.text = spell upper caret name ∧ m.group? 1 = some [letter upper] ∧ m.group? 2 = some (sign caret) ∧ m.group? 3 = some name := by
  have slice (front part behind : Text) {n k : Nat} (split : spell upper caret name ++ rest = front ++ (part ++ behind))
      (start : n = size front) (stop : k = n + size part) : Text.slice (spell upper caret name ++ rest) ⟨n, k⟩ = part := by
    rw [split, stop, start]
    exact Text.sliceOfParts front part behind
  have single : size [letter upper] = 1 := by cases upper <;> rfl
  have opener : size ['\\', letter upper, '{'] = 3 := by cases upper <;> rfl
  have named : size (['\\', letter upper, '{'] ++ sign caret) = 3 + size (sign caret) := by rw [Text.sizeAppend, opener]
  simp only [TokenMatch.text, LocalRule.groupRead, spans, List.map_cons, List.getElem?_cons_zero, List.getElem?_cons_succ,
    Option.join_some, Option.map_some, Option.getD_some, Option.some.injEq]
  refine ⟨slice [] _ rest rfl rfl ?_, slice ['\\'] _ ('{' :: (sign caret ++ (name ++ '}' :: rest))) ?_ rfl ?_,
    slice ['\\', letter upper, '{'] _ (name ++ '}' :: rest) ?_ opener.symm rfl,
    slice (['\\', letter upper, '{'] ++ sign caret) _ ('}' :: rest) ?_ named.symm rfl⟩
  · rw [spelledSize, Nat.zero_add]
  · simp [spell]
  · rw [single]
  · simp [spell]
  · simp [spell]

variable (names : UnicodeNames) {region : Region} {context : Context}

def outcome (names : UnicodeNames) (upper caret : Bool) (name : Text) (region : Region) : Except Failure Text :=
  if upper && caret then .error (.malformedToken (spell upper caret name))
  else
    match names.find? name with
    | none => .error (.unsupportedUnicodeToken (spell upper caret name))
    | some s => .ok (nativeText s (upper || caret) region)

theorem spelledHandled (before rest : Text) (upper caret : Bool) (name : Text) (s : Session) :
    names.handle (LocalRule.token (before ++ (spell upper caret name ++ rest)) (size before) (spans caret name)) region context s =
      ((names.outcome upper caret name region).map (·, context), s) := by
  obtain ⟨text, first, second, third⟩ := spelledGroups before rest upper caret name
  have capital : (some [letter upper] == some ['P']) = upper := by cases upper <;> rfl
  have negated : (some (sign caret) == some ['^']) = caret := by cases caret <;> rfl
  simp only [handle, first, second, third, text, capital, negated, Option.getD_some, outcome]
  split
  · rfl
  · cases names.find? name <;> rfl

end UnicodeNames

namespace LocalRule
open BuiltinRules
variable {l : LocalRule} {locals : List LocalRule} {region : Region} {context : Context} {offset : Nat} {t : Text}

theorem Bundled.unseen (bundled : l.Bundled) (unread : Unread context offset t) (region : Region) :
    l.sees? region context offset t = none := by
  cases bundled with
  | unicode names => simp [sees?, LocalRule.unicode, always, unread.unicodeName]
  | builtin mem =>
    have none := firstUnread .builtins region unread
    rw [first?, List.findSome?_eq_none_iff] at none
    simpa using none l mem

theorem Bundled.unseenInside (bundled : l.Bundled) {c : Char} (plain : c ≠ '\\') :
    l.sees? .inside context offset (c :: t) = none := by
  cases bundled with
  | unicode names => simp [sees?, LocalRule.unicode, always, UnicodeNames.tokenElsewhere plain]
  | builtin mem =>
    have none : first? builtins .inside context offset (c :: t) = none := firstInside .builtins plain
    rw [first?, List.findSome?_eq_none_iff] at none
    simpa using none l mem

theorem firstNone (unseen : ∀ l ∈ locals, l.sees? region context offset t = none) :
    first? locals region context offset t = none := by
  rw [first?, List.findSome?_eq_none_iff]
  exact fun l mem => by rw [unseen l mem]; rfl

end LocalRule

namespace Scanning
open UnicodeNames (spell spans Spellable)
variable {limit : Prop} {names : UnicodeNames} {others : List LocalRule} {input before rest name out : Text} {region : Region}
  {context : Context} {upper caret : Bool}

theorem ofName (spellable : Spellable name) (written : names.outcome upper caret name region = .ok out) :
    WritesUnless limit (.unicode names :: others) input before (spell upper caret name) rest ⟨region, context⟩ ⟨region, context⟩
      out := by
  have part : (LocalRule.unicode names).takesPart region context := by cases region <;> rfl
  have seen := UnicodeNames.spelledSeen spellable upper caret rest
  have sees : (LocalRule.unicode names).sees? region context (size before) (spell upper caret name ++ rest) =
      some (spans caret name) := (if_pos part).trans seen
  have calm : Stalls limit (.unicode names :: others) input before (spell upper caret name ++ rest) ⟨region, context⟩ := by
    intro _ gives
    rw [LocalRule.goesOnBefore rfl sees] at gives
    cases gives
  refine ofRule calm names.rule (spans caret name) (List.cons_ne_nil _ _) ⟨_, LocalRule.firstHere part seen, rfl⟩ ?_ ?_
  · rw [UnicodeNames.spelledSize]
    rfl
  · rintro rfl s
    exact (UnicodeNames.spelledHandled names before rest upper caret name s).trans (by rw [written]; rfl)

theorem ofNameInClass (bundled : ∀ l ∈ others, l.Bundled) (spellable : Spellable name)
    (written : names.outcome upper caret name .inside = .ok out) (negated : Bool)
    (stalls : Stalls limit (.unicode names :: others) input before (classText negated (spell upper caret name) ++ rest)
      ⟨.outside, context⟩) :
    WritesUnless limit (.unicode names :: others) input before (classText negated (spell upper caret name)) rest
      ⟨.outside, context⟩ ⟨.outside, context⟩ (classText negated out) := by
  have known : ∀ l ∈ LocalRule.unicode names :: others, l.Bundled := List.forall_mem_cons.mpr ⟨.unicode names, bundled⟩
  have opening : WritesUnless limit (.unicode names :: others) input before ['[']
      (sign negated ++ (spell upper caret name ++ [']']) ++ rest) ⟨.outside, context⟩ ⟨.inside, context⟩ ['['] := by
    have unread : LocalRule.Unread context (size before) ('[' :: (sign negated ++ (spell upper caret name ++ [']']) ++ rest)) :=
      { emptyClass := by cases negated <;> rfl }
    exact ofCharacter stalls (LocalRule.firstNone fun l mem => (known l mem).unseen unread .outside) rfl rfl
  have within {before : Text} (c : Char) (plain : c ≠ '\\') (rest : Text) : WritesUnless limit (.unicode names :: others) input
      before [c] rest ⟨.inside, context⟩ ⟨Rewrite.regionAfter .inside c, context⟩ [c] := by
    refine ofCharacter (inside fun l mem n => (known l mem).limited)
      (LocalRule.firstNone fun l mem => (known l mem).unseenInside plain) ?_ rfl
    simp [NativeToken.length?, plain]
  have signed : WritesUnless limit (.unicode names :: others) input (before ++ ['[']) (sign negated)
      (spell upper caret name ++ [']'] ++ rest) ⟨.inside, context⟩ ⟨.inside, context⟩ (sign negated) := by
    cases negated with
    | false => exact nothing
    | true => exact within '^' (by decide) _
  have token : WritesUnless limit (.unicode names :: others) input (before ++ ['['] ++ sign negated)
      (spell upper caret name ++ [']']) rest ⟨.inside, context⟩ ⟨.outside, context⟩ (out ++ [']']) :=
    andThen (ofName spellable written) (within ']' (by decide) rest)
  have inner := andThen signed token
  exact @andThen _ _ _ _ _ _ _ _ ['['] _ _ _ opening inner

theorem ofRefusal {r : Registry} {locals : List LocalRule} {l : LocalRule} {groups : Groups} {t : Text} {flags : FlagSet}
    {e : Failure} (rules : r.rules = locals.map LocalRule.rule) (present : t ≠ [])
    (calm : LocalRule.anyGivesUp .outside (.start flags) 0 t locals = false)
    (first : LocalRule.first? locals .outside (.start flags) 0 t = some (l, groups))
    (refused : ∀ s, l.rule.handle (LocalRule.token t 0 groups) .outside (.start flags) s = (.error e, s))
    {s : Session} (idle : s.inRules = false) : (compile t flags r s).1 = .error e := by
  obtain ⟨c, rest, rfl⟩ := List.exists_cons_of_ne_nil present
  have fires (s : Session) : Uncached.fire (c :: rest) 0 .outside (.start flags) (locals.map LocalRule.rule) s = _ :=
    LocalRule.fireFirst locals [] c rest .outside (.start flags) s
  rw [compilesLocally rules, Uncached.rewrite, if_neg (by simp [idle]), Uncached.scan, if_neg (Nat.lt_irrefl 0)]
  simp only [size, calm, Bool.false_eq_true, if_false, List.nil_append, first, LocalRule.respond, LocalRule.answer,
    refused] at fires
  simp only [Uncached.step, Session.whileInRules, fires]

end Scanning

namespace Pattern
variable {r : Registry} {locals : List LocalRule} {source out : Text} {flags : FlagSet} {program : Engine.Program} {s : Session}
  {told : Char → Bool}

theorem assembled (rules : r.rules = locals.map LocalRule.rule)
    (writes : Scanning.WritesUnless False locals source [] source [] ⟨.outside, .start flags⟩ ⟨.outside, .start flags⟩ out)
    (idle : s.inRules = false) :
    (withRegistry source flags r s).1 = assemble source out flags (Context.names (.start flags)) {} := by
  obtain ⟨done, t, compiled, native, context⟩ := (Scanning.compiledUnless rules writes idle).resolve_right And.right
  rw [withRegistryCompiled compiled, native, context]
  rfl

theorem made (rules : r.rules = locals.map LocalRule.rule)
    (writes : Scanning.WritesUnless False locals source [] source [] ⟨.outside, .start flags⟩ ⟨.outside, .start flags⟩ out)
    (built : Engine.Program.build? {} (flags.openNative out) = some program) (idle : s.inRules = false) :
    ∃ p, (withRegistry source flags r s).1 = .ok p ∧ p.program = program := by
  refine ⟨{ source, native := out, flags, program, names := Context.names (.start flags), limits := {}, cursor := 0 }, ?_, rfl⟩
  rw [assembled rules writes idle, assemble, built]

theorem tellsOne {p : Pattern} (tells : p.program.Tells told) (c : Char) : p.isMatch [c] = .ok (told c) := by
  have searched := tells c
  rw [isMatch, nativeSearch]
  cases found : p.program.search [c] 0 with
  | ok groups =>
    rw [found] at searched
    exact congrArg Except.ok (Except.ok.inj searched)
  | error e =>
    rw [found] at searched
    cases searched

end Pattern

section Tokens
open UnicodeNames (spell spans Spellable dataAfter)
open CodePointSet (Lists Within lastCodePoint)
variable {r : Registry} {others : List LocalRule} {name : Text} {flags : FlagSet} {s : Session} {set : CodePointSet}
  {upper caret : Bool}

theorem tokenRefused {e : Failure} (reads : r.ReadsNames others) (spellable : Spellable name)
    (refused : r.names.outcome upper caret name .outside = .error e) (idle : s.inRules = false) :
    (Pattern.withRegistry (spell upper caret name) flags r s).1 = .error e := by
  have seen := UnicodeNames.spelledSeen spellable upper caret []
  rw [List.append_nil] at seen
  have handled (s : Session) : r.names.handle (LocalRule.token (spell upper caret name) 0 (spans caret name)) .outside
      (.start flags) s = (.error e, s) := by
    have handled : r.names.handle (LocalRule.token ([] ++ (spell upper caret name ++ [])) 0 (spans caret name)) .outside
        (.start flags) s = _ := UnicodeNames.spelledHandled r.names [] [] upper caret name s
    rwa [List.nil_append, List.append_nil, refused] at handled
  have first : LocalRule.first? (.unicode r.names :: others) .outside (.start flags) 0 (spell upper caret name) =
      some (.unicode r.names, spans caret name) := LocalRule.firstHere rfl seen
  have sees : (LocalRule.unicode r.names).sees? .outside (.start flags) 0 (spell upper caret name) = some (spans caret name) := seen
  have calm := LocalRule.goesOnBefore rfl sees others
  exact Pattern.withRegistryFailed (Scanning.ofRefusal reads.rules (by simp [spell]) calm first handled idle)

theorem aloneTells (reads : r.ReadsNames others) (spellable : Spellable name) (caseful : flags.has .ignoreCase = false)
    (single : (upper && caret) = false) (found : r.names.find? name = some set) (idle : s.inRules = false) :
    ∃ p, (Pattern.withRegistry (spell upper caret name) flags r s).1 = .ok p ∧
      ∀ c, p.isMatch [c] = .ok ((upper || caret) != decide (Within set.ranges c.toNat)) := by
  have written : r.names.outcome upper caret name .outside = .ok (UnicodeNames.nativeText set (upper || caret) .outside) := by
    simp [UnicodeNames.outcome, single, found]
  obtain ⟨program, built, tells⟩ := UnicodeNames.outsideTells (reads.ascends name set found) caseful (upper || caret)
  obtain ⟨p, made, rfl⟩ := Pattern.made reads.rules (Scanning.ofName spellable written) built idle
  exact ⟨p, made, Pattern.tellsOne tells⟩

def listedInside (set : CodePointSet) (inverted : Bool) : CodePointSet := if inverted then set.invert else set

theorem insideListed (ascends : CodePointSet.Ascend 0 set.ranges) (inverted : Bool) (n : Nat) :
    decide (Within (listedInside set inverted).ranges n) =
      ((inverted != decide (Within set.ranges n)) && (!inverted || decide (n ≤ lastCodePoint))) := by
  cases inverted with
  | false => simp [listedInside]
  | true =>
    have inverse := (CodePointSet.invertKeeps ascends).2 n
    simp [listedInside, inverse, Bool.and_comm]

theorem classWrites (reads : r.ReadsNames others) (spellable : Spellable name) (single : (upper && caret) = false)
    (found : r.names.find? name = some set) (negated : Bool) (flags : FlagSet)
    (searched : r.StartsSearched (classText negated (spell upper caret name))) :
    let source := classText negated (spell upper caret name)
    Scanning.WritesUnless False (.unicode r.names :: others) source [] source [] ⟨.outside, .start flags⟩ ⟨.outside, .start flags⟩
      (classText negated (listedInside set (upper || caret)).classBody) := by
  rw [Registry.StartsSearched, reads.rules, List.forall_mem_map] at searched
  have calm : Scanning.Stalls False (.unicode r.names :: others) (classText negated (spell upper caret name)) []
      (classText negated (spell upper caret name) ++ []) ⟨.outside, .start flags⟩ := by
    rw [List.append_nil]
    exact Scanning.fromStart searched
  refine Scanning.ofNameInClass reads.bundled spellable ?_ negated calm
  simp only [UnicodeNames.outcome, single, found, UnicodeNames.nativeText, listedInside, Bool.false_eq_true, if_false]
  split <;> rfl

theorem classTells (reads : r.ReadsNames others) (spellable : Spellable name) (caseful : flags.has .ignoreCase = false)
    (single : (upper && caret) = false) (found : r.names.find? name = some set)
    (present : (listedInside set (upper || caret)).classBody ≠ []) (negated : Bool)
    (searched : r.StartsSearched (classText negated (spell upper caret name))) (idle : s.inRules = false) :
    ∃ p, (Pattern.withRegistry (classText negated (spell upper caret name)) flags r s).1 = .ok p ∧
      ∀ c, p.isMatch [c] = .ok (negated != decide (Within (listedInside set (upper || caret)).ranges c.toNat)) := by
  have ascends := reads.ascends name set found
  have ascends : CodePointSet.Ascend 0 (listedInside set (upper || caret)).ranges := by
    unfold listedInside
    split
    · exact (CodePointSet.invertKeeps ascends).1
    · exact ascends
  obtain ⟨program, built, tells⟩ := CodePointSet.bodyTells ascends present caseful negated
  obtain ⟨p, made, rfl⟩ := Pattern.made reads.rules (classWrites reads spellable single found negated flags searched)
    built idle
  exact ⟨p, made, Pattern.tellsOne tells⟩

open Registry (Call Maker)
variable {maker : Maker} {calls : List Call}

/-- Whatever a registry was told of names: a token tells characters by the data that its name has now, in whatever way it
is spelled. A name without data has no tokens, and a token that is negated twice is none. -/
theorem tokensTellByData (maker : Maker) {calls : List Call} (own : ∀ rule, Call.register rule ∉ calls)
    (brought : (maker.taken calls).any Call.bringsNames) {spelling : Text} (same : slug spelling = slug name)
    (spellable : Spellable spelling) {flags : FlagSet} (caseful : flags.has .ignoreCase = false) (upper caret : Bool)
    {s : Session} (idle : s.inRules = false) :
    let token := spell upper caret spelling
    let made := (Pattern.withRegistry token flags (maker.after calls) s).1
    if upper && caret then made = .error (.malformedToken token)
    else
      match dataAfter ((maker.taken calls).flatMap Call.namings) (slug name) with
      | some data => ∃ items p, Lists data items ∧ made = .ok p ∧
          ∀ c, p.isMatch [c] = .ok ((upper || caret) != decide (Within items c.toNat))
      | none => made = .error (.unsupportedUnicodeToken token) := by
  have reads := Registry.readsNames own brought
  have gives := Registry.namesBacked maker calls spelling
  rw [same] at gives
  dsimp only
  split
  · rename_i twice
    exact tokenRefused reads spellable (by rw [UnicodeNames.outcome, if_pos twice]) idle
  · rename_i single
    have single : (upper && caret) = false := by simpa using single
    generalize dataAfter ((maker.taken calls).flatMap Call.namings) (slug name) = data? at gives
    generalize found : (maker.after calls).names.find? spelling = set? at gives
    cases gives with
    | nothing => exact tokenRefused reads spellable (by simp [UnicodeNames.outcome, single, found]) idle
    | data lists =>
      obtain ⟨p, made, tells⟩ := aloneTells reads spellable caseful single found idle
      have kept := (CodePointSet.ofRangesKeeps (CodePointSet.listedInside lists)).2
      exact ⟨_, p, lists, made, fun c => by rw [tells, decide_eq_decide.mpr (kept c.toNat)]⟩

theorem aliasTellsByFormerData :
    let calls : List Call := [.enable, .addNames ⟨[("Vowel".toList, "0041D7FF-E000".toList)], [("vowel".toList, "First".toList)]⟩,
      .addNames ⟨[("VOWEL".toList, "0061-0065+06F".toList)], []⟩]
    (∀ rule, Call.register rule ∉ calls) ∧ (Maker.empty.taken calls).any Call.bringsNames ∧
      slug "FIR st".toList = slug "First".toList ∧ Spellable "FIR st".toList ∧ FlagSet.empty.has .ignoreCase = false ∧
      ({} : Session).inRules = false ∧
      ∃ items p, Lists "0041D7FF-E000".toList items ∧
        (Pattern.withRegistry (spell true false "FIR st".toList) .empty (Maker.empty.after calls) {}).1 = .ok p ∧
        ∀ c, p.isMatch [c] = .ok (true != decide (Within items c.toNat)) := by
  intro calls
  have own : ∀ rule, Call.register rule ∉ calls := by simp [calls]
  have brought : (Maker.empty.taken calls).any Call.bringsNames := by decide +kernel
  have same : slug "FIR st".toList = slug "First".toList := by decide +kernel
  have spellable : Spellable "FIR st".toList := ⟨by decide, by decide⟩
  have caseful : FlagSet.empty.has .ignoreCase = false := rfl
  have idle : ({} : Session).inRules = false := rfl
  have data : dataAfter ((Maker.empty.taken calls).flatMap Call.namings) (slug "First".toList) = some "0041D7FF-E000".toList := by
    decide +kernel
  clear_value calls
  have told := tokensTellByData .empty own brought same spellable caseful true false idle
  rw [if_neg (by decide), data] at told
  exact ⟨own, brought, same, spellable, caseful, idle, told⟩

theorem caretStartsNoSpelling :
    let calls : List Call := [.enable, .addNames ⟨[("-^a".toList, "0041".toList)], []⟩]
    Spellable "-^a".toList ∧ slug "^a".toList = slug "-^a".toList ∧
      dataAfter ((Maker.empty.taken calls).flatMap Call.namings) (slug "-^a".toList) = some "0041".toList ∧
      Lists "0041".toList [(0x41, 0x41)] ∧
      (Pattern.withRegistry (spell false false "^a".toList) .empty (Maker.empty.after calls) {}).1 =
        .error (.unsupportedUnicodeToken (spell false false "^a".toList)) := by
  intro calls
  have own : ∀ rule, Call.register rule ∉ calls := by simp [calls]
  have brought : (Maker.empty.taken calls).any Call.bringsNames := by decide +kernel
  have same : slug "^a".toList = slug "-^a".toList := by decide +kernel
  have data : dataAfter ((Maker.empty.taken calls).flatMap Call.namings) (slug "-^a".toList) = some "0041".toList := by
    decide +kernel
  have unknown : (Maker.empty.after calls).names.find? "a".toList = none := by decide +kernel
  have caretSign : spell false false "^a".toList = spell false true "a".toList := by decide
  have idle : ({} : Session).inRules = false := rfl
  clear_value calls
  have refused : (Maker.empty.after calls).names.outcome false true "a".toList .outside =
      .error (.unsupportedUnicodeToken (spell false true "a".toList)) := by
    rw [UnicodeNames.outcome, if_neg (by decide), unknown]
  rw [caretSign]
  exact ⟨⟨by decide, by decide⟩, same, data, CodePointSet.itemsRead.mp (by decide),
    tokenRefused (Registry.readsNames own brought) ⟨by decide, by decide⟩ refused idle⟩

/-- Inside a class a token means what it means alone, up to the end of the basic plane. -/
theorem classesTellLikeTokens (maker : Maker) {calls : List Call} (own : ∀ rule, Call.register rule ∉ calls)
    (known : (maker.after calls).hasUnicodeName name) (spellable : Spellable name) {flags : FlagSet}
    (caseful : flags.has .ignoreCase = false) {upper caret : Bool} (single : (upper && caret) = false) {s : Session}
    (idle : s.inRules = false) :
    let token := spell upper caret name
    let made (t : Text) := (Pattern.withRegistry t flags (maker.after calls) s).1
    (∀ negated, (maker.after calls).StartsSearched (classText negated token) →
      ∃ done, (compile (classText negated token) flags (maker.after calls) s).1 = .ok done) ∧
      ∃ p, made token = .ok p ∧ ((∃ c, c.toNat ≤ lastCodePoint ∧ p.isMatch [c] = .ok true) →
        ∀ negated, (maker.after calls).StartsSearched (classText negated token) → ∃ q, made (classText negated token) = .ok q ∧ ∀ c, ∃ told, p.isMatch [c] = .ok told ∧
          q.isMatch [c] = .ok (negated != (told && (!(upper || caret) || decide (c.toNat ≤ lastCodePoint))))) := by
  have reads := Registry.readsNames own (Registry.broughtNames known)
  obtain ⟨set, found⟩ : ∃ set, (maker.after calls).names.find? name = some set := Option.isSome_iff_exists.mp known
  have ascends := reads.ascends name set found
  obtain ⟨p, made, tells⟩ := aloneTells reads spellable caseful single found idle
  refine ⟨fun negated searched => ?_, p, made, ?_⟩
  · have writes := classWrites reads spellable single found negated flags searched
    obtain ⟨done, t, compiled, _⟩ := (Scanning.compiledUnless reads.rules writes idle).resolve_right And.right
    exact ⟨done, by rw [compiled]⟩
  · rintro ⟨c, low, matched⟩ negated searched
    have present : (listedInside set (upper || caret)).classBody ≠ [] := by
      intro empty
      have outside : ¬ Within (listedInside set (upper || caret)).ranges c.toNat := by
        rw [← CodePointSet.charsListed, CodePointSet.bodyEmpty.mp empty]
        simp [Within]
      have listed := insideListed ascends (upper || caret) c.toNat
      rw [tells, Except.ok.injEq] at matched
      simp [outside, matched, low] at listed
    obtain ⟨q, made, lists⟩ := classTells reads spellable caseful single found present negated searched idle
    exact ⟨q, made, fun c => ⟨_, tells c, by rw [lists, insideListed ascends]⟩⟩

theorem consonantsTellInClasses :
    let calls : List Call := [.enable, .addNames ⟨[("Vowel".toList, "0041D7FF-E000".toList)], []⟩]
    let made (t : Text) := (Pattern.withRegistry t .empty (Maker.empty.after calls) {}).1
    (∀ rule, Call.register rule ∉ calls) ∧ (Maker.empty.after calls).hasUnicodeName "vowel".toList ∧ Spellable "vowel".toList ∧
      FlagSet.empty.has .ignoreCase = false ∧ (true && false) = false ∧ ({} : Session).inRules = false ∧
      ∃ p, made (spell true false "vowel".toList) = .ok p ∧ ('b'.toNat ≤ lastCodePoint ∧ p.isMatch ['b'] = .ok true) ∧
        ∀ negated, ∃ q, made (classText negated (spell true false "vowel".toList)) = .ok q ∧ ∀ c, ∃ told, p.isMatch [c] = .ok told ∧
          q.isMatch [c] = .ok (negated != (told && (!(true || false) || decide (c.toNat ≤ lastCodePoint)))) := by
  intro calls made
  have own : ∀ rule, Call.register rule ∉ calls := by simp [calls]
  have found : (Maker.empty.after calls).names.find? "vowel".toList = some ⟨[(0x41, 0x41), (0xD7FF, 0xE000)]⟩ := by decide +kernel
  have known : (Maker.empty.after calls).hasUnicodeName "vowel".toList := by decide +kernel
  have spellable : Spellable "vowel".toList := ⟨by decide, by decide⟩
  have caseful : FlagSet.empty.has .ignoreCase = false := rfl
  have single : (true && false) = false := rfl
  have idle : ({} : Session).inRules = false := rfl
  clear_value calls
  obtain ⟨_, p, alone, classes⟩ := classesTellLikeTokens .empty own known spellable caseful single idle
  have reads := Registry.readsNames own (Registry.broughtNames known)
  obtain ⟨p', alone', tells⟩ := aloneTells reads spellable caseful single found idle
  obtain rfl : p' = p := Except.ok.inj (alone'.symm.trans alone)
  have low : 'b'.toNat ≤ lastCodePoint := by decide
  have matched : p'.isMatch ['b'] = .ok true := (tells 'b').trans (congrArg Except.ok (by decide))
  exact ⟨own, known, spellable, caseful, single, idle, p', alone, ⟨low, matched⟩,
    fun negated => classes ⟨'b', low, matched⟩ negated (reads.shortStarts (by cases negated <;> decide))⟩

theorem classesFallShort :
    let calls : List Call := [.enable, .addNames ⟨[("Vowel".toList, "0041".toList), ("Nothing".toList, "D800-DFFF".toList)], []⟩]
    let made (t : Text) := (Pattern.withRegistry t .empty (Maker.empty.after calls) {}).1
    Spellable "Vowel".toList ∧ (Maker.empty.after calls).hasUnicodeName "Vowel".toList ∧
      (∃ p q, made (spell true false "Vowel".toList) = .ok p ∧ made (classText false (spell true false "Vowel".toList)) = .ok q ∧
        p.isMatch [Char.ofNat 0x1F600] = .ok true ∧ q.isMatch [Char.ofNat 0x1F600] = .ok false) ∧
      Spellable "Nothing".toList ∧ (Maker.empty.after calls).hasUnicodeName "Nothing".toList ∧
      made (classText false (spell false false "Nothing".toList)) = .error .nativeRefusal := by
  intro calls made
  have own : ∀ rule, Call.register rule ∉ calls := by simp [calls]
  have found : (Maker.empty.after calls).names.find? "Vowel".toList = some ⟨[(0x41, 0x41)]⟩ := by decide +kernel
  have known : (Maker.empty.after calls).hasUnicodeName "Vowel".toList := by decide +kernel
  have foundEmpty : (Maker.empty.after calls).names.find? "Nothing".toList = some ⟨[(0xD800, 0xDFFF)]⟩ := by decide +kernel
  have knownEmpty : (Maker.empty.after calls).hasUnicodeName "Nothing".toList := by decide +kernel
  clear_value calls
  have spellable : Spellable "Vowel".toList := ⟨by decide, by decide⟩
  have spellableEmpty : Spellable "Nothing".toList := ⟨by decide, by decide⟩
  have caseful : FlagSet.empty.has .ignoreCase = false := rfl
  have single : (true && false) = false := rfl
  have idle : ({} : Session).inRules = false := rfl
  have present : (listedInside ⟨[(0x41, 0x41)]⟩ (true || false)).classBody ≠ [] := by decide
  have reads := Registry.readsNames own (Registry.broughtNames known)
  obtain ⟨p, alone, tells⟩ := aloneTells reads spellable caseful single found idle
  obtain ⟨q, within, lists⟩ := classTells reads spellable caseful single found present false
    (reads.shortStarts (by decide)) idle
  have matched : p.isMatch [Char.ofNat 0x1F600] = .ok true := (tells _).trans (congrArg Except.ok (by decide))
  have missed : q.isMatch [Char.ofNat 0x1F600] = .ok false := (lists _).trans (congrArg Except.ok (by decide))
  have refused : made (classText false (spell false false "Nothing".toList)) = .error .nativeRefusal := by
    dsimp only [made]
    rw [Pattern.assembled reads.rules (classWrites reads spellableEmpty rfl foundEmpty false .empty
      (reads.shortStarts (by decide))) idle]
    rfl
  exact ⟨spellable, known, ⟨p, q, alone, within, matched, missed⟩, spellableEmpty, knownEmpty, refused⟩

end Tokens
end ExtendedPattern
