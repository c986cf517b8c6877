import ExtendedPattern.Proofs.RunSkips

/-! Escaped texts. The escape of a text compiles to itself under all flags. Where case counts, the pattern
finds the first place where the text stands, and nothing else. -/
namespace ExtendedPattern
open Text (size)

inductive Literally : Text → Text → Prop where
  | nothing : Literally [] []
  | spelled {c : Char} {spelling t source : Text} (spells : Spelling c spelling) (more : Literally t source) :
      Literally (c :: t) (spelling ++ source)
  | plain {t source : Text} (c : Literal) (more : Literally t source) : Literally (c.char :: t) (c.char :: source)

theorem escapeIsLiteral (t : Text) : Literally t (escape t) := by
  induction t with
  | nil => exact .nothing
  | cons c t ih => exact .spelled (spelled c) ih

namespace Scanning
variable {locals : List LocalRule} {r : Registry} {input before rest t source : Text} {context : Context}

theorem ofLiterally (standard : r.Standard locals) (literally : Literally t source) :
    Writes locals input before source rest ⟨.outside, context⟩ ⟨.outside, context⟩ source := by
  induction literally generalizing before with
  | nothing => exact nothing
  | spelled spells _ ih => exact andThen (ofSpelling standard spells) ih
  | plain c _ ih => exact andThen (ofLiteral standard c) ih

end Scanning

namespace Engine

def Node.StandsFor (ignoreCase : Bool) (c : Char) (n : Node) : Prop :=
  ∃ foldable, n = .char ((CharSet.single c).underCase (foldable && ignoreCase))

namespace Reader
variable {m : Modes} {t rest source : Text} {p : Progress}

theorem literalStarts (literally : Literally t source) : source = [] ∨
    ∃ first tail, source = first :: tail ∧ ∀ d ∈ operators, d ≠ '\\' → first ≠ d := by
  cases literally with
  | nothing => exact .inl rfl
  | spelled spells more =>
    have known : ∀ d ∈ operators, d ∈ metaChars := by simp [operators, metaChars]
    obtain ⟨first, tail, rfl, start⟩ := spellingStarts spells
    exact .inr ⟨first, tail ++ _, rfl, fun d mem => start d (known d mem)⟩
  | plain c more =>
    refine .inr ⟨c.char, _, rfl, fun d mem _ same => ?_⟩
    rw [← same] at mem
    exact c.plain.2 mem

theorem literalLengthens (literally : Literally t source) : t.length ≤ source.length := by
  induction literally with
  | nothing => exact Nat.zero_le _
  | spelled spells _ ih =>
    obtain ⟨first, tail, rfl, _⟩ := spellingStarts spells
    rw [List.length_append, List.length_cons, List.length_cons]
    omega
  | plain c _ ih => exact Nat.succ_le_succ ih

theorem literalUnskipped (solid : p.modes.freeSpacing = false) (literally : Literally t source) :
    skip? p source = some source := by
  rcases literalStarts literally with rfl | ⟨first, tail, rfl, start⟩
  · rfl
  · have noParen : first ≠ '(' := start _ (by simp [operators]) (by decide)
    exact skipsNothing solid (by simp [noParen])

theorem literalUnquantified (p : Progress) (literally : Literally t source) : quantifier? p source = none := by
  rcases literalStarts literally with rfl | ⟨first, tail, rfl, start⟩
  · rfl
  · have noMark : first ≠ '?' ∧ first ≠ '*' ∧ first ≠ '+' ∧ first ≠ '{' := by
      refine ⟨start _ ?_ ?_, start _ ?_ ?_, start _ ?_ ?_, start _ ?_ ?_⟩ <;> simp [operators]
    unfold quantifier?
    split <;> simp_all

theorem plainRead (solid : p.modes.freeSpacing = false) (c : Literal) {limit fuel : Nat} {frame : Frame}
    {outer : List Frame} (blank : skip? p rest = some rest) (unmarked : quantifier? p rest = none) :
    read? limit (fuel + 1) (c.char :: rest) p frame outer =
      read? limit fuel rest p (frame.add (.char ((CharSet.single c.char).underCase p.modes.ignoreCase))) outer := by
  have plain := c.plain.2
  simp only [operators, List.mem_cons, List.not_mem_nil, or_false, not_or] at plain
  have still : skip? p (c.char :: rest) = some (c.char :: rest) := skipsNothing solid (by simp [plain])
  exact atomRead (by simp [plain]) still (by simp [atom?, plain]) blank unmarked

theorem literalRead (solid : m.freeSpacing = false) (literally : Literally t source) (limit : Nat) {fuel : Nat}
    (enough : t.length < fuel) (opening : Opening) (front : List Node) :
    ∃ items, List.Forall₂ (Node.StandsFor m.ignoreCase) t items ∧
      read? limit fuel source { modes := m } { opening, items := front } [] =
        some (.ofItems (front.reverse ++ items), { modes := m }) := by
  induction literally generalizing fuel front with
  | nothing =>
    obtain ⟨fuel, rfl⟩ := Nat.exists_eq_add_of_lt enough
    refine ⟨[], .nil, ?_⟩
    simp [read?, skip?, skipBlank?, Progress.canEnd, Frame.tree, Frame.branch]
  | @spelled c spelling t source spells more ih =>
    obtain ⟨fuel, rfl⟩ := Nat.exists_eq_add_of_lt enough
    have later : t.length < (c :: t).length + fuel := by
      simp only [List.length_cons]
      omega
    have read : ∃ foldable, read? limit ((c :: t).length + fuel + 1) (spelling ++ source) { modes := m }
        { opening, items := front } [] = _ :=
      spellingReadOf solid spells (literalUnskipped solid more) (literalUnquantified _ more)
    obtain ⟨foldable, read⟩ := read
    obtain ⟨items, stand, others⟩ := ih later
      (.char ((CharSet.single c).underCase (foldable && m.ignoreCase)) :: front)
    exact ⟨_ :: items, .cons ⟨foldable, rfl⟩ stand, (read.trans others).trans (by simp)⟩
  | @plain t source c more ih =>
    obtain ⟨fuel, rfl⟩ := Nat.exists_eq_add_of_lt enough
    have later : t.length < (c.char :: t).length + fuel := by
      simp only [List.length_cons]
      omega
    have read : read? limit ((c.char :: t).length + fuel + 1) (c.char :: source) { modes := m }
        { opening, items := front } [] = _ :=
      plainRead solid c (literalUnskipped solid more) (literalUnquantified _ more)
    obtain ⟨items, stand, others⟩ := ih later
      (.char ((CharSet.single c.char).underCase m.ignoreCase) :: front)
    exact ⟨_ :: items, .cons ⟨true, rfl⟩ stand, (read.trans others).trans (by simp)⟩

theorem modesRead {q : Progress} {frame : Frame} {limit fuel : Nat} (still : skip? p ('(' :: rest) = some ('(' :: rest))
    (opened : open? p rest = some (.atom .empty, q, t)) (blank : skip? q t = some t)
    (plain : quantifier? q t = none) :
    read? limit (fuel + 1) ('(' :: rest) p frame [] = read? limit fuel t q frame [] := by
  simp [read?, still, maxDepth, opened, unquantified _ blank plain, Frame.add, Node.isEmpty]

theorem openerRead (flags : FlagSet) (blank : skip? { modes := flags.modes } t = some t)
    (plain : quantifier? { modes := flags.modes } t = none) :
    ∃ limit fuel, t.length < fuel ∧ tree? (flags.openNative t) =
      read? limit fuel t { modes := flags.modes } { opening := .modes {} } [] := by
  rw [tree?, FlagSet.openNative, FlagSet.openerSpelled]
  revert blank plain
  unfold FlagSet.modes
  generalize flags.has .ignoreCase = ignoreCase
  generalize flags.has .multiline = multiline
  intro blank plain
  generalize size _ / 2 = limit
  cases ignoreCase <;> cases multiline
  · exact ⟨limit, t.length + 1, Nat.lt_succ_self _, rfl⟩
  · exact ⟨limit, t.length + 4, by omega, modesRead rfl rfl blank plain⟩
  · exact ⟨limit, t.length + 4, by omega, modesRead rfl rfl blank plain⟩
  · exact ⟨limit, t.length + 5, by omega, modesRead rfl rfl blank plain⟩

theorem literalTree (literally : Literally t source) (flags : FlagSet) :
    ∃ items, List.Forall₂ (Node.StandsFor (flags.has .ignoreCase)) t items ∧
      tree? (flags.openNative source) = some (.ofItems items, { modes := flags.modes }) := by
  have solid : flags.modes.freeSpacing = false := rfl
  have blank := literalUnskipped (p := { modes := flags.modes }) solid literally
  obtain ⟨limit, fuel, long, opened⟩ := openerRead flags blank (literalUnquantified _ literally)
  have enough := Nat.lt_of_le_of_lt (literalLengthens literally) long
  obtain ⟨items, stand, read⟩ := literalRead solid literally limit enough (.modes {}) []
  exact ⟨items, stand, opened.trans read⟩

end Reader

namespace Node
variable {items : List Node} {ignoreCase : Bool} {t : Text}

def IsChar (n : Node) : Prop := ∃ s, n = .char s

theorem standsChars (stand : List.Forall₂ (StandsFor ignoreCase) t items) : ∀ n ∈ items, n.IsChar := by
  induction stand with
  | nil => exact nofun
  | cons first _ ih =>
    obtain ⟨foldable, rfl⟩ := first
    exact List.forall_mem_cons.mpr ⟨⟨_, rfl⟩, ih⟩

theorem charsOfText (t : Text) : ∀ n ∈ t.map fun c => Node.char (.single c), n.IsChar := by
  intro n mem
  obtain ⟨c, _, rfl⟩ := List.mem_map.mp mem
  exact ⟨_, rfl⟩

theorem standsSingle (stand : List.Forall₂ (StandsFor false) t items) :
    items = t.map fun c => .char (.single c) := by
  induction stand with
  | nil => rfl
  | cons first _ ih =>
    obtain ⟨foldable, rfl⟩ := first
    rw [List.map_cons, ih, Bool.and_false]
    rfl

theorem charsInduction {P : Node → Prop} (chars : ∀ n ∈ items, n.IsChar) (nothing : P .empty)
    (one : ∀ s, P (.char s)) (row : P (.seq items)) : P (ofItems items) := by
  rcases items with _ | ⟨n, _ | ⟨next, rest⟩⟩
  · exact nothing
  · obtain ⟨⟨s, rfl⟩, _⟩ := List.forall_mem_cons.mp chars
    exact one s
  · exact row

theorem charsEasy (chars : ∀ n ∈ items, n.IsChar) (referenced : List Nat) :
    ((ofItems items).shape referenced).hard = false := by
  rw [shapeOfItems, seqEasy]
  intro n mem
  obtain ⟨s, rfl⟩ := chars n mem
  rfl

theorem charsBounded (chars : ∀ n ∈ items, n.IsChar) : Code.isBounded (ofItems items) := by
  have all : Code.areBounded items := by
    induction items with
    | nil => rfl
    | cons n items ih =>
      obtain ⟨⟨s, rfl⟩, others⟩ := List.forall_mem_cons.mp chars
      simpa [Code.areBounded, Code.isBounded] using ih others
  exact charsInduction (P := fun n => Code.isBounded n) chars rfl (fun _ => rfl) all

theorem charsUngrouped (chars : ∀ n ∈ items, n.IsChar) : Program.lastGroup (ofItems items) = 0 := by
  have all : Program.lastGroupIn items = 0 := by
    induction items with
    | nil => rfl
    | cons n items ih =>
      obtain ⟨⟨s, rfl⟩, others⟩ := List.forall_mem_cons.mp chars
      simpa [Program.lastGroupIn, Program.lastGroup] using ih others
  exact charsInduction (P := fun n => Program.lastGroup n = 0) chars rfl (fun _ => rfl) all

theorem nextPasses {c d : Cursor} {x : Char} :
    c.next? = some (x, d) ↔ ∃ rest, c.after = x :: rest ∧ d = c.pass [x] rest := by
  obtain ⟨before, after, offset⟩ := c
  cases after with
  | nil => simp [Cursor.next?]
  | cons y rest =>
    simp only [Cursor.next?, Cursor.pass, size, Nat.add_zero, List.reverse_singleton, List.singleton_append,
      Option.some.injEq, Prod.mk.injEq, List.cons.injEq]
    constructor
    · rintro ⟨rfl, rfl⟩
      exact ⟨rest, ⟨rfl, rfl⟩, rfl⟩
    · rintro ⟨_, ⟨rfl, rfl⟩, rfl⟩
      exact ⟨rfl, rfl⟩

theorem literalMatches (t : Text) (c d : Cursor) :
    (ofItems (t.map fun c => .char (.single c))).Matches c d ↔ ∃ rest, c.after = t ++ rest ∧ d = c.pass t rest := by
  rw [ofItemsMatches]
  induction t generalizing c with
  | nil =>
    constructor
    · intro same
      exact ⟨c.after, rfl, same.symm.trans (Cursor.passNothing rfl).symm⟩
    · rintro ⟨rest, follows, rfl⟩
      exact (Cursor.passNothing follows).symm
  | cons x t ih =>
    constructor
    · rintro ⟨m, ⟨y, next, has⟩, others⟩
      obtain rfl : y = x := by simpa [CharSet.singleHas] using has
      obtain ⟨rest, follows, rfl⟩ := nextPasses.mp next
      obtain ⟨rest', follows', rfl⟩ := (ih _).mp others
      obtain rfl : rest = t ++ rest' := follows'
      exact ⟨rest', follows, Cursor.passPass c [y] _ t rest'⟩
    · rintro ⟨rest, follows, rfl⟩
      refine ⟨c.pass [x] (t ++ rest), ⟨x, nextPasses.mpr ⟨_, follows, rfl⟩, by simp [CharSet.singleHas]⟩, ?_⟩
      exact (ih _).mpr ⟨rest, rfl, (Cursor.passPass c [x] _ t rest).symm⟩

end Node
end Engine

namespace Text
variable {t subject before after : Text} {n m start : Nat}

def StandsAt (t subject : Text) (n : Nat) : Prop := ∃ before after, subject = before ++ (t ++ after) ∧ size before = n

def First (t subject : Text) (start : Nat) : Option Nat → Prop
  | some n => t.StandsAt subject n ∧ start ≤ n ∧ ∀ q, start ≤ q → t.StandsAt subject q → n ≤ q
  | none => ∀ q, start ≤ q → ¬ t.StandsAt subject q

theorem StandsAt.place (stands : t.StandsAt subject n) : subject.IsPlace n := by
  obtain ⟨before, after, rfl, rfl⟩ := stands
  exact placeBefore

theorem StandsAt.cuts (stands : t.StandsAt subject n) :
    subject.Cuts ⟨n, n + size t⟩ := by
  obtain ⟨before, after, rfl, rfl⟩ := stands
  refine ⟨placeBefore, ?_, Nat.le_add_right _ _⟩
  exact ⟨before ++ t, after, by simp, sizeAppend before t⟩

theorem boundaryNearest (place : subject.IsPlace m) (behind : n ≤ m) : subject.boundary n ≤ m := by
  obtain ⟨before, after, rfl, rfl⟩ := place
  induction before generalizing n with
  | nil =>
    obtain rfl := Nat.le_zero.mp behind
    exact Nat.le_of_eq (boundaryOfPlace (placeAtStart _))
  | cons c before ih =>
    rw [size] at behind ⊢
    rw [List.cons_append, boundary, takeBytes]
    split
    · exact Nat.zero_le _
    · have nearer := ih (n := n - c.utf8Size) (by omega)
      rw [boundary] at nearer
      rw [size]
      omega

theorem First.ofBoundary {place? : Option Nat} (inside : start ≤ subject.size)
    (first : t.First subject (subject.boundary start) place?) : t.First subject start place? := by
  have nearest {q : Nat} (behind : start ≤ q) (stands : t.StandsAt subject q) : subject.boundary start ≤ q :=
    boundaryNearest stands.place behind
  cases place? with
  | none => exact fun q behind stands => first q (nearest behind stands) stands
  | some n =>
    obtain ⟨stands, behind, least⟩ := first
    exact ⟨stands, Nat.le_trans (boundaryBehind inside) behind,
      fun q behind stands => least q (nearest behind stands) stands⟩

theorem First.beyond (beyond : subject.size < start) : t.First subject start none := by
  intro q behind stands
  have inside := placeInside stands.place
  omega

theorem standsBehind (behind : size before ≤ n) (stands : t.StandsAt (before ++ after) n) :
    ∃ front rest, after = front ++ (t ++ rest) ∧ n = size before + size front := by
  obtain ⟨front, rest, rfl, rfl⟩ := partToPlace stands.place behind
  obtain ⟨before', after', same, level⟩ := stands
  rw [← List.append_assoc] at same
  obtain ⟨_, rfl⟩ := splitsOnce same level.symm
  exact ⟨front, after', rfl, sizeAppend before front⟩

end Text

namespace Engine

structure Lockstep.Takes (code : Array Step) (t : Text) : Prop where
  finds : ∀ {groups c rest}, c.after = t ++ rest → (run code groups c).isSome
  stops : ∀ {groups c arrival}, run code groups c = some arrival →
    (∃ rest, c.after = t ++ rest) ∧ arrival.stop.offset = c.offset + size t

theorem Lockstep.Takes.misses {code : Array Step} {t : Text} (takes : Takes code t) {groups : Nat} {c : Cursor}
    (none : run code groups c = none) (rest : Text) : c.after ≠ t ++ rest := by
  intro follows
  have found : (run code groups c).isSome := takes.finds follows
  rw [none] at found
  cases found

theorem Lockstep.literalTakes (t : Text) :
    Takes (Code.ofNode (.ofItems (t.map fun c => .char (.single c)))).toArray t where
  finds follows :=
    (runIff (Node.charsEasy (Node.charsOfText t) []) (Node.charsBounded (Node.charsOfText t)) _ _).mpr ⟨_, (Node.literalMatches t _ _).mpr ⟨_, follows, rfl⟩⟩
  stops found := by
    have taken := runStops (Node.charsEasy (Node.charsOfText t) []) (Node.charsBounded (Node.charsOfText t)) found
    obtain ⟨rest, follows, stop⟩ := (Node.literalMatches t _ _).mp taken
    exact ⟨⟨rest, follows⟩, by rw [stop]; rfl⟩

namespace Program
variable {t : Text} {code : Array Step}

theorem scanFirst (takes : Lockstep.Takes code t) (groups : Nat) (after before : Text) (offset : Nat) :
    match scan code groups after before offset with
    | some (start, arrival) => arrival.stop.offset = start + size t ∧
      ∃ front rest, after = front ++ (t ++ rest) ∧ start = offset + size front ∧
        ∀ front' rest', after = front' ++ (t ++ rest') → size front ≤ size front'
    | none => ∀ front rest, after ≠ front ++ (t ++ rest) := by
  induction after generalizing before offset with
  | nil =>
    rw [scan]
    cases found : Lockstep.run code groups ⟨before, [], offset⟩ with
    | some arrival =>
      obtain ⟨⟨rest, follows⟩, stop⟩ := takes.stops found
      exact ⟨stop, [], rest, follows, rfl, fun _ _ _ => Nat.zero_le _⟩
    | none =>
      intro front rest same
      obtain ⟨_, empty⟩ := List.append_eq_nil_iff.mp same.symm
      exact takes.misses found rest empty.symm
  | cons c after ih =>
    rw [scan]
    cases found : Lockstep.run code groups ⟨before, c :: after, offset⟩ with
    | some arrival =>
      obtain ⟨⟨rest, follows⟩, stop⟩ := takes.stops found
      exact ⟨stop, [], rest, follows, rfl, fun _ _ _ => Nat.zero_le _⟩
    | none =>
      have later {front rest : Text} (same : c :: after = front ++ (t ++ rest)) :
          ∃ more, front = c :: more ∧ after = more ++ (t ++ rest) := by
        cases front with
        | nil => exact absurd same (takes.misses found rest)
        | cons d more =>
          obtain ⟨rfl, behind⟩ := List.cons.inj same
          exact ⟨more, rfl, behind⟩
      have others := ih (c :: before) (offset + c.utf8Size)
      dsimp only
      cases scanned : scan code groups after (c :: before) (offset + c.utf8Size) with
      | none =>
        rw [scanned] at others
        intro front rest same
        obtain ⟨more, _, behind⟩ := later same
        exact others more rest behind
      | some result =>
        rw [scanned] at others
        obtain ⟨stop, front, rest, rfl, start, least⟩ := others
        refine ⟨stop, c :: front, rest, rfl, by rw [start, size, Nat.add_assoc], fun front' rest' same => ?_⟩
        obtain ⟨more, rfl, behind⟩ := later same
        exact Nat.add_le_add_left (least more rest' behind) _

theorem searchFirst {p : Program} (body : p.body = .lockstep code) (alone : p.groups = 1)
    (takes : Lockstep.Takes code t) (before after : Text) :
    ∃ place?, t.First (before ++ after) (size before) place? ∧
      p.search (before ++ after) (size before) = .ok (place?.map fun n => [some ⟨n, n + size t⟩]) := by
  have scanned := scanFirst takes p.groups after before.reverse (size before)
  simp only [search, Cursor.ofOffsetSize, body]
  cases found : scan code p.groups after before.reverse (size before) with
  | none =>
    rw [found] at scanned
    refine ⟨none, fun q behind stands => ?_, rfl⟩
    obtain ⟨front, rest, same, _⟩ := Text.standsBehind behind stands
    exact scanned front rest same
  | some result =>
    obtain ⟨start, arrival⟩ := result
    rw [found] at scanned
    obtain ⟨stop, front, rest, rfl, rfl, least⟩ := scanned
    refine ⟨some (size before + size front), ⟨?_, Nat.le_add_right _ _, fun q behind stands => ?_⟩, ?_⟩
    · exact ⟨before ++ front, rest, (List.append_assoc ..).symm, Text.sizeAppend before front⟩
    · obtain ⟨front', rest', same, rfl⟩ := Text.standsBehind behind stands
      exact Nat.add_le_add_left (least front' rest' same) _
    · simp [stop, groupsOf, alone]

end Program
end Engine

namespace Pattern

def textMatch (subject t : Text) (n : Nat) : Match := ⟨subject, [some ⟨n, n + size t⟩], none⟩

/-- The pattern finds the first place where the text stands, and nothing else. A pinned search finds it only
at its start. -/
def Finds (p : Pattern) (t : Text) : Prop := ∀ subject start sticky, ∃ place?, t.First subject start place? ∧
  p.execAt subject start sticky =
    .ok ((place?.filter fun n => !sticky || n == subject.boundary start).map (textMatch subject t))

theorem findsText {p : Pattern} {t : Text} {code : Array Engine.Step} (body : p.program.body = .lockstep code)
    (alone : p.program.groups = 1) (unnamed : p.names = none) (takes : Engine.Lockstep.Takes code t) : p.Finds t := by
  intro subject start sticky
  by_cases beyond : subject.size < start
  · exact ⟨none, Text.First.beyond beyond, execAtBeyond beyond⟩
  · have inside := Nat.le_of_not_lt beyond
    obtain ⟨before, after, same, level⟩ := Text.boundaryIsPlace subject start
    obtain ⟨place?, first, searched⟩ := Engine.Program.searchFirst body alone takes before after
    rw [← same, level] at first searched
    refine ⟨place?, first.ofBoundary inside, ?_⟩
    rw [execAtInside inside, nativeSearch, searched]
    cases place? with
    | none => rfl
    | some n =>
      simp only [Except.mapError, Option.map_some, unnamed, Match.start, Match.range, Match.groupSpan?]
      by_cases here : n = subject.boundary start <;> cases sticky <;> simp [textMatch, Option.filter, here]

theorem Finds.orderly {p : Pattern} {t : Text} (finds : p.Finds t) (subject : Text) : p.Orderly subject where
  spans := by
    intro start groups here searched
    obtain ⟨place?, first, found⟩ := finds subject start false
    have inside := Text.placeInside here
    rw [execAtInside inside, Text.boundaryOfPlace here, searched] at found
    cases place? with
    | none => cases found
    | some n =>
      obtain ⟨stands, behind, _⟩ := first
      obtain ⟨_, rfl, _⟩ := Match.mk.inj (Option.some.inj (Except.ok.inj found))
      exact ⟨_, _, rfl, behind, stands.cuts⟩

end Pattern

def Engine.Program.fits (pattern : Text) : Bool :=
  (Reader.tree? pattern).all fun (tree, _) => Code.weight tree ≤ defaultCodeLimit

namespace Engine.Program
variable {t source : Text} {flags : FlagSet}

theorem literalBuilds (literally : Literally t source) (flags : FlagSet) :
    ∃ items, List.Forall₂ (Node.StandsFor (flags.has .ignoreCase)) t items ∧
      build? {} (flags.openNative source) =
        if fits (flags.openNative source) then some ⟨1, .lockstep (Code.ofNode (.ofItems items)).toArray, 1000000⟩
        else none := by
  obtain ⟨items, stand, read⟩ := Reader.literalTree literally flags
  have chars := Node.standsChars stand
  have easy : Plan.Setting.isEasy ⟨[], defaultCodeLimit⟩ (.ofItems items) := by
    simp [Plan.Setting.isEasy, Plan.Setting.shape, Node.charsEasy chars]
  refine ⟨items, stand, ?_⟩
  simp only [build?, fits, read, Option.bind_eq_bind, Option.bind_some, Option.getD_none, easy, if_true,
    Plan.Setting.code?, Node.charsBounded chars, Node.charsUngrouped chars, Bool.true_and, Option.all_some,
    decide_eq_true_eq]
  split <;> rfl

theorem ofItemsWeight (items : List Node) : Code.weight (.ofItems items) ≤ 16 + Code.weightOfAll items := by
  rcases items with _ | ⟨n, _ | ⟨next, rest⟩⟩
  · exact Nat.le_refl 16
  · simp only [Node.ofItems, Code.weightOfAll]
    omega
  · exact Nat.le_add_left _ 16

theorem standWeight {ignoreCase : Bool} {items : List Node}
    (stand : List.Forall₂ (Node.StandsFor ignoreCase) t items) : Code.weightOfAll items ≤ 128 * t.length := by
  have single (ignore : Bool) (c : Char) : ((CharSet.single c).underCase ignore).weight ≤ 128 := by
    cases ignore <;> simp [CharSet.underCase, CharSet.single, CharSet.weight] <;> split <;> omega
  induction stand with
  | nil => exact Nat.le_refl 0
  | @cons c _ _ _ first _ ih =>
    obtain ⟨foldable, rfl⟩ := first
    have light := single (foldable && ignoreCase) c
    rw [Code.weightOfAll, Code.weight, List.length_cons]
    omega

theorem literalFits (literally : Literally t source) (flags : FlagSet) (short : 16 + 128 * t.length ≤ defaultCodeLimit) :
    fits (flags.openNative source) := by
  obtain ⟨items, stand, read⟩ := Reader.literalTree literally flags
  have light := ofItemsWeight items
  have each := standWeight stand
  have within : Code.weight (.ofItems items) ≤ defaultCodeLimit := by omega
  simpa [fits, read] using within

end Engine.Program

namespace Pattern
variable {t source : Text}

def ofItems (source : Text) (flags : FlagSet) (items : List Engine.Node) : Pattern :=
  { source, native := source, flags, program := ⟨1, .lockstep (Engine.Code.ofNode (.ofItems items)).toArray, 1000000⟩,
    names := none, limits := {}, cursor := 0 }

theorem literalCompiles (literally : Literally t source) (flags : FlagSet) {s : Session} (idle : s.inRules = false) :
    ∃ items, List.Forall₂ (Engine.Node.StandsFor (flags.has .ignoreCase)) t items ∧
      ((∃ v, withRegistry source flags .global s =
        (if Engine.Program.fits (flags.openNative source) then .ok (ofItems source flags items)
          else .error .nativeRefusal, v)) ∨
        (compile source flags .global s).1 = .error .backtrackLimit ∧ LocalRule.GroupTooFar source) := by
  have writes : Scanning.Writes _ source [] source [] ⟨.outside, .start flags⟩ ⟨.outside, .start flags⟩ source :=
    Scanning.ofLiterally .global literally
  obtain ⟨items, stand, built⟩ := Engine.Program.literalBuilds literally flags
  refine ⟨items, stand, (compilesOrTooFar .global writes idle).imp_left fun ⟨v, made, _⟩ => ⟨v, made.trans ?_⟩⟩
  simp only [assemble, Context.start, built]
  cases Engine.Program.fits (flags.openNative source) <;> rfl

theorem itemsFind {items : List Engine.Node} (stand : List.Forall₂ (Engine.Node.StandsFor false) t items)
    (source : Text) (flags : FlagSet) : (ofItems source flags items).Finds t := by
  cases Engine.Node.standsSingle stand
  exact findsText rfl rfl rfl (Engine.Lockstep.literalTakes t)

def SpellsOut (p : Pattern) (t : Text) : Prop := ∃ source flags s v, Literally t source ∧
  flags.has .ignoreCase = false ∧ withRegistry source flags .global s = (.ok p, v)

theorem refusedInRules (source : Text) (flags : FlagSet) (r : Registry) {s : Session} (busy : s.inRules) :
    withRegistry source flags r s = (.error .reentrantCompilation, s) := by
  simp [withRegistry, withLimits, withRules, rewrite, bind, Action.andThen, busy]

theorem SpellsOut.finds {p : Pattern} (spells : p.SpellsOut t) : p.Finds t := by
  obtain ⟨source, flags, s, v, literally, caseful, made⟩ := spells
  have idle : s.inRules = false := by
    by_contra busy
    rw [refusedInRules source flags .global (by simpa using busy)] at made
    cases made
  obtain ⟨items, stand, ⟨u, compiles⟩ | ⟨exceeded, _⟩⟩ := literalCompiles literally flags idle
  case inr =>
    have failed := withRegistryFailed exceeded
    rw [made] at failed
    cases failed
  rw [caseful] at stand
  have built := (Prod.mk.inj (compiles.symm.trans made)).1
  split at built
  · cases built
    exact itemsFind stand source flags
  · cases built

end Pattern

/-- The escape of a text compiles to itself, without slots and under the flags given, and becomes a pattern without
groups. Where case counts, the pattern finds the first place where the text stands, from any place on, and nothing else.
Only the search for a plain group may give up, where the next one is too far away. -/
theorem escapedTextFindsItself {t : Text} {flags : FlagSet} {s : Session} (idle : s.inRules = false)
    (fits : Engine.Program.fits (flags.openNative (escape t))) :
    ((∃ done u, compile (escape t) flags .global s = (.ok done, u) ∧ done.native = escape t ∧
      done.context.slots = [] ∧ done.context.flags = flags) ∧
    ∃ p u, Pattern.withRegistry (escape t) flags .global s = (.ok p, u) ∧ p.native = escape t ∧ p.flags = flags ∧
      p.names = none ∧ p.groupCount = 0 ∧ (flags.has .ignoreCase = false → p.Finds t)) ∨
    (compile (escape t) flags .global s).1 = .error .backtrackLimit ∧
      (Pattern.withRegistry (escape t) flags .global s).1 = .error .backtrackLimit ∧ LocalRule.GroupTooFar (escape t) := by
  have literally := escapeIsLiteral t
  have writes : Scanning.Writes _ (escape t) [] (escape t) [] ⟨.outside, .start flags⟩ ⟨.outside, .start flags⟩ (escape t) :=
    Scanning.ofLiterally .global literally
  obtain ⟨done, u, compiled, native, context⟩ | ⟨exceeded, far⟩ := Scanning.compiledOrTooFar .global writes idle
  case inr => exact .inr ⟨exceeded, Pattern.withRegistryFailed exceeded, far⟩
  refine .inl ⟨⟨done, u, compiled, native, by rw [context]; rfl, by rw [context]; rfl⟩, ?_⟩
  obtain ⟨items, stand, ⟨v, made⟩ | ⟨exceeded, _⟩⟩ := Pattern.literalCompiles literally flags idle
  case inr =>
    rw [compiled] at exceeded
    cases exceeded
  rw [if_pos fits] at made
  refine ⟨_, v, made, rfl, rfl, rfl, rfl, fun caseful => ?_⟩
  rw [caseful] at stand
  exact Pattern.itemsFind stand _ flags

theorem blanksFindThemselves :
    ({} : Session).inRules = false ∧
    Engine.Program.fits ((FlagSet.single .extended).openNative (escape "a #\u2003.".toList)) ∧
    ∃ p u, Pattern.withRegistry (escape "a #\u2003.".toList) (.single .extended) .global {} = (.ok p, u) ∧
      p.native = "a\\x20\\#\\u\x7b2003\x7d\\.".toList ∧ p.Finds "a #\u2003.".toList := by
  have fits := Engine.Program.literalFits (escapeIsLiteral "a #\u2003.".toList) (.single .extended) (by decide)
  have short : (escape "a #\u2003.".toList).length < 1000000 := by decide
  obtain ⟨_, p, u, made, native, _, _, _, finds⟩ := (escapedTextFindsItself (s := {}) rfl fits).resolve_right fun exceeded =>
    Nat.not_le.mpr short (LocalRule.farFits exceeded.2.2)
  exact ⟨rfl, fits, p, u, made, native.trans (by decide), finds (by decide)⟩

theorem escapedBlanks (n : Nat) : escape (List.replicate n ' ') = (List.replicate n "\\x20".toList).flatten := by
  rw [escape, List.flatMap_replicate]
  rfl

theorem blanksPassed (n : Nat) : LocalRule.passedOver (escape (List.replicate n ' ')) = 4 * n := by
  have length : (escape (List.replicate n ' ')).length = 4 * n := by
    rw [escapedBlanks]
    simp [Nat.mul_comm]
  rw [LocalRule.passedWithout, length]
  rw [escapedBlanks]
  simp

theorem escapedBlanksGiveUp :
    (Pattern.withRegistry (escape (List.replicate 250000 ' ')) .empty .global {}).1 = .error .backtrackLimit := by
  refine Pattern.withRegistryFailed ?_
  have far : 1000000 ≤ LocalRule.passedOver (escape (List.replicate 250000 ' ')) := Nat.le_of_eq (blanksPassed 250000).symm
  rw [escapedBlanks, List.replicate_succ] at far ⊢
  exact Registry.Standard.global.givesUpAtStart rfl far .empty rfl

end ExtendedPattern
