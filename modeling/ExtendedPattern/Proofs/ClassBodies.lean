import ExtendedPattern.Proofs.CodePointData
import ExtendedPattern.Proofs.LiteralSearch

/-! Classes that list code points. The engine reads every range between the brackets as the characters from its first to
its last, and a pattern that is one such class tells characters by the list. -/
namespace ExtendedPattern

namespace Text

def sign (negated : Bool) : Text := if negated then ['^'] else []

def classText (negated : Bool) (members : Text) : Text := '[' :: (sign negated ++ (members ++ [']']))

end Text

namespace CodePointSet
variable {n : Nat} {r : Nat × Nat} {rs : List (Nat × Nat)}

theorem digitCharRead {d : Nat} (small : d < 16) : hexValue? (Nat.digitChar d).toUpper = some d :=
  digitSpelled.mpr ⟨small, .inr rfl⟩

theorem numberSnoc (digits : Text) (c : Char) :
    hexNumber? (digits ++ [c]) = (hexNumber? digits).bind fun n => (hexValue? c).map (16 * n + ·) := by
  rw [hexNumber?, List.foldlM_append]
  simp [hexNumber?]

theorem zerosRead (count : Nat) (digits : Text) : hexNumber? (List.replicate count '0' ++ digits) = hexNumber? digits := by
  induction count with
  | zero => rfl
  | succ count ih => rw [← ih, List.replicate_succ]; rfl

theorem hexRead (width n : Nat) : hexNumber? (Text.hex true width n) = some n := by
  rw [Text.hex, if_pos rfl, zerosRead]
  induction n using Nat.strongRecOn with
  | ind n ih =>
    rw [Nat.toDigits_eq_if (by decide)]
    split
    · rename_i small
      simp [hexNumber?, digitCharRead small]
    · have below : n / 16 < n := by omega
      have back : 16 * (n / 16) + n % 16 = n := Nat.div_add_mod n 16
      simp [numberSnoc, ih _ below, digitCharRead (Nat.mod_lt n (by decide : 0 < 16)), back]

theorem digitsHex {digits : Text} {vs : List Nat} (values : Digits digits vs) : ∀ c ∈ digits, Engine.isHex c := by
  induction values with
  | nil => exact nofun
  | cons value _ ih => exact List.forall_mem_cons.mpr ⟨by rw [Engine.isHex, value]; rfl, ih⟩

theorem hexDigits (width n : Nat) : ∀ c ∈ Text.hex true width n, Engine.isHex c := by
  obtain ⟨vs, values, _⟩ := numberRead.mp (hexRead width n)
  exact digitsHex values

theorem hexLong (inside : n ≤ lastCodePoint) : (Text.hex true 4 n).length = 4 := by
  have short : (Nat.toDigits 16 n).length ≤ 4 := by
    rw [Nat.length_toDigits_le_iff (by decide) (by decide)]
    exact Nat.lt_succ_of_le inside
  simp only [Text.hex, if_true, List.length_append, List.length_replicate, List.length_map]
  omega

structure Writable (r : Nat × Nat) : Prop where
  first : r.1.isValidChar
  last : r.2.isValidChar
  order : r.1 ≤ r.2
  inside : r.2 ≤ lastCodePoint

theorem membersWritable {s : CodePointSet} (ascend : Ascend 0 s.ranges) : ∀ r ∈ s.members, Writable r := by
  intro r mem
  obtain ⟨order, inside⟩ := ascendEach (membersAscend ascend) mem
  have scalar {n : Nat} (within : Within s.members n) (small : n ≤ lastCodePoint) : n.isValidChar := by
    obtain ⟨_, noSurrogate⟩ := membersWithin.mp within
    simp only [lastCodePoint] at small
    simp only [Nat.isValidChar]
    omega
  exact ⟨scalar ⟨r, mem, Nat.le_refl _, order⟩ (Nat.le_trans order inside), scalar ⟨r, mem, order, Nat.le_refl _⟩ inside,
    order, inside⟩

def charRange (r : Nat × Nat) : Engine.CharSet := .range (Char.ofNat r.1) (Char.ofNat r.2)

theorem charNumber (valid : n.isValidChar) : (Char.ofNat n).toNat = n := by
  rw [Char.ofNat, dif_pos valid]
  rfl

theorem charOrder (writable : Writable r) : Char.ofNat r.1 ≤ Char.ofNat r.2 := by
  have order := writable.order
  rwa [Char.le_def, UInt32.le_iff_toNat_le, Char.toNat_val, Char.toNat_val, charNumber writable.first, charNumber writable.last]

theorem charRangeHas (writable : Writable r) (c : Char) : (charRange r).has c = decide (r.1 ≤ c.toNat ∧ c.toNat ≤ r.2) := by
  simp only [charRange, Engine.CharSet.has, Char.le_def, UInt32.le_iff_toNat_le, Char.toNat_val,
    charNumber writable.first, charNumber writable.last, Bool.decide_and]

end CodePointSet

namespace Engine
open CodePointSet (Writable Within unit renderRange charRange)
variable {n fuel : Nat} {r : Nat × Nat} {rs : List (Nat × Nat)} {t rest : Text}

theorem hexUnitRead (valid : n.isValidChar) (inside : n ≤ CodePointSet.lastCodePoint) (inClass : Bool) (rest : Text) :
    escape? inClass ('u' :: (Text.hex true 4 n ++ rest)) = some (.char (Char.ofNat n) true, rest) := by
  have long := CodePointSet.hexLong inside
  have hex : (Text.hex true 4 n).all isHex := List.all_eq_true.mpr (CodePointSet.hexDigits 4 n)
  have front : (Text.hex true 4 n ++ rest).take 4 = Text.hex true 4 n := List.take_left' long
  have back : (Text.hex true 4 n ++ rest).drop 4 = rest := List.drop_left' long
  have read : hexEscape? 4 (Text.hex true 4 n ++ rest) = some (.char (Char.ofNat n) true, rest) := by
    simp [hexEscape?, front, back, long, hex, codePoint?, CodePointSet.hexRead, valid]
  cases inClass <;> simpa [escape?, isDecimal, assertion?, classLetter?] using read

namespace ClassReader

def rangeMarks (r : Nat × Nat) : List Mark :=
  if r.1 = r.2 then [.char (Char.ofNat r.1)] else [.char (Char.ofNat r.1), .raw '-', .char (Char.ofNat r.2)]

theorem unitMarked (valid : n.isValidChar) (inside : n ≤ CodePointSet.lastCodePoint) :
    marks? (fuel + 1) 0 (unit n ++ rest) = (marks? fuel 0 rest).map fun (ms, rest) => (.char (Char.ofNat n) :: ms, rest) := by
  simp [unit, marks?, hexUnitRead valid inside]

theorem rangeMarked (writable : Writable r) : marks? (fuel + (rangeMarks r).length) 0 (renderRange r ++ rest) =
    (marks? fuel 0 rest).map fun (ms, rest) => (rangeMarks r ++ ms, rest) := by
  have first := writable.first
  have inside := Nat.le_trans writable.order writable.inside
  unfold rangeMarks renderRange
  split
  · exact unitMarked first inside
  · have dash (fuel : Nat) (rest : Text) : marks? (fuel + 1) 0 ('-' :: rest) =
        (marks? fuel 0 rest).map fun (ms, rest) => (.raw '-' :: ms, rest) := by simp [marks?]
    rw [List.append_assoc, List.cons_append, List.length_cons, List.length_cons, List.length_cons, List.length_nil,
      unitMarked first inside, dash, unitMarked writable.last writable.inside]
    simp [Function.comp_def]

theorem bodyMarked (writable : ∀ r ∈ rs, Writable r) :
    marks? (fuel + (rs.flatMap rangeMarks).length) 0 (rs.flatMap renderRange ++ rest) =
      (marks? fuel 0 rest).map fun (ms, rest) => (rs.flatMap rangeMarks ++ ms, rest) := by
  induction rs generalizing fuel with
  | nil => simp
  | cons r rs ih =>
    obtain ⟨first, others⟩ := List.forall_mem_cons.mp writable
    have length : fuel + ((r :: rs).flatMap rangeMarks).length =
        fuel + (rs.flatMap rangeMarks).length + (rangeMarks r).length := by
      rw [List.flatMap_cons, List.length_append]
      omega
    rw [length, List.flatMap_cons, List.append_assoc, rangeMarked first, ih others]
    simp [Function.comp_def]

def including (s : CharSet) (rs : List (Nat × Nat)) : CharSet := rs.foldl (fun s r => .union s (charRange r)) s

theorem includingHas (writable : ∀ r ∈ rs, Writable r) (s : CharSet) (c : Char) :
    (including s rs).has c = (s.has c || decide (Within rs c.toNat)) := by
  induction rs generalizing s with
  | nil => simp [including, Within]
  | cons r rs ih =>
    obtain ⟨first, others⟩ := List.forall_mem_cons.mp writable
    rw [including, List.foldl_cons, ← including, ih others, CharSet.has, CodePointSet.charRangeHas first, Bool.or_assoc,
      ← Bool.decide_or]
    simp only [CodePointSet.withinCons]

theorem includingWeight (s : CharSet) (rs : List (Nat × Nat)) : (including s rs).weight ≤ s.weight + 64 * rs.length := by
  induction rs generalizing s with
  | nil => exact Nat.le_refl _
  | cons r rs ih =>
    have single : (charRange r).weight ≤ 64 := by
      simp only [charRange, CharSet.weight]
      split <;> omega
    have others := ih (.union s (charRange r))
    rw [CharSet.weight] at others
    rw [List.length_cons]
    exact Nat.le_trans others (by omega)

theorem rangeItem (writable : Writable r) {ms : List Mark} (apart : ms.head? ≠ some (.raw '-')) :
    item? (rangeMarks r ++ ms) = some (charRange r, ms) := by
  unfold rangeMarks
  split
  · rename_i same
    have single : charRange r = .single (Char.ofNat r.1) := by rw [charRange, ← same]; rfl
    rw [single]
    rcases ms with _ | ⟨m, ms⟩
    · rfl
    · have apart : m ≠ .raw '-' := by simpa using apart
      simp [item?, apart, Mark.toSet]
  · simp [item?, Mark.char?, CodePointSet.charOrder writable, charRange]

theorem marksStart (r : Nat × Nat) : ∃ tail, rangeMarks r = .char (Char.ofNat r.1) :: tail := by
  unfold rangeMarks
  split <;> exact ⟨_, rfl⟩

theorem bodyStarts (rs : List (Nat × Nat)) (ms : List Mark) {c : Char} (other : c ≠ ']') :
    (rs.flatMap rangeMarks ++ .raw ']' :: ms).head? ≠ some (.raw c) := by
  cases rs with
  | nil => simpa using other.symm
  | cons r rs =>
    obtain ⟨tail, start⟩ := marksStart r
    simp [start]

theorem bodyRead (writable : ∀ r ∈ rs, Writable r) (ignoreCase : Bool) (level : Level) (ms : List Mark) :
    read? ignoreCase (fuel + rs.length) (rs.flatMap rangeMarks ++ .raw ']' :: ms) level [] =
      read? ignoreCase fuel (.raw ']' :: ms) { level with items := including level.items rs } [] := by
  induction rs generalizing level with
  | nil => rfl
  | cons r rs ih =>
    obtain ⟨first, others⟩ := List.forall_mem_cons.mp writable
    have item := rangeItem first (bodyStarts rs ms (by decide : '-' ≠ ']'))
    have step : read? ignoreCase (fuel + rs.length + 1) (rangeMarks r ++ (rs.flatMap rangeMarks ++ .raw ']' :: ms)) level [] =
        read? ignoreCase (fuel + rs.length) (rs.flatMap rangeMarks ++ .raw ']' :: ms) (level.add (charRange r)) [] := by
      obtain ⟨tail, start⟩ := marksStart r
      rw [start, List.cons_append] at item ⊢
      rw [read?, item]
      all_goals simp
    rw [List.length_cons, ← Nat.add_assoc, List.flatMap_cons, List.append_assoc, step, ih others]
    rfl

def listed (negated : Bool) (rs : List (Nat × Nat)) : CharSet := (including .empty rs).underNegation negated

theorem listedHas (writable : ∀ r ∈ rs, Writable r) (negated : Bool) (c : Char) :
    (listed negated rs).has c = (negated != decide (Within rs c.toNat)) := by
  cases negated <;> simp [listed, CharSet.underNegation, CharSet.has, includingHas writable]

theorem listedWeight (negated : Bool) (rs : List (Nat × Nat)) : (listed negated rs).weight ≤ 64 * rs.length + 96 := by
  have light : (including .empty rs).weight ≤ 32 + 64 * rs.length := includingWeight .empty rs
  cases negated <;> simp only [listed, CharSet.underNegation, CharSet.weight, if_true, Bool.false_eq_true, if_false] <;> omega

theorem marksBetween (rs : List (Nat × Nat)) :
    rs.length ≤ (rs.flatMap rangeMarks).length ∧ (rs.flatMap rangeMarks).length ≤ (rs.flatMap renderRange).length := by
  induction rs with
  | nil => exact ⟨Nat.le_refl _, Nat.le_refl _⟩
  | cons r rs ih =>
    have single : 1 ≤ (rangeMarks r).length ∧ (rangeMarks r).length ≤ (renderRange r).length := by
      unfold rangeMarks renderRange
      split
      · simp [unit]
      · simp [unit]
        omega
    simp only [List.flatMap_cons, List.length_append, List.length_cons]
    omega

def listMarks (negated : Bool) (rs : List (Nat × Nat)) : List Mark :=
  (if negated then [.raw '^'] else []) ++ (rs.flatMap rangeMarks ++ [.raw ']'])

theorem listMarked (writable : ∀ r ∈ rs, Writable r) (present : rs ≠ []) (negated : Bool) (rest : Text) :
    openingMarks? (Text.sign negated ++ (rs.flatMap renderRange ++ ']' :: rest)) =
      some (listMarks negated rs, rest) := by
  have closed : marks? ((rs.flatMap renderRange ++ ']' :: rest).length + 1) 0 (rs.flatMap renderRange ++ ']' :: rest) =
      some (rs.flatMap rangeMarks ++ [.raw ']'], rest) := by
    obtain ⟨extra, enough⟩ : ∃ extra, (rs.flatMap renderRange ++ ']' :: rest).length + 1 =
        extra + 1 + (rs.flatMap rangeMarks).length := by
      refine ⟨(rs.flatMap renderRange).length - (rs.flatMap rangeMarks).length + rest.length + 1, ?_⟩
      have := (marksBetween rs).2
      rw [List.length_append, List.length_cons]
      omega
    rw [enough, bodyMarked writable]
    simp [marks?]
  obtain ⟨tail, start⟩ : ∃ tail, rs.flatMap renderRange ++ ']' :: rest = '\\' :: tail := by
    obtain ⟨r, others, rfl⟩ := List.exists_cons_of_ne_nil present
    rw [List.flatMap_cons, renderRange]
    split <;> exact ⟨_, rfl⟩
  rw [start] at closed ⊢
  cases negated
  · exact congrArg (Option.map _) closed
  · exact congrArg (Option.map _) closed

theorem listOpens (present : rs ≠ []) (negated : Bool) :
    openLevel (listMarks negated rs) = ({ negated, items := .empty }, rs.flatMap rangeMarks ++ [.raw ']']) := by
  obtain ⟨r, others, rfl⟩ := List.exists_cons_of_ne_nil present
  obtain ⟨tail, start⟩ := marksStart r
  have noDash : (Mark.char (Char.ofNat r.1) == .raw '-') = false := rfl
  rw [listMarks, List.flatMap_cons, start]
  cases negated <;> simp [openLevel, noDash]

theorem listRead (writable : ∀ r ∈ rs, Writable r) (present : rs ≠ []) (negated : Bool) (rest : Text) :
    class? false (Text.sign negated ++ (rs.flatMap renderRange ++ ']' :: rest)) =
      some (listed negated rs, [], rest) := by
  have body : read? false ((listMarks negated rs).length + 1) (rs.flatMap rangeMarks ++ [.raw ']'])
      { negated, items := .empty } [] = some (listed negated rs, []) := by
    obtain ⟨extra, enough⟩ : ∃ extra, (listMarks negated rs).length + 1 = extra + 1 + rs.length := by
      have long : rs.length ≤ (listMarks negated rs).length := by
        have := (marksBetween rs).1
        simp only [listMarks, List.length_append]
        omega
      exact ⟨(listMarks negated rs).length - rs.length, by omega⟩
    rw [enough, bodyRead writable]
    rfl
  simp [class?, listMarked writable present, listOpens present, body]

theorem anyRead (rest : Text) : class? false ("\\s\\S]".toList ++ rest) =
    some (.union (.union .empty .space) (.complement .space), [], rest) := rfl

end ClassReader

namespace Reader
variable {flags : FlagSet} {s : CharSet}

theorem classTree (caseful : flags.has .ignoreCase = false) (read : ClassReader.class? false t = some (s, [], [])) :
    tree? (flags.openNative ('[' :: t)) = some (.char s, { modes := flags.modes }) := by
  have blank : skip? { modes := flags.modes } ('[' :: t) = some ('[' :: t) := skipsNothing rfl (by simp)
  obtain ⟨limit, fuel, long, opened⟩ := openerRead flags blank rfl
  obtain ⟨fuel, rfl⟩ : ∃ more, fuel = more + 2 := ⟨fuel - 2, by rw [List.length_cons] at long; omega⟩
  have insensitive : flags.modes.ignoreCase = false := caseful
  rw [opened, classRead (by rw [insensitive]; exact read) rfl rfl]
  rfl

theorem neverTree (flags : FlagSet) : tree? (flags.openNative "\\b\\B".toList) =
    some (.seq [.assertion .wordBoundary, .assertion .notWordBoundary], { modes := flags.modes }) := by
  obtain ⟨limit, fuel, long, opened⟩ := openerRead (t := "\\b\\B".toList) flags rfl rfl
  obtain ⟨fuel, rfl⟩ : ∃ more, fuel = more + 5 := ⟨fuel - 5, by simp at long; omega⟩
  rw [opened]
  rfl

end Reader

namespace Program
variable {flags : FlagSet} {s : CharSet}

def ofSet (s : CharSet) : Program := ⟨1, .lockstep #[.one s], 1000000⟩

def never : Program := ⟨1, .trial (.seq [.assertion .wordBoundary, .assertion .notWordBoundary]) 0, 1000000⟩

theorem classBuilds (caseful : flags.has .ignoreCase = false) (read : ClassReader.class? false t = some (s, [], []))
    (light : s.weight ≤ defaultCodeLimit) : build? {} (flags.openNative ('[' :: t)) = some (ofSet s) := by
  have easy : Plan.Setting.isEasy ⟨[], defaultCodeLimit⟩ (.char s) = true := rfl
  have code : Plan.Setting.code? ⟨[], defaultCodeLimit⟩ (.char s) = some #[.one s] := by
    simp [Plan.Setting.code?, Code.isBounded, Code.weight, light, Code.ofNode]
  simp only [build?, Reader.classTree caseful read, Option.bind_eq_bind, Option.bind_some, Option.getD_none, easy, if_true, code]
  rfl

theorem neverBuilds (flags : FlagSet) : build? {} (flags.openNative "\\b\\B".toList) = some never := by
  have hard : Plan.Setting.isEasy ⟨[], defaultCodeLimit⟩ (.seq [.assertion .wordBoundary, .assertion .notWordBoundary]) = false := rfl
  have parts : Plan.Setting.partition ⟨[], defaultCodeLimit⟩ true [.assertion .wordBoundary, .assertion .notWordBoundary] =
      ([], [.assertion .wordBoundary, .assertion .notWordBoundary], []) := rfl
  have plan (depth : Nat) : Plan.ofNode ⟨[], defaultCodeLimit⟩ (depth + 2) true
      (.seq [.assertion .wordBoundary, .assertion .notWordBoundary]) 0 =
        some (.seq [.assertion .wordBoundary, .assertion .notWordBoundary], 0) := by
    simp [Plan.ofNode, Plan.ofNode.all, parts, Plan.Setting.delegate?]
  simp only [build?, Reader.neverTree, Option.bind_eq_bind, Option.bind_some, Option.getD_none, hard, Bool.false_eq_true, if_false,
    plan]
  rfl

def Tells (p : Program) (told : Char → Bool) : Prop := ∀ c, (p.search [c] 0).map Option.isSome = .ok (told c)

theorem Tells.same {p : Program} {told told' : Char → Bool} (tells : p.Tells told) (same : ∀ c, told c = told' c) :
    p.Tells told' :=
  fun c => same c ▸ tells c

theorem setTells (s : CharSet) : (ofSet s).Tells s.has := by
  intro c
  have here : Cursor.ofOffset [c] 0 = ⟨[], [c], 0⟩ := rfl
  simp only [ofSet, search, here, scan, Lockstep.runOne]
  cases s.has c <;> rfl

theorem neverTells : never.Tells fun _ => false := by
  have fails (f : Backtrack.Frame) (s : Backtrack.State) (budget : Nat) :
      Backtrack.run f (.capture 0 (.seq [.assertion .wordBoundary, .assertion .notWordBoundary])) s budget .found = .failed budget := by
    rw [Backtrack.runCapture, Backtrack.runPair]
    cases bound : s.here.satisfies .wordBoundary <;>
      simp_all [Backtrack.run, Backtrack.State.mark, Cursor.satisfies]
  intro c
  have here : Cursor.ofOffset [c] 0 = ⟨[], [c], 0⟩ := rfl
  simp only [never, search, here, Backtrack.search, fails]
  rfl

end Program
end Engine

namespace CodePointSet
open Engine (Program ClassReader.listed)
variable {s : CodePointSet} {flags : FlagSet}

theorem bodyEmpty : s.classBody = [] ↔ s.members = [] := by
  have written (r : Nat × Nat) : renderRange r ≠ [] := by
    unfold renderRange
    split <;> simp [unit]
  rw [classBody, ← members]
  cases s.members <;> simp [written]

theorem charsListed (s : CodePointSet) (c : Char) : Within s.members c.toNat ↔ Within s.ranges c.toNat := by
  have scalar : c.toNat.isValidChar := c.valid
  refine membersWithin.trans (and_iff_left ?_)
  simp only [Nat.isValidChar] at scalar
  omega

theorem bodyTells (ascend : Ascend 0 s.ranges) (present : s.classBody ≠ []) (caseful : flags.has .ignoreCase = false)
    (negated : Bool) :
    ∃ program, Program.build? {} (flags.openNative (Text.classText negated s.classBody)) = some program ∧
      program.Tells fun c => negated != decide (Within s.ranges c.toNat) := by
  have writable := membersWritable ascend
  have few : s.members.length + 0 ≤ lastCodePoint + 1 := ascendFew (membersAscend ascend) (Nat.zero_le _)
  have light : (ClassReader.listed negated s.members).weight ≤ Program.defaultCodeLimit := by
    have weight := Engine.ClassReader.listedWeight negated s.members
    simp only [lastCodePoint, Program.defaultCodeLimit] at few ⊢
    omega
  have read := Engine.ClassReader.listRead writable (mt bodyEmpty.mpr present) negated []
  refine ⟨_, Program.classBuilds caseful read light, ?_⟩
  refine (Program.setTells _).same fun c => ?_
  rw [Engine.ClassReader.listedHas writable, decide_eq_decide.mpr (charsListed s c)]

end CodePointSet

namespace UnicodeNames
open CodePointSet (Ascend Within)
open Engine (Program)
variable {s : CodePointSet} {flags : FlagSet}

theorem outsideTells (ascend : Ascend 0 s.ranges) (caseful : flags.has .ignoreCase = false) (inverted : Bool) :
    ∃ program, Program.build? {} (flags.openNative (nativeText s inverted .outside)) = some program ∧
      program.Tells fun c => inverted != decide (Within s.ranges c.toNat) := by
  by_cases empty : s.classBody = []
  · have outside (c : Char) : ¬ Within s.ranges c.toNat := by
      rw [← CodePointSet.charsListed, CodePointSet.bodyEmpty.mp empty]
      simp [Within]
    cases inverted with
    | false =>
      have text : nativeText s false .outside = "\\b\\B".toList := by simp [nativeText, empty]
      rw [text]
      exact ⟨_, Program.neverBuilds flags, Program.neverTells.same fun c => by simp [outside c]⟩
    | true =>
      have text : nativeText s true .outside = '[' :: "\\s\\S]".toList := by simp [nativeText, empty]
      rw [text]
      refine ⟨_, Program.classBuilds caseful (Engine.ClassReader.anyRead []) (by decide), ?_⟩
      refine (Program.setTells _).same fun c => ?_
      simp [Engine.CharSet.has, outside c]
  · have tells := CodePointSet.bodyTells ascend empty caseful inverted
    have text : nativeText s inverted .outside = Text.classText inverted s.classBody := by
      cases inverted <;> simp [nativeText, empty, Text.classText, Text.sign]
    rwa [text]

end UnicodeNames
end ExtendedPattern
