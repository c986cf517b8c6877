import ExtendedPattern.Replace
import Mathlib.Data.List.Infix
import Mathlib.Data.List.Forall2
import Mathlib.Data.List.TakeWhile

/-! Templates and the table of their tokens. A template is read from left to right in one way, and what
stands for it is put together from what the table says of each piece. The zero in front of a digit that
numbers no group gets lost; all else stays as it is written. -/
namespace ExtendedPattern.Template

structure Number (digits rest : Text) : Prop where
  decimal : ∀ c ∈ digits, Engine.isDecimal c
  length : digits.length = 2 ∨ digits.length = 1 ∧ ∀ c ∈ rest.head?, Engine.isDecimal c = false

structure Name (name : Text) : Prop where
  present : name ≠ []
  allowed : ∀ c ∈ name, isNameChar c

structure Lone (t : Text) : Prop where
  sign : ∀ c ∈ t.head?, c ∉ ['$', '&', '\x60', '\x27'] ∧ Engine.isDecimal c = false
  braces : ∀ name rest, Name name → t ≠ '{' :: (name ++ '}' :: rest)

/-- The token whose dollar sign stands in front of a text, and what follows it. -/
inductive Token : Text → Piece → Text → Prop where
  | dollar (rest) : Token ('$' :: rest) .dollar rest
  | whole (rest) : Token ('&' :: rest) .whole rest
  | before (rest) : Token ('\x60' :: rest) .before rest
  | after (rest) : Token ('\x27' :: rest) .after rest
  | numbered {digits rest} (number : Number digits rest) : Token (digits ++ rest) (.numbered digits) rest
  | braced {name} (rest) (named : Name name) : Token ('{' :: (name ++ '}' :: rest)) (.braced name) rest
  | lone {rest} (none : Lone rest) : Token rest (.text ['$']) rest

inductive Reading : Text → List Piece → Prop where
  | done : Reading [] []
  | copied {c rest ps} (plain : c ≠ '$') (more : Reading rest ps) : Reading (c :: rest) (.text [c] :: ps)
  | token {t piece rest ps} (read : Token t piece rest) (more : Reading rest ps) : Reading ('$' :: t) (piece :: ps)

def written : Piece → Text
  | .text t => t
  | .dollar => ['$', '$']
  | .whole => ['$', '&']
  | .before => ['$', '\x60']
  | .after => ['$', '\x27']
  | .numbered digits => '$' :: digits
  | .braced name => '$' :: '{' :: (name ++ ['}'])

def NumbersGroup (m : Match) (digits : Text) : Prop := 0 < value digits ∧ value digits < m.groupCount

structure Longest (m : Match) (digits kept : Text) : Prop where
  starts : kept <+: digits
  numbers : NumbersGroup m kept
  longest : ∀ other, other <+: digits → NumbersGroup m other → other.length ≤ kept.length

def FirstNamed (m : Match) (name : Text) (slot : Nat) : Prop :=
  ∃ names, m.names = some names ∧ names[slot]? = some (some name) ∧
    ∀ earlier, earlier < slot → names[earlier]? ≠ some (some name)

def NumberInBraces (m : Match) (name : Text) : Prop := (∀ c ∈ name, Engine.isDecimal c) ∧ value name < m.groupCount

inductive Means (m : Match) (unresolved : Text → Text) : Piece → Text → Prop where
  | text (t) : Means m unresolved (.text t) t
  | dollar : Means m unresolved .dollar ['$']
  | whole : Means m unresolved .whole m.text
  | before : Means m unresolved .before m.before
  | after : Means m unresolved .after m.after
  | numbered {kept dropped} (longest : Longest m (kept ++ dropped) kept) :
      Means m unresolved (.numbered (kept ++ dropped)) (groupText m (value kept) ++ dropped)
  | unnumbered {digits} (none : ∀ kept, kept <+: digits → ¬ NumbersGroup m kept) :
      Means m unresolved (.numbered digits) (unresolved digits)
  | bracedNumber {name} (number : NumberInBraces m name) :
      Means m unresolved (.braced name) (groupText m (value name))
  | bracedName {name slot} (other : ¬ NumberInBraces m name) (named : FirstNamed m name slot) :
      Means m unresolved (.braced name) (groupText m (slot + 1))
  | bracedUnknown {name} (other : ¬ NumberInBraces m name) (unknown : ∀ slot, ¬ FirstNamed m name slot) :
      Means m unresolved (.braced name) (written (.braced name))

def Stands (m : Match) (unresolved : Text → Text) (template out : Text) : Prop :=
  ∃ ps outs, Reading template ps ∧ List.Forall₂ (Means m unresolved) ps outs ∧ out = outs.flatten

def asWritten (digits : Text) : Text := '$' :: digits

def withoutZeros (digits : Text) : Text :=
  '$' :: if value digits = 0 then digits else digits.dropWhile (· == '0')

/-! ### Reading -/

theorem piecesBehind (skip : Nat) (t : Text) : pieces skip t = pieces 0 (t.drop skip) := by
  induction t generalizing skip with
  | nil => cases skip <;> rfl
  | cons c rest ih =>
    cases skip with
    | zero => rfl
    | succ skip => rw [pieces, List.drop_succ_cons, ih]

theorem piecesCopied {c : Char} (rest : Text) (plain : c ≠ '$') : pieces 0 (c :: rest) = .text [c] :: pieces 0 rest := by
  rw [pieces]
  exact plain

theorem piecesToken (t : Text) : pieces 0 ('$' :: t) = (token t).1 :: pieces 0 (t.drop (token t).2) := by
  rw [pieces, ← piecesBehind]

theorem digitsRead {digits rest : Text} (number : Number digits rest) :
    ((digits ++ rest).take 2).takeWhile Engine.isDecimal = digits := by
  rcases number.length with two | ⟨one, ends⟩
  · rw [List.take_append_of_le_length (Nat.le_of_eq two.symm), List.take_of_length_le (Nat.le_of_eq two)]
    exact List.takeWhile_eq_self_iff.mpr number.decimal
  · obtain ⟨d, rfl⟩ := List.length_eq_one_iff.mp one
    have decimal := number.decimal d List.mem_cons_self
    cases rest with
    | nil => simp [decimal]
    | cons c rest =>
      have stop := ends c rfl
      simp [decimal, stop]

theorem nameRead {name : Text} (named : Name name) (rest : Text) :
    (name ++ '}' :: rest).takeWhile isNameChar = name := by
  rw [List.takeWhile_append_of_pos named.allowed, List.takeWhile_cons_of_neg (by decide), List.append_nil]

theorem tokenOfBraces {name : Text} (named : Name name) (rest : Text) :
    token ('{' :: (name ++ '}' :: rest)) = (.braced name, name.length + 2) := by
  simp [token, nameRead named, named.present]

theorem tokenOfOther {c : Char} {t : Text} (other : c ∉ ['$', '&', '\x60', '\x27', '{']) :
    token (c :: t) = if ((c :: t).take 2).takeWhile Engine.isDecimal = [] then (.text ['$'], 0)
      else (.numbered (((c :: t).take 2).takeWhile Engine.isDecimal),
        (((c :: t).take 2).takeWhile Engine.isDecimal).length) := by
  unfold token
  split <;> first | rfl | simp_all

theorem notDecimal {c : Char} (sign : c ∈ ['$', '&', '\x60', '\x27', '{']) : Engine.isDecimal c = false := by
  simp only [List.mem_cons, List.not_mem_nil, or_false] at sign
  rcases sign with rfl | rfl | rfl | rfl | rfl <;> rfl

theorem tokenOfNumber {digits rest : Text} (number : Number digits rest) :
    token (digits ++ rest) = (.numbered digits, digits.length) := by
  have read := digitsRead number
  cases digits with
  | nil => rcases number.length with two | ⟨one, _⟩ <;> contradiction
  | cons d digits =>
    have decimal := number.decimal d List.mem_cons_self
    have other : d ∉ ['$', '&', '\x60', '\x27', '{'] := fun sign => by
      rw [notDecimal sign] at decimal
      contradiction
    rw [List.cons_append] at read ⊢
    rw [tokenOfOther other, read]
    rfl

theorem bracesClose {t : Text} (close : t[(t.takeWhile isNameChar).length]? = some '}') :
    ∃ rest, t = t.takeWhile isNameChar ++ '}' :: rest := by
  have parts := List.takeWhile_append_dropWhile (p := isNameChar) (l := t)
  generalize t.takeWhile isNameChar = name at parts close ⊢
  generalize t.dropWhile isNameChar = behind at parts
  subst parts
  rw [List.getElem?_append_right (Nat.le_refl _), Nat.sub_self] at close
  cases behind with
  | nil => contradiction
  | cons c rest =>
    cases close
    exact ⟨rest, rfl⟩

theorem nameTaken {t : Text} (present : t.takeWhile isNameChar ≠ []) : Name (t.takeWhile isNameChar) :=
  ⟨present, fun _ mem => List.mem_takeWhile_imp mem⟩

theorem tokenOfLone {t : Text} (none : Lone t) : token t = (.text ['$'], 0) := by
  cases t with
  | nil => rfl
  | cons c t =>
    obtain ⟨sign, decimal⟩ := none.sign c rfl
    by_cases brace : c = '{'
    · subst brace
      have open_ : ¬ (t.takeWhile isNameChar ≠ [] ∧ t[(t.takeWhile isNameChar).length]? = some '}') := by
        rintro ⟨present, close⟩
        obtain ⟨rest, same⟩ := bracesClose close
        exact none.braces _ rest (nameTaken present) (congrArg ('{' :: ·) same)
      simp only [token, if_neg open_]
    · have other : c ∉ ['$', '&', '\x60', '\x27', '{'] := by
        simp only [List.mem_cons, List.not_mem_nil, or_false, not_or] at sign ⊢
        exact ⟨sign.1, sign.2.1, sign.2.2.1, sign.2.2.2, brace⟩
      rw [tokenOfOther other]
      simp [decimal]

theorem tokenRead {t rest : Text} {piece : Piece} (read : Token t piece rest) :
    (token t).1 = piece ∧ t.drop (token t).2 = rest := by
  cases read with
  | dollar => exact ⟨rfl, rfl⟩
  | whole => exact ⟨rfl, rfl⟩
  | before => exact ⟨rfl, rfl⟩
  | after => exact ⟨rfl, rfl⟩
  | numbered number =>
    rw [tokenOfNumber number]
    exact ⟨rfl, List.drop_left⟩
  | braced rest named =>
    rw [tokenOfBraces named]
    exact ⟨rfl, by simp⟩
  | lone none =>
    rw [tokenOfLone none]
    exact ⟨rfl, rfl⟩

theorem numberTaken {c : Char} (t : Text) (decimal : Engine.isDecimal c) :
    ∃ digits rest, c :: t = digits ++ rest ∧ Number digits rest := by
  cases t with
  | nil => exact ⟨[c], [], rfl, by simpa using decimal, .inr ⟨rfl, by simp⟩⟩
  | cons d t =>
    cases second : Engine.isDecimal d with
    | true => exact ⟨[c, d], t, rfl, by simp [decimal, second], .inl rfl⟩
    | false => exact ⟨[c], d :: t, rfl, by simpa using decimal, .inr ⟨rfl, by simpa using second⟩⟩

theorem otherReads {c : Char} {t : Text} (other : c ∉ ['$', '&', '\x60', '\x27', '{']) :
    Token (c :: t) (token (c :: t)).1 ((c :: t).drop (token (c :: t)).2) := by
  cases decimal : Engine.isDecimal c with
  | true =>
    obtain ⟨digits, rest, same, number⟩ := numberTaken t decimal
    rw [same, tokenOfNumber number, List.drop_left]
    exact .numbered number
  | false =>
    have none : Lone (c :: t) := by
      refine ⟨?_, ?_⟩
      · rintro d ⟨⟩
        simp only [List.mem_cons, List.not_mem_nil, or_false, not_or] at other ⊢
        exact ⟨⟨other.1, other.2.1, other.2.2.1, other.2.2.2.1⟩, decimal⟩
      · rintro name rest _ same
        cases same
        simp at other
    rw [tokenOfLone none]
    exact .lone none

theorem tokenReads (t : Text) : Token t (token t).1 (t.drop (token t).2) := by
  rcases t with _ | ⟨c, t⟩
  · exact .lone ⟨by simp, by simp⟩
  by_cases other : c ∉ ['$', '&', '\x60', '\x27', '{']
  · exact otherReads other
  simp only [List.mem_cons, List.not_mem_nil, or_false, not_not] at other
  rcases other with rfl | rfl | rfl | rfl | rfl
  · exact .dollar t
  · exact .whole t
  · exact .before t
  · exact .after t
  by_cases closed : t.takeWhile isNameChar ≠ [] ∧ t[(t.takeWhile isNameChar).length]? = some '}'
  · obtain ⟨rest, same⟩ := bracesClose closed.2
    have named := nameTaken closed.1
    generalize t.takeWhile isNameChar = name at same named
    subst same
    rw [tokenOfBraces named]
    simpa using Token.braced rest named
  · have sign : token ('{' :: t) = (.text ['$'], 0) := by simp only [token, if_neg closed]
    rw [sign]
    refine .lone ⟨?_, ?_⟩
    · rintro c ⟨⟩
      decide
    · rintro name rest named same
      cases same
      rw [nameRead named] at closed
      exact closed ⟨named.present, by simp⟩

theorem readsPieces (t : Text) (skip : Nat) : Reading (t.drop skip) (pieces skip t) := by
  induction t generalizing skip with
  | nil => cases skip <;> exact .done
  | cons c rest ih =>
    cases skip with
    | succ skip => exact ih skip
    | zero =>
      by_cases sign : c = '$'
      · subst sign
        exact .token (tokenReads rest) (ih (token rest).2)
      · rw [piecesCopied rest sign]
        exact .copied sign (ih 0)

theorem readingIff {t : Text} {ps : List Piece} : Reading t ps ↔ ps = pieces 0 t := by
  constructor
  · intro reading
    induction reading with
    | done => rfl
    | copied plain _ ih => rw [piecesCopied _ plain, ih]
    | token read _ ih =>
      obtain ⟨piece, rest⟩ := tokenRead read
      rw [piecesToken, piece, rest, ih]
  · intro same
    subst same
    exact readsPieces t 0

theorem tokenWritten {t rest : Text} {piece : Piece} (read : Token t piece rest) : written piece ++ rest = '$' :: t := by
  cases read <;> simp [written]

theorem readingWritten {t : Text} {ps : List Piece} (reading : Reading t ps) : ps.flatMap written = t := by
  induction reading with
  | done => rfl
  | copied _ _ ih => rw [List.flatMap_cons, ih]; rfl
  | token read _ ih => rw [List.flatMap_cons, ih, tokenWritten read]

/-! ### Numbers -/

theorem valueAppend (front back : Text) : value front ≤ value (front ++ back) := by
  have grows : ∀ n, n ≤ back.foldl (fun n c => 10 * n + (c.toNat - '0'.toNat)) n := by
    induction back with
    | nil => intro n; exact Nat.le_refl n
    | cons c back ih =>
      intro n
      have later := ih (10 * n + (c.toNat - '0'.toNat))
      rw [List.foldl_cons]
      omega
  rw [value, value, List.foldl_append]
  exact grows _

theorem valueStart {front digits : Text} (starts : front <+: digits) : value front ≤ value digits := by
  obtain ⟨back, same⟩ := starts
  rw [← same]
  exact valueAppend front back

theorem fitStarts (groups : Nat) (digits : Text) (n : Nat) : fitDigits groups digits n <+: digits := by
  induction n with
  | zero => exact List.nil_prefix
  | succ n ih =>
    rw [fitDigits]
    split
    · exact List.take_prefix _ _
    · exact ih

theorem fitWithin (groups : Nat) (digits : Text) (n : Nat) : value (fitDigits groups digits n) ≤ groups := by
  induction n with
  | zero => exact Nat.zero_le groups
  | succ n ih =>
    rw [fitDigits]
    split
    · assumption
    · exact ih

theorem fitLongest {groups : Nat} {digits other : Text} {n : Nat} (starts : other <+: digits) (short : other.length ≤ n)
    (within : value other ≤ groups) : other.length ≤ (fitDigits groups digits n).length := by
  induction n with
  | zero => exact short
  | succ n ih =>
    have bound := starts.length_le
    rw [fitDigits]
    split
    · rw [List.length_take]
      omega
    · rename_i beyond
      have apart : other.length ≠ n + 1 := by
        intro same
        rw [← same, ← List.prefix_iff_eq_take.mp starts] at beyond
        exact beyond within
      exact ih (by omega)

def fit (m : Match) (digits : Text) : Text := fitDigits (m.groupCount - 1) digits digits.length

section
variable {m : Match} {digits other : Text}

theorem fitHolds (starts : other <+: digits) (numbers : NumbersGroup m other) : other <+: fit m digits := by
  have within : value other ≤ m.groupCount - 1 := Nat.le_sub_one_of_lt numbers.2
  exact List.prefix_of_prefix_length_le starts (fitStarts _ digits _) (fitLongest starts starts.length_le within)

theorem fitNumbers (positive : 0 < value (fit m digits)) : NumbersGroup m (fit m digits) := by
  have within : value (fit m digits) ≤ m.groupCount - 1 := fitWithin _ digits _
  exact ⟨positive, by omega⟩

theorem fitIsLongest (positive : 0 < value (fit m digits)) : Longest m digits (fit m digits) where
  starts := fitStarts _ digits _
  numbers := fitNumbers positive
  longest _ starts numbers := (fitHolds starts numbers).length_le

theorem longestIsFit (longest : Longest m digits other) : other = fit m digits := by
  have held := fitHolds longest.starts longest.numbers
  have positive : 0 < value (fit m digits) := Nat.lt_of_lt_of_le longest.numbers.1 (valueStart held)
  have back := longest.longest _ (fitStarts _ digits _) (fitNumbers positive)
  exact held.eq_of_length_le back

theorem fitNumbersNone : value (fit m digits) = 0 ↔ ∀ kept, kept <+: digits → ¬ NumbersGroup m kept := by
  constructor
  · intro none kept starts numbers
    have low := valueStart (fitHolds starts numbers)
    have positive := numbers.1
    omega
  · intro none
    by_contra some
    exact none _ (fitStarts _ digits _) (fitNumbers (Nat.pos_of_ne_zero some))

end

/-! ### Meaning -/

theorem firstNamedIff {m : Match} {name : Text} {slot : Nat} :
    FirstNamed m name slot ↔ m.nameIndex? name = some (slot + 1) := by
  cases named : m.names with
  | none => simp [FirstNamed, Match.nameIndex?, named]
  | some names =>
    simp only [FirstNamed, Match.nameIndex?, named, Option.some.injEq, exists_eq_left', Option.bind_some,
      Option.map_eq_some_iff, Nat.add_right_cancel_iff, exists_eq_right, List.findIdx?_eq_some_iff_getElem, beq_iff_eq]
    constructor
    · rintro ⟨here, before⟩
      obtain ⟨inside, same⟩ := List.getElem?_eq_some_iff.mp here
      refine ⟨inside, same, fun earlier first same => before earlier first ?_⟩
      exact List.getElem?_eq_some_iff.mpr ⟨_, same⟩
    · rintro ⟨inside, same, before⟩
      refine ⟨List.getElem?_eq_some_iff.mpr ⟨inside, same⟩, fun earlier first here => ?_⟩
      obtain ⟨_, same⟩ := List.getElem?_eq_some_iff.mp here
      exact before earlier first same

theorem namedFirst {m : Match} {name : Text} {index : Nat} (named : m.nameIndex? name = some index) :
    ∃ slot, index = slot + 1 ∧ FirstNamed m name slot := by
  obtain ⟨names, _, found⟩ := Option.bind_eq_some_iff.mp named
  obtain ⟨slot, _, same⟩ := Option.map_eq_some_iff.mp found
  exact ⟨slot, same.symm, firstNamedIff.mpr (same ▸ named)⟩

def render (m : Match) (unresolved : Text → Text) : Piece → Text
  | .numbered digits =>
    if value (fit m digits) = 0 then unresolved digits
    else groupText m (value (fit m digits)) ++ digits.drop (fit m digits).length
  | piece => expandPiece m piece

section
variable {m : Match} {unresolved : Text → Text}

theorem numberedMeans {digits out : Text} :
    Means m unresolved (.numbered digits) out ↔ out = render m unresolved (.numbered digits) := by
  rw [render]
  constructor
  · intro means
    cases means with
    | @numbered kept dropped longest =>
      have same := longestIsFit longest
      have positive : value (fit m (kept ++ dropped)) ≠ 0 := same ▸ Nat.ne_of_gt longest.numbers.1
      rw [if_neg positive, ← same, List.drop_left]
    | unnumbered none => rw [if_pos (fitNumbersNone.mpr none)]
  · intro same
    subst same
    split
    · rename_i none
      exact .unnumbered (fitNumbersNone.mp none)
    · rename_i some
      have longest := fitIsLongest (Nat.pos_of_ne_zero some)
      obtain ⟨dropped, same⟩ := longest.starts
      generalize fit m digits = kept at longest same
      subst same
      rw [List.drop_left]
      exact .numbered longest

theorem renderBraced (name : Text) : render m unresolved (.braced name) = expandBraced m name := rfl

theorem bracedMeans {name out : Text} :
    Means m unresolved (.braced name) out ↔ out = render m unresolved (.braced name) := by
  have number : NumberInBraces m name ↔ name.all Engine.isDecimal ∧ value name < m.groupCount := by
    rw [NumberInBraces, List.all_eq_true]
  constructor
  · intro means
    rw [renderBraced, expandBraced]
    cases means with
    | bracedNumber inside => rw [if_pos (number.mp inside)]
    | bracedName other named => rw [if_neg (mt number.mpr other), firstNamedIff.mp named]
    | bracedUnknown other unknown =>
      rw [if_neg (mt number.mpr other)]
      split
      · rename_i named
        obtain ⟨slot, _, first⟩ := namedFirst named
        exact absurd first (unknown slot)
      · rfl
  · intro same
    rw [renderBraced, expandBraced] at same
    subst same
    split
    · rename_i inside
      exact .bracedNumber (number.mpr inside)
    · rename_i other
      split
      · rename_i named
        obtain ⟨slot, rfl, first⟩ := namedFirst named
        exact .bracedName (mt number.mp other) first
      · rename_i none
        refine .bracedUnknown (mt number.mp other) fun slot first => ?_
        rw [firstNamedIff.mp first] at none
        contradiction

theorem pieceMeans {piece : Piece} {out : Text} : Means m unresolved piece out ↔ out = render m unresolved piece := by
  cases piece with
  | numbered digits => exact numberedMeans
  | braced name => exact bracedMeans
  | text t => exact ⟨fun means => by cases means; rfl, fun same => same ▸ .text t⟩
  | dollar => exact ⟨fun means => by cases means; rfl, fun same => same ▸ .dollar⟩
  | whole => exact ⟨fun means => by cases means; rfl, fun same => same ▸ .whole⟩
  | before => exact ⟨fun means => by cases means; rfl, fun same => same ▸ .before⟩
  | after => exact ⟨fun means => by cases means; rfl, fun same => same ▸ .after⟩

theorem piecesMean {ps : List Piece} {outs : List Text} :
    List.Forall₂ (Means m unresolved) ps outs ↔ outs = ps.map (render m unresolved) := by
  induction ps generalizing outs with
  | nil => simp
  | cons p ps ih =>
    rw [List.forall₂_cons_left_iff, List.map_cons]
    constructor
    · rintro ⟨out, rest, means, more, rfl⟩
      rw [pieceMeans.mp means, ih.mp more]
    · rintro rfl
      exact ⟨_, _, pieceMeans.mpr rfl, ih.mpr rfl, rfl⟩

theorem standsIff {template out : Text} :
    Stands m unresolved template out ↔ out = (pieces 0 template).flatMap (render m unresolved) := by
  rw [List.flatMap_def]
  constructor
  · rintro ⟨ps, outs, reading, means, rfl⟩
    rw [piecesMean.mp means, readingIff.mp reading]
  · rintro rfl
    exact ⟨_, _, readingIff.mpr rfl, piecesMean.mpr rfl, rfl⟩

end

/-! ### Zeros in front -/

theorem valueBehindZeros {zeros : Text} (zero : ∀ c ∈ zeros, c = '0') (digits : Text) :
    value (zeros ++ digits) = value digits := by
  induction zeros with
  | nil => rfl
  | cons c zeros ih =>
    obtain ⟨rfl, others⟩ := List.forall_mem_cons.mp zero
    exact ih others

theorem valueOfZeros {zeros : Text} (zero : ∀ c ∈ zeros, c = '0') : value zeros = 0 := by
  have number := valueBehindZeros zero []
  rwa [List.append_nil] at number

theorem zerosInFront (digits : Text) : (∀ c ∈ digits, c = '0') ∨
    ∃ zeros d rest, digits = zeros ++ d :: rest ∧ (∀ c ∈ zeros, c = '0') ∧ d ≠ '0' := by
  induction digits with
  | nil => exact .inl (by simp)
  | cons c digits ih =>
    by_cases zero : c = '0'
    · rcases ih with all | ⟨zeros, d, rest, rfl, all, other⟩
      · exact .inl (List.forall_mem_cons.mpr ⟨zero, all⟩)
      · exact .inr ⟨c :: zeros, d, rest, rfl, List.forall_mem_cons.mpr ⟨zero, all⟩, other⟩
    · exact .inr ⟨[], c, digits, rfl, by simp, zero⟩

theorem valuePositive {d : Char} (decimal : Engine.isDecimal d) (other : d ≠ '0') : 0 < value [d] := by
  simp only [Engine.isDecimal, Bool.and_eq_true, decide_eq_true_eq] at decimal
  have low : '0'.toNat ≤ d.toNat := decimal.1
  have apart : '0'.toNat ≠ d.toNat := fun same => other (Char.toNat_inj.mp same).symm
  simp only [value, List.foldl_cons, List.foldl_nil]
  omega

theorem fitOfZeros {m : Match} {zeros rest : Text} {d : Char} (zero : ∀ c ∈ zeros, c = '0') (other : d ≠ '0')
    (decimal : Engine.isDecimal d) (none : value (fit m (zeros ++ d :: rest)) = 0) :
    fit m (zeros ++ d :: rest) = zeros := by
  have within : value zeros ≤ m.groupCount - 1 := by
    rw [valueOfZeros zero]
    exact Nat.zero_le _
  have starts : zeros <+: zeros ++ d :: rest := List.prefix_append _ _
  have holds : zeros <+: fit m (zeros ++ d :: rest) :=
    List.prefix_of_prefix_length_le starts (fitStarts _ _ _) (fitLongest starts starts.length_le within)
  obtain ⟨more, same⟩ := holds
  obtain ⟨behind, whole⟩ := fitStarts (m.groupCount - 1) (zeros ++ d :: rest) (zeros ++ d :: rest).length
  change fit m (zeros ++ d :: rest) ++ behind = _ at whole
  rw [← same] at none whole ⊢
  cases more with
  | nil => exact List.append_nil zeros
  | cons e more =>
    rw [List.append_assoc] at whole
    cases List.append_cancel_left whole
    rw [valueBehindZeros zero] at none
    have positive := valuePositive decimal other
    have grows := valueAppend [d] more
    rw [List.singleton_append, none] at grows
    omega

theorem expandNumberedFit (m : Match) (digits : Text) : expandNumbered m digits =
    if value digits = 0 then '$' :: digits
    else (if value (fit m digits) = 0 then ['$'] else groupText m (value (fit m digits))) ++
      digits.drop (fit m digits).length := rfl

theorem renderExpands {m : Match} {digits : Text} (decimal : ∀ c ∈ digits, Engine.isDecimal c) :
    expandNumbered m digits = render m withoutZeros (.numbered digits) := by
  rw [expandNumberedFit, render, withoutZeros]
  rcases zerosInFront digits with all | ⟨zeros, d, rest, rfl, zero, other⟩
  · have number := valueOfZeros all
    have none : value (fit m digits) = 0 :=
      Nat.le_zero.mp (number ▸ valueStart (fitStarts (m.groupCount - 1) digits digits.length))
    rw [if_pos number, if_pos none, if_pos number]
  · have digit := decimal d (by simp)
    have positive : value (zeros ++ d :: rest) ≠ 0 := by
      have grows := valueAppend [d] rest
      have first := valuePositive digit other
      rw [valueBehindZeros zero]
      rw [List.singleton_append] at grows
      omega
    rw [if_neg positive]
    by_cases none : value (fit m (zeros ++ d :: rest)) = 0
    · rw [if_pos none, if_pos none, if_neg positive, fitOfZeros zero other digit none, List.drop_left,
        List.dropWhile_append_of_pos (by simpa using zero), List.dropWhile_cons_of_neg (by simpa using other)]
      rfl
    · rw [if_neg none, if_neg none]

theorem readingNumbers {t digits : Text} {ps : List Piece} (reading : Reading t ps) (mem : .numbered digits ∈ ps) :
    ∃ rest, Number digits rest := by
  induction reading with
  | done => contradiction
  | copied _ _ ih =>
    rcases List.mem_cons.mp mem with same | later
    · contradiction
    · exact ih later
  | token read _ ih =>
    rcases List.mem_cons.mp mem with same | later
    · subst same
      cases read with
      | numbered number => exact ⟨_, number⟩
    · exact ih later

theorem expandRenders (m : Match) (template : Text) :
    expand template m = (pieces 0 template).flatMap (render m withoutZeros) := by
  rw [expand]
  refine List.flatMap_congr fun piece mem => ?_
  cases piece with
  | numbered digits =>
    obtain ⟨_, number⟩ := readingNumbers (readingIff.mpr rfl) mem
    exact renderExpands number.decimal
  | _ => rfl

/-- A zero in front of a digit that numbers no group. -/
def LosesZero (m : Match) (piece : Piece) : Prop :=
  ∃ d, piece = .numbered ['0', d] ∧ d ≠ '0' ∧ m.groupCount ≤ value [d]

theorem flatMapShrinks {α β : Type} {f g : α → List β} {ps : List α} (short : ∀ p ∈ ps, (f p).length ≤ (g p).length) :
    (ps.flatMap f).length ≤ (ps.flatMap g).length := by
  induction ps with
  | nil => exact Nat.le_refl 0
  | cons p ps ih =>
    obtain ⟨here, others⟩ := List.forall_mem_cons.mp short
    rw [List.flatMap_cons, List.flatMap_cons, List.length_append, List.length_append]
    exact Nat.add_le_add here (ih others)

theorem flatMapSame {α β : Type} {f g : α → List β} {ps : List α} (short : ∀ p ∈ ps, (f p).length ≤ (g p).length) :
    ps.flatMap f = ps.flatMap g ↔ ∀ p ∈ ps, f p = g p := by
  induction ps with
  | nil => simp
  | cons p ps ih =>
    obtain ⟨here, others⟩ := List.forall_mem_cons.mp short
    rw [List.flatMap_cons, List.flatMap_cons, List.forall_mem_cons, ← ih others]
    constructor
    · intro same
      have lengths := congrArg List.length same
      have later := flatMapShrinks others
      rw [List.length_append, List.length_append] at lengths
      exact List.append_inj same (by omega)
    · rintro ⟨first, rest⟩
      rw [first, rest]

theorem fitOfTwo {m : Match} {d : Char} (decimal : Engine.isDecimal d) (other : d ≠ '0') :
    value (fit m ['0', d]) = 0 ↔ m.groupCount ≤ value [d] := by
  rw [fitNumbersNone]
  constructor
  · intro none
    by_contra within
    exact none ['0', d] (List.prefix_refl _) ⟨valuePositive decimal other, Nat.lt_of_not_le within⟩
  · intro beyond kept starts numbers
    have few := starts.length_le
    have positive := numbers.1
    by_cases short : kept.length ≤ 1
    · have zero : kept <+: ['0'] := List.prefix_of_prefix_length_le starts ⟨[d], rfl⟩ short
      have none : value kept ≤ value ['0'] := valueStart zero
      have nothing : value ['0'] = 0 := rfl
      omega
    · have whole : kept = ['0', d] := starts.eq_of_length (by simp only [List.length_cons, List.length_nil] at few ⊢; omega)
      subst whole
      exact Nat.not_lt.mpr beyond numbers.2

theorem zeroLost {m : Match} {digits rest : Text} (number : Number digits rest) :
    render m withoutZeros (.numbered digits) = render m asWritten (.numbered digits) ↔ ¬ LosesZero m (.numbered digits) := by
  rw [render, render, withoutZeros, asWritten]
  rcases zerosInFront digits with all | ⟨zeros, d, behind, rfl, zero, other⟩
  · rw [valueOfZeros all, if_pos rfl]
    refine iff_of_true rfl ?_
    rintro ⟨d, same, other, _⟩
    cases same
    exact other (all d (by simp))
  · cases zeros with
    | nil =>
      rw [List.nil_append, List.dropWhile_cons_of_neg (by simpa using other), ite_self]
      refine iff_of_true rfl ?_
      rintro ⟨e, same, _⟩
      cases same
      exact other rfl
    | cons c zeros =>
      obtain ⟨rfl, none⟩ := List.forall_mem_cons.mp zero
      have two : zeros = [] ∧ behind = [] := by
        have length := number.length
        simp only [List.cons_append, List.length_cons, List.length_append] at length
        constructor <;> apply List.eq_nil_of_length_eq_zero <;> omega
      obtain ⟨rfl, rfl⟩ := two
      have decimal := number.decimal d (by simp)
      have loses : LosesZero m (.numbered ['0', d]) ↔ m.groupCount ≤ value [d] := by
        constructor
        · rintro ⟨e, same, _, beyond⟩
          cases same
          exact beyond
        · exact fun beyond => ⟨d, rfl, other, beyond⟩
      have positive : value ['0', d] ≠ 0 := Nat.ne_of_gt (valuePositive decimal other)
      rw [List.singleton_append, loses, ← fitOfTwo decimal other, if_neg positive]
      split
      · rename_i none
        simp [none, other]
      · rename_i some
        simp [some]

theorem renderShrinks (m : Match) (piece : Piece) :
    (render m withoutZeros piece).length ≤ (render m asWritten piece).length := by
  cases piece with
  | numbered digits =>
    rw [render, render, withoutZeros, asWritten]
    have shorter := (List.dropWhile_suffix (· == '0') (l := digits)).length_le
    split
    · split
      · exact Nat.le_refl _
      · exact Nat.succ_le_succ shorter
    · exact Nat.le_refl _
  | _ => exact Nat.le_refl _

/-- The table gives every template one meaning, and expanding writes it down, but for zeros in front of a
digit that numbers no group. -/
theorem templateStandsForTable (m : Match) (template : Text) :
    (∀ ps, Reading template ps ↔ ps = pieces 0 template) ∧
      (pieces 0 template).flatMap written = template ∧
      (∃! out, Stands m asWritten template out) ∧
      (∀ out, Stands m withoutZeros template out ↔ out = expand template m) ∧
      (Stands m asWritten template (expand template m) ↔ ∀ piece ∈ pieces 0 template, ¬ LosesZero m piece) := by
  have reading : Reading template (pieces 0 template) := readingIff.mpr rfl
  refine ⟨fun ps => readingIff, readingWritten reading, ?_, fun out => ?_, ?_⟩
  · exact ⟨_, standsIff.mpr rfl, fun out stands => standsIff.mp stands⟩
  · rw [standsIff, expandRenders]
  · rw [standsIff, expandRenders, flatMapSame fun piece _ => renderShrinks m piece]
    refine forall_congr' fun piece => forall_congr' fun mem => ?_
    cases piece with
    | numbered digits =>
      obtain ⟨_, number⟩ := readingNumbers reading mem
      exact zeroLost number
    | _ => exact iff_of_true rfl (by rintro ⟨_, same, _⟩; contradiction)

theorem zeroInFrontGetsLost :
    ∃ p m, Pattern.ofNative ['a'] .empty = .ok p ∧ p.find ['a'] = .ok (some m) ∧
      expand ['$', '0', '1'] m = ['$', '1'] ∧ Stands m asWritten ['$', '0', '1'] ['$', '0', '1'] ∧
      ¬ Stands m asWritten ['$', '0', '1'] (expand ['$', '0', '1'] m) := by
  have facts : ((Pattern.ofNative ['a'] .empty).bind fun p => p.find ['a']).toOption =
      some (some ⟨['a'], [some ⟨0, 1⟩], none⟩) := by
    decide +kernel
  cases built : Pattern.ofNative ['a'] .empty with
  | error e =>
    rw [built] at facts
    cases facts
  | ok p =>
    rw [built] at facts
    let m : Match := ⟨['a'], [some ⟨0, 1⟩], none⟩
    have found : p.find ['a'] = .ok (some m) := by
      cases searched : p.find ['a'] with
      | error e => simp [Except.bind, Except.toOption, searched] at facts
      | ok result => simpa [Except.bind, Except.toOption, searched] using facts
    have table : Stands m asWritten ['$', '0', '1'] ['$', '0', '1'] := standsIff.mpr rfl
    refine ⟨p, m, rfl, found, rfl, table, fun same => ?_⟩
    cases (standsIff.mp same).trans (standsIff.mp table).symm

end ExtendedPattern.Template
