import ExtendedPattern.Proofs.BundledRules
import ExtendedPattern.Proofs.FirstToken
import ExtendedPattern.Proofs.TokenPlaces

/-! How far tokens read ahead. A token that ends within the text that is known is seen whatever stands
behind, as long as that starts with a character at which runs of name characters, digits and blanks stop.
Only comments, line comments and Unicode tokens look further, for the character that closes them. -/
namespace ExtendedPattern
open Text (size)

namespace Text

def deciding : List Char := ['<', '>', '=', '!', ':', '^', ',', ')', ']', '}']

inductive Apart : Text → Prop where
  | intro {d : Char} {rest : Text} (stops : BuiltinRules.isNameChar d = false) (plain : d ∉ deciding) : Apart (d :: rest)

variable {p : Char → Bool} {known t x y : Text} {c : Char} {n : Nat}

theorem Apart.head (apart : Apart x) : ∀ d ∈ x.head?, BuiltinRules.isNameChar d = false ∧ d ∉ deciding := by
  cases apart with
  | intro stops plain =>
    intro d here
    cases here
    exact ⟨stops, plain⟩

theorem Apart.other (apart : Apart x) (decides : c ∈ deciding) : x.head? ≠ some c :=
  fun same => (apart.head c same).2 decides

theorem Apart.ends (apart : Apart x) (named : ∀ d, p d → BuiltinRules.isNameChar d) : ∀ d ∈ x.head?, p d = false := by
  intro d here
  have stops := (apart.head d here).1
  cases holds : p d with
  | false => rfl
  | true => rw [named d holds] at stops; exact stops

theorem runEnds (known : Text) (ends : ∀ d ∈ x.head?, p d = false) : (known ++ x).takeWhile p = known.takeWhile p := by
  induction known with
  | nil =>
    cases x with
    | nil => rfl
    | cons d rest => exact List.takeWhile_cons_of_neg (by simp [ends d rfl])
  | cons b more ih => rw [List.cons_append, List.takeWhile_cons, List.takeWhile_cons, ih]

theorem dropKnown (known x : Text) : (known ++ x).drop (known.takeWhile p).length = known.drop (known.takeWhile p).length ++ x :=
  List.drop_append_of_le_length (List.takeWhile_prefix p).length_le

theorem readKnown (within : n ≤ known.length) (other : x.head? ≠ some c) (other' : y.head? ≠ some c) :
    (known ++ x)[n]? = some c ↔ (known ++ y)[n]? = some c := by
  rcases Nat.lt_or_eq_of_le within with inside | rfl
  · rw [List.getElem?_append_left inside, List.getElem?_append_left inside]
  · rw [List.getElem?_append_right (Nat.le_refl _), List.getElem?_append_right (Nat.le_refl _), Nat.sub_self,
      ← List.head?_eq_getElem?, ← List.head?_eq_getElem?]
    exact iff_of_false other other'

theorem runRead (known : Text) (ends : ∀ d ∈ x.head?, p d = false) (ends' : ∀ d ∈ y.head?, p d = false)
    (other : x.head? ≠ some c) (other' : y.head? ≠ some c) :
    (known ++ x)[((known ++ x).takeWhile p).length]? = some c ↔
      (known ++ y)[((known ++ y).takeWhile p).length]? = some c := by
  rw [runEnds known ends, runEnds known ends']
  exact readKnown (List.takeWhile_prefix p).length_le other other'

structure Settled (known : Text) : Prop where
  several : 2 ≤ known.length
  escape : ∀ c, known ≠ ['\\', c]
  last : ∀ c, [c] <:+ known → c ∉ operators

end Text
open Text (Apart Settled)

namespace NativeToken
open Text
variable {known x y : Text} {c : Char}

theorem digitNamed (c : Char) (digit : isDigit c) : BuiltinRules.isNameChar c := by
  simp [BuiltinRules.isNameChar, digit]

theorem octalNamed (c : Char) (octal : isOctal c) : BuiltinRules.isNameChar c := by
  refine digitNamed c ?_
  simp only [isOctal, isDigit, Bool.and_eq_true, decide_eq_true_eq] at octal ⊢
  exact ⟨octal.1, Char.le_trans octal.2 (by decide)⟩

theorem hexNamed (c : Char) (hex : isHexDigit c) : BuiltinRules.isNameChar c := by
  simp only [isHexDigit, Bool.or_eq_true, Bool.and_eq_true, decide_eq_true_eq] at hex
  rcases hex with (digit | lower) | upper
  · exact digitNamed c digit
  · have letter : isLetter c := by simp [isLetter, lower.1, Char.le_trans lower.2 (by decide : 'f' ≤ 'z')]
    simp [BuiltinRules.isNameChar, letter]
  · have letter : isLetter c := by simp [isLetter, upper.1, Char.le_trans upper.2 (by decide : 'F' ≤ 'Z')]
    simp [BuiltinRules.isNameChar, letter]

theorem digitRunKnown (apart : Apart x) (known : Text) : digitRun (known ++ x) = digitRun known := by
  rw [digitRun, runEnds known (apart.ends digitNamed), digitRun]

theorem shortRunKnown (apart : Apart x) (n : Nat) (known : Text) :
    ((known ++ x).take n).takeWhile isOctal = (known.take n).takeWhile isOctal := by
  have ends : ∀ d ∈ (x.take (n - known.length)).head?, isOctal d = false := by
    intro d here
    rw [List.head?_take] at here
    split at here
    · cases here
    · exact apart.ends octalNamed d here
  rw [List.take_append, runEnds _ ends]

theorem octalNone (apart : Apart x) : octalLength x = 0 := by
  have ends := apart.ends octalNamed
  cases apart with
  | @intro d rest =>
    have noOctal := ends d rfl
    simp only [isOctal, Bool.and_eq_false_iff, decide_eq_false_iff_not] at noOctal
    have first : ¬ ('0' ≤ d ∧ d ≤ '3') := fun fits =>
      noOctal.elim (fun early => early fits.1) fun late => late (Char.le_trans fits.2 (by decide))
    have second : ¬ ('4' ≤ d ∧ d ≤ '7') := fun fits =>
      noOctal.elim (fun early => early (Char.le_trans (by decide) fits.1)) fun late => late fits.2
    simp [octalLength, first, second]

theorem octalKnown (apart : Apart x) (apart' : Apart y) (known : Text) : octalLength (known ++ x) = octalLength (known ++ y) := by
  cases known with
  | nil => exact (octalNone apart).trans (octalNone apart').symm
  | cons b more =>
    simp only [List.cons_append, octalLength]
    rw [shortRunKnown apart, shortRunKnown apart, shortRunKnown apart', shortRunKnown apart']

theorem hexRunKnown (apart : Apart x) (digits : Nat) (known : Text) :
    (((known ++ x).take digits).length = digits && ((known ++ x).take digits).all isHexDigit) =
      (decide (digits ≤ known.length) && (known.take digits).all isHexDigit) := by
  by_cases within : digits ≤ known.length
  · simp [List.take_append_of_le_length within, within]
  · have beyond : (x.take (digits - known.length)).all isHexDigit = false := by
      have ends := apart.ends hexNamed
      cases apart with
      | @intro d rest =>
        obtain ⟨n, more⟩ := Nat.exists_eq_succ_of_ne_zero (show digits - known.length ≠ 0 by omega)
        simp [more, ends d rfl]
    rw [List.take_append, List.all_append, beyond, Bool.and_false, Bool.and_false, decide_eq_false within,
      Bool.false_and]

theorem hexKnown (apart : Apart x) (apart' : Apart y) (digits : Nat) (present : known ≠ []) :
    hexLength digits (known ++ x) = hexLength digits (known ++ y) := by
  obtain ⟨b, more, rfl⟩ := List.exists_cons_of_ne_nil present
  simp only [hexLength, hexRunKnown apart, hexRunKnown apart']
  congr 1
  rw [List.cons_append, List.cons_append]
  split
  · rename_i rest same
    obtain ⟨rfl, rfl⟩ := List.cons.inj same
    have within : (more.takeWhile isHexDigit).length ≤ more.length := (List.takeWhile_prefix _).length_le
    have read := readKnown within (apart.other (c := '}') (by decide)) (apart'.other (by decide))
    simp only [runEnds more (apart.ends hexNamed), runEnds more (apart'.ends hexNamed), Bool.and_eq_true,
      decide_eq_true_eq, beq_iff_eq, read]
  · rename_i other
    split
    · rename_i same
      obtain ⟨rfl, rfl⟩ := List.cons.inj same
      exact absurd rfl (other _)
    · rfl

theorem lazyKnown (present : known ≠ []) : lazyMark (known ++ x) = lazyMark (known ++ y) := by
  obtain ⟨b, more, rfl⟩ := List.exists_cons_of_ne_nil present
  simp only [List.cons_append]
  unfold lazyMark
  split <;> split <;> simp_all

theorem openerUnmarked {b : Char} (other : b ≠ '?') (t : Text) : openerLength? (b :: t) = none := by
  simp [openerLength?, other]

theorem openerUnknown {d : Char} (other : d ∉ [':', '=', '!', '<']) (t : Text) : openerLength? ('?' :: d :: t) = none := by
  simp only [List.mem_cons, List.not_mem_nil, or_false, not_or] at other
  simp [openerLength?, other]

theorem lookUnknown {e : Char} (other : e ∉ ['=', '!']) (t : Text) : openerLength? ('?' :: '<' :: e :: t) = none := by
  simp only [List.mem_cons, List.not_mem_nil, or_false, not_or] at other
  simp [openerLength?, other]

theorem openerCut (apart : Apart x) : openerLength? ('?' :: x) = none ∧ openerLength? ('?' :: '<' :: x) = none := by
  have undecided : ∀ e ∈ x.head?, e ∉ Text.deciding := fun e head => (apart.head e head).2
  cases apart with
  | @intro e rest =>
    have other := undecided e rfl
    simp only [deciding, List.mem_cons, List.not_mem_nil, or_false, not_or] at other
    constructor
    · exact openerUnknown (by simp [other]) rest
    · exact lookUnknown (by simp [other]) rest

theorem openerKnown (apart : Apart x) (apart' : Apart y) (present : known ≠ []) :
    openerLength? (known ++ x) = openerLength? (known ++ y) := by
  obtain ⟨b, more, rfl⟩ := List.exists_cons_of_ne_nil present
  by_cases mark : b = '?'
  swap
  · exact (openerUnmarked mark _).trans (openerUnmarked mark _).symm
  subst mark
  cases more with
  | nil => exact (openerCut apart).1.trans (openerCut apart').1.symm
  | cons d more =>
    by_cases look : d = '<'
    · subst look
      cases more with
      | nil => exact (openerCut apart).2.trans (openerCut apart').2.symm
      | cons e more =>
        by_cases kind : e ∈ ['=', '!']
        · simp only [List.mem_cons, List.not_mem_nil, or_false] at kind
          rcases kind with rfl | rfl <;> rfl
        · exact (lookUnknown kind _).trans (lookUnknown kind _).symm
    · by_cases kind : d ∈ [':', '=', '!']
      · simp only [List.mem_cons, List.not_mem_nil, or_false] at kind
        rcases kind with rfl | rfl | rfl <;> rfl
      · have other : d ∉ [':', '=', '!', '<'] := by
          simp only [List.mem_cons, List.not_mem_nil, or_false, not_or] at kind ⊢
          exact ⟨kind.1, kind.2.1, kind.2.2, look⟩
        exact (openerUnknown other _).trans (openerUnknown other _).symm

theorem repeatKnown (apart : Apart x) (apart' : Apart y) (unclosed : ¬ ['}'] <:+ known) :
    repeatLength? (known ++ x) = repeatLength? (known ++ y) := by
  have mark {more : Text} (close : '}' :: more <:+ known) : lazyMark (more ++ x) = lazyMark (more ++ y) := by
    refine lazyKnown ?_
    rintro rfl
    exact unclosed close
  have brace := apart.other (c := '}') (by decide)
  have brace' := apart'.other (c := '}') (by decide)
  have comma := apart.other (c := ',') (by decide)
  have comma' := apart'.other (c := ',') (by decide)
  have ended (t z : Text) : (t ++ z).drop (digitRun t) = t.drop (digitRun t) ++ z := dropKnown t z
  simp only [repeatLength?, digitRunKnown apart, digitRunKnown apart', ended]
  split
  · rfl
  have suffix := List.drop_suffix (digitRun known) known
  generalize known.drop (digitRun known) = behind at suffix
  rcases behind with _ | ⟨b, more⟩
  · split <;> split <;> simp_all
  by_cases close : b = '}'
  · subst close
    simp only [List.cons_append, mark suffix]
  by_cases bound : b = ','
  · subst bound
    simp only [List.cons_append, digitRunKnown apart, digitRunKnown apart', ended]
    have suffix := (List.drop_suffix (digitRun more) more).trans ((List.suffix_cons ',' more).trans suffix)
    generalize more.drop (digitRun more) = behind at suffix
    rcases behind with _ | ⟨e, more'⟩
    · split <;> split <;> simp_all
    by_cases close : e = '}'
    · subst close
      simp only [List.cons_append, mark suffix]
    · simp [close]
  · simp [close, bound]

theorem escapeKnown (apart : Apart x) (apart' : Apart y) (region : Region) (c : Char) (present : known ≠ []) :
    escapeLength? region (c :: known ++ x) = escapeLength? region (c :: known ++ y) := by
  have head : (known ++ x).head? = (known ++ y).head? := by
    rw [List.head?_append_of_ne_nil _ present, List.head?_append_of_ne_nil _ present]
  have digits := (digitRunKnown apart (c :: known)).trans (digitRunKnown apart' (c :: known)).symm
  have octal := octalKnown apart apart' (c :: known)
  simp only [List.cons_append] at digits octal
  simp only [List.cons_append, escapeLength?, octalKnown apart apart' known, octal, digits, hexKnown apart apart' 2 present,
    hexKnown apart apart' 4 present, head]

theorem lengthKnown (apart : Apart x) (apart' : Apart y) (settled : Settled known) (region : Region) :
    length? region (known ++ x) = length? region (known ++ y) := by
  obtain ⟨several, escape, last⟩ := settled
  rcases known with _ | ⟨b, _ | ⟨c, more⟩⟩
  · cases several
  · simp at several
  have unclosed : ¬ ['}'] <:+ c :: more := fun suffix => last '}' (suffix.trans (List.suffix_cons b _)) (by decide)
  simp only [List.cons_append, length?, List.head?_cons]
  have openers := openerKnown apart apart' (List.cons_ne_nil c more)
  have repeats := repeatKnown apart apart' unclosed
  simp only [List.cons_append] at openers repeats
  rw [openers, repeats]
  split
  · rename_i backslash
    refine escapeKnown apart apart' region c ?_
    rintro rfl
    exact escape c (by rw [backslash])
  · rfl

end NativeToken

def SeenAlike (n : Nat) (seen seen' : Option Groups) : Prop :=
  seen = seen' ∨ ∃ stop more, seen = some (some ⟨0, stop⟩ :: more) ∧ n ≤ stop

theorem SeenAlike.or {n : Nat} {a a' b b' : Option Groups} (first : SeenAlike n a a') (second : SeenAlike n b b') :
    SeenAlike n (a.or b) (a'.or b') := by
  rcases first with rfl | ⟨stop, more, rfl, late⟩
  · cases a with
    | none => exact second
    | some groups => exact .inl rfl
  · exact .inr ⟨stop, more, rfl, late⟩

namespace BuiltinRules
open Text
variable {known x y : Text} {see : Text → Option Groups} {n : Nat}

def behindMark (mark : Text) (see : Text → Option Groups) (t : Text) : Option Groups :=
  if mark <+: t then see (t.drop mark.length) else none

theorem markSees (mark rest : Text) : behindMark mark see (mark ++ rest) = see rest := by
  rw [behindMark, if_pos (List.prefix_append mark rest), List.drop_left]

theorem markKnown {front : Text} {e : Char} (short : front.length ≤ known.length)
    (cut : known = front → x.head? ≠ some e ∧ y.head? ≠ some e)
    (whole : ∀ more, known = front ++ [e] ++ more → SeenAlike n (see (more ++ x)) (see (more ++ y))) :
    SeenAlike n (behindMark (front ++ [e]) see (known ++ x)) (behindMark (front ++ [e]) see (known ++ y)) := by
  by_cases within : front ++ [e] <+: known
  · obtain ⟨more, rfl⟩ := within
    rw [List.append_assoc _ more x, List.append_assoc _ more y, markSees, markSees]
    exact whole more rfl
  have unseen {z : Text} (other : known = front → z.head? ≠ some e) : ¬ front ++ [e] <+: known ++ z := by
    rintro ⟨rest, same⟩
    rcases List.append_eq_append_iff.mp same with ⟨more, split, _⟩ | ⟨ends, split, follows⟩
    · exact within ⟨more, split.symm⟩
    · have lengths := congrArg List.length split
      simp only [List.length_append, List.length_singleton] at lengths
      cases ends with
      | nil => exact within ⟨[], by rw [List.append_nil, split, List.append_nil]⟩
      | cons d ends =>
        simp only [List.length_cons] at lengths
        obtain rfl : ends = [] := List.eq_nil_of_length_eq_zero (by omega)
        obtain ⟨rfl, last⟩ := List.append_inj' split rfl
        obtain rfl := (List.cons.inj last).1
        exact other rfl (by rw [follows]; rfl)
  left
  rw [behindMark, behindMark, if_neg (unseen fun same => (cut same).1), if_neg (unseen fun same => (cut same).2)]

theorem markedOf {mark : Text} {recognize : Text → Option Groups} (here : ∀ rest, recognize (mark ++ rest) = see rest)
    (elsewhere : ∀ {t}, (∀ rest, t ≠ mark ++ rest) → recognize t = none) (t : Text) : recognize t = behindMark mark see t := by
  by_cases starts : mark <+: t
  · obtain ⟨rest, rfl⟩ := starts
    rw [markSees, here]
  · rw [behindMark, if_neg starts]
    exact elsewhere fun rest same => starts ⟨rest, same.symm⟩

theorem namedOpenerMarked : ∀ t, namedOpener t = behindMark (['(', '?'] ++ ['<']) (nameToken 3) t := by
  refine markedOf (fun _ => rfl) fun other => ?_
  unfold namedOpener
  split
  · exact absurd rfl (other _)
  · rfl

theorem referenceMarked : ∀ t, reference t = behindMark (['\\', 'k'] ++ ['<']) (nameToken 3) t := by
  refine markedOf (fun _ => rfl) fun other => ?_
  unfold reference
  split
  · exact absurd rfl (other _)
  · rfl

theorem commentMarked : ∀ t, comment t = behindMark (['(', '?'] ++ ['#']) (closedToken ')' 3) t := by
  refine markedOf (fun _ => rfl) fun other => ?_
  unfold comment
  split
  · exact absurd rfl (other _)
  · rfl

def modesBehind (offset : Nat) (rest : Text) : Option Groups := leadingModes offset (['('] ++ ['?'] ++ rest)

theorem leadingModesMarked (offset : Nat) : ∀ t, leadingModes offset t = behindMark (['('] ++ ['?']) (modesBehind offset) t := by
  refine markedOf (fun _ => rfl) fun other => ?_
  unfold leadingModes
  split
  · exact absurd rfl (other _)
  · rfl

theorem eitherMarkedOf {mark mark' : Text} {see' : Text → Option Groups} {recognize : Text → Option Groups}
    (here : ∀ rest, recognize (mark ++ rest) = see rest) (here' : ∀ rest, recognize (mark' ++ rest) = see' rest)
    (apart : ∀ rest, ¬ mark' <+: mark ++ rest)
    (elsewhere : ∀ {t}, (∀ rest, t ≠ mark ++ rest) → (∀ rest, t ≠ mark' ++ rest) → recognize t = none) (t : Text) :
    recognize t = (behindMark mark see t).or (behindMark mark' see' t) := by
  by_cases starts : mark <+: t
  · obtain ⟨rest, rfl⟩ := starts
    rw [markSees, here, behindMark, if_neg (apart rest), Option.or_none]
  rw [behindMark, if_neg starts, Option.none_or]
  by_cases starts' : mark' <+: t
  · obtain ⟨rest, rfl⟩ := starts'
    rw [markSees, here']
  · rw [behindMark, if_neg starts']
    exact elsewhere (fun rest same => starts ⟨rest, same.symm⟩) fun rest same => starts' ⟨rest, same.symm⟩

theorem emptyClassMarked : ∀ t, emptyClass t = (behindMark (['['] ++ [']']) (fun _ => some (token 2)) t).or
    (behindMark (['[', '^'] ++ [']']) (fun _ => some (token 3)) t) := by
  refine eitherMarkedOf (fun _ => rfl) (fun _ => rfl) (by simp) fun plain negated => ?_
  unfold emptyClass
  split
  · exact absurd rfl (plain _)
  · exact absurd rfl (negated _)
  · rfl

theorem unicodeTokenMarked : ∀ t, unicodeToken t = (behindMark (['\\', 'p'] ++ ['{']) (closedToken '}' 3) t).or
    (behindMark (['\\', 'P'] ++ ['{']) (closedToken '}' 3) t) := by
  refine eitherMarkedOf (fun _ => rfl) (fun _ => rfl) (by simp) fun lower upper => ?_
  unfold unicodeToken
  split
  · exact absurd rfl (lower _)
  · exact absurd rfl (upper _)
  · rfl

theorem nameKnown (apart : Apart x) (apart' : Apart y) (opener : Nat) (known : Text) :
    nameToken opener (known ++ x) = nameToken opener (known ++ y) := by
  have ends := apart.ends (p := isNameChar) fun _ named => named
  have ends' := apart'.ends (p := isNameChar) fun _ named => named
  have read := runRead known ends ends' (apart.other (c := '>') (by decide)) (apart'.other (by decide))
  rw [runEnds known ends, runEnds known ends'] at read
  simp only [nameToken, runEnds known ends, runEnds known ends', read]

theorem plainOpenerKnown (several : 2 ≤ known.length) : plainOpener (known ++ x) = plainOpener (known ++ y) := by
  rcases known with _ | ⟨b, _ | ⟨c, more⟩⟩
  · cases several
  · simp at several
  by_cases opens : b = '('
  · by_cases extension : c = '?' <;> simp [plainOpener, opens, extension]
  · exact (plainOpenerElsewhere opens).trans (plainOpenerElsewhere opens).symm

theorem namedOpenerKnown (apart : Apart x) (apart' : Apart y) (several : 2 ≤ known.length) :
    SeenAlike n (namedOpener (known ++ x)) (namedOpener (known ++ y)) := by
  rw [namedOpenerMarked, namedOpenerMarked]
  exact markKnown several (fun _ => ⟨apart.other (by decide), apart'.other (by decide)⟩)
    fun more _ => .inl (nameKnown apart apart' 3 more)

theorem referenceKnown (apart : Apart x) (apart' : Apart y) (several : 2 ≤ known.length) :
    SeenAlike n (reference (known ++ x)) (reference (known ++ y)) := by
  rw [referenceMarked, referenceMarked]
  exact markKnown several (fun _ => ⟨apart.other (by decide), apart'.other (by decide)⟩)
    fun more _ => .inl (nameKnown apart apart' 3 more)

theorem dotKnown (several : 2 ≤ known.length) : dot (known ++ x) = dot (known ++ y) := by
  rcases known with _ | ⟨b, more⟩
  · cases several
  by_cases point : b = '.'
  · subst point
    rfl
  · exact (dotElsewhere point).trans (dotElsewhere point).symm

theorem emptyClassKnown (apart : Apart x) (apart' : Apart y) (several : 2 ≤ known.length) :
    SeenAlike n (emptyClass (known ++ x)) (emptyClass (known ++ y)) := by
  have close (same : Text) : known = same → x.head? ≠ some ']' ∧ y.head? ≠ some ']' :=
    fun _ => ⟨apart.other (by decide), apart'.other (by decide)⟩
  rw [emptyClassMarked, emptyClassMarked]
  exact (markKnown (Nat.le_trans (by decide) several) (close ['[']) fun _ _ => .inl rfl).or
    (markKnown several (close ['[', '^']) fun _ _ => .inl rfl)

theorem modeNamed (c : Char) (letter : isModeLetter c) : isNameChar c := by
  simp only [isModeLetter, List.contains_iff_mem, List.mem_cons, List.not_mem_nil, or_false] at letter
  rcases letter with rfl | rfl | rfl | rfl | rfl <;> decide

theorem leadingModesKnown (apart : Apart x) (apart' : Apart y) (offset : Nat) (several : 2 ≤ known.length) :
    SeenAlike n (leadingModes offset (known ++ x)) (leadingModes offset (known ++ y)) := by
  rw [leadingModesMarked, leadingModesMarked]
  refine markKnown (Nat.le_trans (by decide) several) (fun alone => ?_) fun more _ => .inl ?_
  · rw [alone] at several
    cases several
    contradiction
  · have ends := apart.ends modeNamed
    have ends' := apart'.ends modeNamed
    have read := runRead more ends ends' (apart.other (c := ')') (by decide)) (apart'.other (by decide))
    rw [runEnds more ends, runEnds more ends'] at read
    simp only [modesBehind, List.cons_append, List.nil_append, leadingModes, runEnds more ends, runEnds more ends', read]

theorem closesBehind {close : Char} (t : Text) : (t.takeWhile (· != close)).length < t.length ↔ close ∈ t := by
  induction t with
  | nil => simp
  | cons b rest ih =>
    by_cases here : b = close
    · simp [here]
    · simp [here, ih, Ne.symm here]

theorem closedAt {close : Char} (opener : Nat) {front : Text} (open_ : close ∉ front) (rest : Text) :
    closedToken close opener (front ++ close :: rest) = some (token (opener + size front + 1)) := by
  have inner : (front ++ close :: rest).takeWhile (· != close) = front :=
    takeWhileEnds (fun d mem => by simpa using ne_of_mem_of_not_mem mem open_) (by simp)
  simp [closedToken, inner]

theorem closedLater {close : Char} (opener : Nat) {known : Text} (open_ : close ∉ known) (x : Text) :
    closedToken close opener (known ++ x) = closedToken close (opener + size known) x := by
  have inner : (known ++ x).takeWhile (· != close) = known ++ x.takeWhile (· != close) :=
    List.takeWhile_append_of_pos fun d mem => by simpa using ne_of_mem_of_not_mem mem open_
  simp [closedToken, inner, sizeAppend, Nat.add_assoc]

theorem closedKnown {close : Char} (opener : Nat) (known : Text) (later : close ∈ y → close ∈ x) :
    SeenAlike (opener + size known) (closedToken close opener (known ++ x)) (closedToken close opener (known ++ y)) := by
  by_cases closed : close ∈ known
  · obtain ⟨front, back, rfl, open_⟩ := List.eq_append_cons_of_mem closed
    left
    rw [List.append_assoc, List.append_assoc, List.cons_append, List.cons_append, closedAt opener open_,
      closedAt opener open_]
  rw [closedLater opener closed, closedLater opener closed]
  by_cases follows : close ∈ x
  · obtain ⟨front, back, rfl, open_⟩ := List.eq_append_cons_of_mem follows
    exact .inr ⟨_, _, closedAt _ open_ back, by omega⟩
  · have never : close ∉ y := fun mem => follows (later mem)
    left
    simp only [closedToken, closesBehind, if_neg follows, if_neg never]

theorem commentKnown (settled : Settled known) (later : ')' ∈ y → ')' ∈ x) :
    SeenAlike (size known) (comment (known ++ x)) (comment (known ++ y)) := by
  rw [commentMarked, commentMarked]
  refine markKnown settled.several (fun opens => ?_) fun more split => ?_
  · subst opens
    exact absurd (settled.last '?' (List.suffix_append ['('] ['?'])) (by decide)
  · rw [split, sizeAppend]
    exact closedKnown 3 more later

theorem lettersKnown (settled : Settled known)
    (seen : ∀ more, SeenAlike (3 + size more) (see (more ++ x)) (see (more ++ y))) :
    SeenAlike (size known)
      ((behindMark (['\\', 'p'] ++ ['{']) see (known ++ x)).or (behindMark (['\\', 'P'] ++ ['{']) see (known ++ x)))
      ((behindMark (['\\', 'p'] ++ ['{']) see (known ++ y)).or (behindMark (['\\', 'P'] ++ ['{']) see (known ++ y))) := by
  refine .or (markKnown settled.several (fun letter => absurd letter (settled.escape 'p')) fun more split => ?_)
    (markKnown settled.several (fun letter => absurd letter (settled.escape 'P')) fun more split => ?_)
  · rw [split, sizeAppend]
    exact seen more
  · rw [split, sizeAppend]
    exact seen more

theorem unicodeTokenKnown (settled : Settled known) (later : '}' ∈ y → '}' ∈ x) :
    SeenAlike (size known) (unicodeToken (known ++ x)) (unicodeToken (known ++ y)) := by
  rw [unicodeTokenMarked, unicodeTokenMarked]
  exact lettersKnown settled fun more => closedKnown 3 more later

theorem blankSizeKnown (mid : Text) {c : Char} (solid : Unicode.isSpace c = false ∧ c ≠ '#') (inComment : Bool) :
    blankSize inComment (mid ++ [c] ++ x) = blankSize inComment (mid ++ [c] ++ y) ∨
      size (mid ++ [c]) ≤ blankSize inComment (mid ++ [c] ++ x) := by
  induction mid generalizing inComment with
  | nil =>
    cases inComment with
    | false => left; simp [blankSize, solid]
    | true =>
      right
      simp only [List.nil_append, List.cons_append, blankSize, size, if_true]
      split <;> omega
  | cons b mid ih =>
    simp only [List.cons_append, blankSize, size]
    split
    · split
      · exact (ih false).imp (fun same => by rw [same]) fun most => by omega
      · exact (ih true).imp (fun same => by rw [same]) fun most => by omega
    split
    · exact (ih false).imp (fun same => by rw [same]) fun most => by omega
    split
    · exact (ih true).imp (fun same => by rw [same]) fun most => by omega
    · exact .inl rfl

theorem blankKnown (mid : Text) {c : Char} (solid : Unicode.isSpace c = false ∧ c ≠ '#') :
    SeenAlike (size (mid ++ [c])) (blank (mid ++ [c] ++ x)) (blank (mid ++ [c] ++ y)) := by
  have positive : 0 < size (mid ++ [c]) := by
    have positive := c.utf8Size_pos
    simp only [sizeAppend, size]
    omega
  rcases blankSizeKnown mid solid false with same | most
  · left
    rw [blank, blank, same]
  · right
    refine ⟨_, _, if_neg ?_, most⟩
    omega


end BuiltinRules

namespace UnicodeNames
open Text BuiltinRules
variable {known caret x y : Text}

def nameBehind (rest : Text) : Option Groups := token (['\\', 'p'] ++ ['{'] ++ rest)

theorem tokenMarked : ∀ t,
    token t = (behindMark (['\\', 'p'] ++ ['{']) nameBehind t).or (behindMark (['\\', 'P'] ++ ['{']) nameBehind t) := by
  refine eitherMarkedOf (fun _ => rfl) (fun _ => rfl) (by simp) fun lower upper => ?_
  unfold token
  split
  · rename_i letter rest
    refine if_neg ?_
    rintro (rfl | rfl)
    · exact lower rest rfl
    · exact upper rest rfl
  · rfl

theorem nameOf {rest : Text} (mark : caret = ['^'] ∨ caret = [] ∧ rest.head? ≠ some '^') :
    nameBehind (caret ++ rest) =
      if '}' ∈ rest then
        let stop := 3 + size caret + size (rest.takeWhile (· != '}'))
        some ([⟨0, stop + 1⟩, ⟨1, 2⟩, ⟨3, 3 + size caret⟩, ⟨3 + size caret, stop⟩].map some)
      else none := by
  rcases mark with rfl | ⟨rfl, settled⟩
  · have closes : 1 + (rest.takeWhile (· != '}')).length < ('^' :: rest).length ↔ '}' ∈ rest := by
      rw [← closesBehind, List.length_cons]
      omega
    have single : size ['^'] = 1 := rfl
    simp only [nameBehind, token, true_or, List.cons_append, List.nil_append, List.head?_cons, if_true, List.drop_succ_cons,
      List.drop_zero, closes, single]
  · have closes : 0 + (rest.takeWhile (· != '}')).length < rest.length ↔ '}' ∈ rest := by
      rw [← closesBehind, Nat.zero_add]
    simp only [nameBehind, token, true_or, if_true, List.cons_append, List.nil_append, if_neg settled, List.drop_zero, closes,
      size]

theorem nameKnown (later : '}' ∈ y → '}' ∈ x) (name : Text) (mark : caret = ['^'] ∨ caret = [] ∧ (name ++ x).head? ≠ some '^')
    (mark' : caret = ['^'] ∨ caret = [] ∧ (name ++ y).head? ≠ some '^') :
    SeenAlike (3 + size caret + size name) (nameBehind (caret ++ (name ++ x))) (nameBehind (caret ++ (name ++ y))) := by
  rw [nameOf mark, nameOf mark']
  by_cases closed : '}' ∈ name
  · obtain ⟨front, back, rfl, open_⟩ := List.eq_append_cons_of_mem closed
    have inner (rest : Text) : (front ++ '}' :: rest).takeWhile (· != '}') = front :=
      takeWhileEnds (fun d mem => by simpa using ne_of_mem_of_not_mem mem open_) rfl
    left
    simp [inner]
  have inner : (name ++ x).takeWhile (· != '}') = name ++ x.takeWhile (· != '}') :=
    List.takeWhile_append_of_pos fun d mem => by simpa using ne_of_mem_of_not_mem mem closed
  by_cases follows : '}' ∈ x
  · right
    refine ⟨_, _, if_pos (List.mem_append_right name follows), ?_⟩
    rw [inner, sizeAppend]
    omega
  · have never : '}' ∉ y := fun mem => follows (later mem)
    left
    simp [closed, follows, never]

theorem behindKnown (apart : Apart x) (apart' : Apart y) (later : '}' ∈ y → '}' ∈ x) (more : Text) :
    SeenAlike (3 + size more) (nameBehind (more ++ x)) (nameBehind (more ++ y)) := by
  rcases more with _ | ⟨e, name⟩
  · exact nameKnown later [] (.inr ⟨rfl, apart.other (by decide)⟩) (.inr ⟨rfl, apart'.other (by decide)⟩)
  by_cases caret : e = '^'
  · subst caret
    have length : size ('^' :: name) = size ['^'] + size name := rfl
    rw [length, ← Nat.add_assoc]
    exact nameKnown later name (.inl rfl) (.inl rfl)
  · have mark (z : Text) : (e :: name ++ z).head? ≠ some '^' := by simpa using caret
    exact nameKnown later (e :: name) (.inr ⟨rfl, mark x⟩) (.inr ⟨rfl, mark y⟩)

theorem tokenKnown (apart : Apart x) (apart' : Apart y) (settled : Settled known) (later : '}' ∈ y → '}' ∈ x) :
    SeenAlike (size known) (token (known ++ x)) (token (known ++ y)) := by
  rw [tokenMarked, tokenMarked]
  exact lettersKnown settled (behindKnown apart apart' later)

end UnicodeNames

structure Text.Behind (x y : Text) : Prop where
  apart : Apart x
  apart' : Apart y
  closers : y ⊆ x

namespace LocalRule
open BuiltinRules
variable {known x y : Text} {l : LocalRule} {locals : List LocalRule} {region : Region} {context : Context}
  {offset n : Nat}

theorem seesAlike (recognized : l.takesPart region context → SeenAlike n (l.recognize offset x) (l.recognize offset y)) :
    SeenAlike n (l.sees? region context offset x) (l.sees? region context offset y) := by
  unfold sees?
  split
  · rename_i part
    exact recognized part
  · exact .inl rfl

theorem Bundled.seesKnown (bundled : l.Bundled) (behind : Text.Behind x y) (settled : Settled known) (region : Region)
    (offset : Nat) (solid : context.has .extended → ∀ c, [c] <:+ known → Unicode.isSpace c = false ∧ c ≠ '#') :
    SeenAlike (size known) (l.sees? region context offset (known ++ x)) (l.sees? region context offset (known ++ y)) := by
  obtain ⟨apart, apart', closers⟩ := behind
  have several := settled.several
  have spacing (on : context.has .extended) : SeenAlike (size known) (blank (known ++ x)) (blank (known ++ y)) := by
    rcases List.eq_nil_or_concat' known with rfl | ⟨mid, c, rfl⟩
    · cases several
    · exact blankKnown mid (solid on c (List.suffix_append mid [c]))
  cases bundled with
  | unicode names => exact seesAlike fun _ => UnicodeNames.tokenKnown apart apart' settled fun mem => closers mem
  | builtin mem =>
    revert l
    simp only [builtins, List.forall_mem_cons]
    refine ⟨seesAlike fun _ => .inl (plainOpenerKnown several), seesAlike fun _ => namedOpenerKnown apart apart' several,
      seesAlike fun _ => .inl (dotKnown several), seesAlike fun part => spacing ?_,
      seesAlike fun _ => referenceKnown apart apart' several,
      seesAlike fun _ => leadingModesKnown apart apart' offset several,
      seesAlike fun _ => commentKnown settled fun mem => closers mem,
      seesAlike fun _ => emptyClassKnown apart apart' several,
      seesAlike fun _ => unicodeTokenKnown settled fun mem => closers mem, by simp⟩
    exact (Bool.and_eq_true_iff.mp part).2

theorem firstKnown (alike : ∀ l ∈ locals, SeenAlike n (l.sees? region context offset x) (l.sees? region context offset y))
    (early : ∀ l groups, first? locals region context offset x = some (l, groups) →
      ∀ g, groups.head? = some (some g) → g.stop < n) :
    first? locals region context offset y = first? locals region context offset x := by
  induction locals with
  | nil => rfl
  | cons l others ih =>
    obtain ⟨head, tail⟩ := List.forall_mem_cons.mp alike
    simp only [first?, List.findSome?_cons] at early ih ⊢
    rcases head with same | ⟨stop, more, seen, late⟩
    · rw [← same]
      cases seen : l.sees? region context offset x with
      | some groups => rfl
      | none =>
        rw [seen] at early
        exact ih tail early
    · rw [seen] at early
      exact absurd (early l _ rfl _ rfl) (Nat.not_lt.mpr late)

end LocalRule
end ExtendedPattern
