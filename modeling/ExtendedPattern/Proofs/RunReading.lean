import ExtendedPattern.Proofs.ReadingInside
import ExtendedPattern.Proofs.RunPattern

/-! The tree of the pattern for a run, whatever its delimiters are. The delimiters are read there as they are
read alone, when the first leaves the modes as they were. -/
namespace ExtendedPattern
open Text (size)

namespace FlagSet

def modes (s : FlagSet) : Engine.Reader.Modes :=
  { ignoreCase := s.has .ignoreCase, multiline := s.has .multiline }

def openerOf : Bool → Bool → Text
  | false, false => []
  | true, false => ['(', '?', 'i', ')']
  | false, true => ['(', '?', 'm', ')']
  | true, true => ['(', '?', 'i', 'm', ')']

theorem openerSpelled (s : FlagSet) : s.nativeOpener = openerOf (s.has .ignoreCase) (s.has .multiline) := by
  have all : ∀ bits : BitVec 7, (FlagSet.mk bits).nativeOpener =
      openerOf ((FlagSet.mk bits).has .ignoreCase) ((FlagSet.mk bits).has .multiline) := by
    decide +kernel
  exact all s.bits

theorem openerKept (s : FlagSet) : (s.inter .native).nativeOpener = s.nativeOpener := by
  have twice : (s.inter .native).inter .native = s.inter .native := by
    simp [inter, BitVec.and_assoc]
  rw [nativeOpener, nativeOpener, twice]

theorem modesOfNative {s t : FlagSet} (same : s.inter .native = t.inter .native) : s.modes = t.modes := by
  have kept : ∀ bits : BitVec 7,
      ((FlagSet.mk bits).inter .native).has .ignoreCase = (FlagSet.mk bits).has .ignoreCase ∧
        ((FlagSet.mk bits).inter .native).has .multiline = (FlagSet.mk bits).has .multiline := by
    decide +kernel
  rw [modes, modes, ← (kept s.bits).1, ← (kept s.bits).2, ← (kept t.bits).1, ← (kept t.bits).2, same]

theorem nativeUnpinned (s : FlagSet) : (s.diff (.single .sticky)).inter .native = s.inter .native := by
  have all : ∀ bits : BitVec 7, ((FlagSet.mk bits).diff (.single .sticky)).inter .native = (FlagSet.mk bits).inter .native := by
    decide +kernel
  exact all s.bits

theorem openerOfNative {s t : FlagSet} (same : s.inter .native = t.inter .native) : s.nativeOpener = t.nativeOpener := by
  rw [← openerKept s, same, openerKept t]

end FlagSet

namespace Engine.Reader
variable {limit fuel : Nat} {t u rest behind : Text} {p : Progress} {frame : Frame} {outer : List Frame}
  {r : Node × Progress}

theorem readsSkipped (skipped : skip? p t = some u) (read : read? limit fuel u p frame outer = some r) :
    read? limit fuel t p frame outer = some r := by
  cases fuel with
  | zero => contradiction
  | succ fuel =>
    rw [← read]
    simp only [read?, skipped, skipAgain skipped]

theorem readsModes {q : Progress}
    (blank : skip? p t = some ('(' :: rest)) (opens : open? p rest = some (.atom .empty, q, behind))
    (read : read? limit fuel t p frame outer = some r) : ∃ more, read? limit more behind q frame outer = some r := by
  cases fuel with
  | zero => contradiction
  | succ fuel =>
    simp only [read?, Option.bind_eq_bind, blank, Option.bind_some, opens] at read
    split at read <;> try contradiction
    obtain ⟨⟨n, u⟩, quantified, read⟩ := Option.bind_eq_some_iff.mp read
    rw [quantifiedParts] at quantified
    obtain ⟨v, skipped, quantified⟩ := Option.bind_eq_some_iff.mp quantified
    split at quantified
    · cases quantified
      exact ⟨fuel, readsSkipped skipped read⟩
    · contradiction

theorem openerReads {flags : FlagSet} (read : tree? (flags.openNative t) = some r) :
    ∃ limit fuel p, p.modes = flags.modes ∧ read? limit fuel t p { opening := .modes {} } [] = some r := by
  rw [tree?, FlagSet.openNative, FlagSet.openerSpelled] at read
  generalize size _ / 2 = limit at read
  generalize List.length _ + 1 = fuel at read
  unfold FlagSet.modes
  generalize flags.has .ignoreCase = ignoreCase at read ⊢
  generalize flags.has .multiline = multiline at read ⊢
  cases ignoreCase <;> cases multiline
  · exact ⟨limit, fuel, {}, rfl, read⟩
  all_goals
    obtain ⟨more, read⟩ := readsModes (by rfl) (by rfl) read
    exact ⟨limit, more, _, rfl, read⟩

theorem readsMore (read : read? limit fuel t p frame outer = some r) : ∃ less, fuel = less + 1 := by
  cases fuel with
  | zero => contradiction
  | succ fuel => exact ⟨fuel, rfl⟩

theorem readsClose {parent : Frame} {q : Progress} {m n : Node}
    (read : read? limit (fuel + 1) (')' :: rest) p frame (parent :: outer) = some r) (closed : close p frame = (m, q))
    (quantified : quantified? q m rest = some (n, behind)) : read? limit fuel behind q (parent.add n) outer = some r := by
  have blank : skip? p (')' :: rest) = some (')' :: rest) := by simp [skip?, skipBlank?]
  simp only [read?, Option.bind_eq_bind, blank, Option.bind_some, closed, quantified] at read
  split at read
  · exact read
  · contradiction

theorem plusRead {flags : FlagSet} (modes : p.modes = flags.modes) {n : Node} (repeatable : n.isRepeatable)
    (ends : rest = [] ∨ ∃ more, rest = ')' :: more) :
    quantified? p n ('+' :: rest) = some (.repeated 1 none true n, rest) := by
  have blank (t : Text) (start : t = [] ∨ t.head? = some '+' ∨ t.head? = some ')') : skip? p t = some t := by
    refine skipsNothing (by rw [modes]; rfl) ?_
    rcases t with _ | ⟨c, t⟩
    · simp
    · rcases start with none | plus | close
      · cases none
      · cases plus
        simp
      · cases close
        simp
  rw [quantifiedParts, blank _ (.inr (.inl rfl)), Option.bind_some]
  simp only [quantifier?, if_pos repeatable]
  rcases ends with rfl | ⟨more, rfl⟩
  · rw [blank _ (.inl rfl)]
    simp [marked, lazy, possessed, modes, FlagSet.modes]
  · rw [blank _ (.inr (.inr rfl))]
    simp [marked, lazy, possessed, modes, FlagSet.modes]

def runNode (escape everything other : CharSet) (delimiters : Node) : Node :=
  .repeated 1 none true (.alt [.seq [.char escape, .char everything],
    .repeated 1 none true (.seq [.look true true delimiters, .char other])])

def runFrames (modes : Modes) (escape everything : CharSet) : List Frame :=
  [{ opening := .modes modes }, { opening := .modes modes, branches := [.seq [.char escape, .char everything]] },
    { opening := .modes {} }]

def runBehind (escaped : Text) : Text := ')' :: '[' :: '^' :: (escaped ++ ']' :: [')', '+', ')', '+'])

section
variable {flags : FlagSet} {e : Char} {escaped left right : Text} {n : Node} {q : Progress}

theorem FlagSet.modesSolid (modes : p.modes = flags.modes) : p.modes.freeSpacing = false := by
  rw [modes]
  rfl

theorem runOpens (spells : Spelling e escaped) (modes : p.modes = flags.modes)
    (read : read? limit fuel (Balanced.escapeText escaped left right) p { opening := .modes {} } [] = some r) :
    ∃ (foldable : Bool) (everything : CharSet) (fuel : Nat),
      read? limit fuel (left ++ '|' :: (right ++ runBehind escaped)) p { opening := .look true true }
        (runFrames p.modes ((CharSet.single e).underCase (foldable && flags.has .ignoreCase)) everything) = some r := by
  have solid := FlagSet.modesSolid modes
  obtain ⟨fuel, rfl⟩ := readsMore read
  rw [runText, opensGroup (by decide)] at read
  obtain ⟨fuel, rfl⟩ := readsMore read
  obtain ⟨foldable, spelled⟩ := @spellingReadOf _ _ ('[' :: _) limit fuel { opening := .modes _ } [_] p solid spells
    (skipsNothing solid (by simp)) rfl
  rw [spelled] at read
  obtain ⟨fuel, rfl⟩ := readsMore read
  rw [classRead (ClassReader.anythingReadUnder p.modes.ignoreCase) (skipsNothing solid (by simp)) rfl] at read
  obtain ⟨fuel, rfl⟩ := readsMore read
  rw [barRead] at read
  obtain ⟨fuel, rfl⟩ := readsMore read
  rw [opensGroup (by simp [maxDepth])] at read
  obtain ⟨fuel, rfl⟩ := readsMore read
  rw [opensRejection (by simp [maxDepth])] at read
  have ignoreCase : p.modes.ignoreCase = flags.has .ignoreCase := by
    rw [modes]
    rfl
  rw [ignoreCase] at read
  exact ⟨foldable, _, fuel, read⟩

theorem runCloses {frame : Frame} {escape everything : CharSet} {before : Modes} (spells : Spelling e escaped)
    (solid : p.modes.freeSpacing = false) (started : before = flags.modes)
    (opened : frame.opening = .look true true)
    (read : read? limit fuel (runBehind escaped) p frame (runFrames before escape everything) = some (n, q)) :
    n = runNode escape everything (ClassReader.otherUnder p.modes.ignoreCase e) frame.tree := by
  have closed : close p frame = (.look true true frame.tree, p) := by simp only [close, opened]
  have still := unquantified (p := p) (.look true true frame.tree)
    (skipsNothing solid (t := '[' :: '^' :: (escaped ++ ']' :: [')', '+', ')', '+'])) (by simp)) rfl
  obtain ⟨fuel, rfl⟩ := readsMore read
  have read := readsClose read closed still
  obtain ⟨fuel, rfl⟩ := readsMore read
  rw [classRead (ClassReader.otherReadUnder p.modes.ignoreCase spells) (skipsNothing solid (by simp)) rfl] at read
  obtain ⟨fuel, rfl⟩ := readsMore read
  have read := readsClose read rfl (plusRead started rfl (.inr ⟨_, rfl⟩))
  obtain ⟨fuel, rfl⟩ := readsMore read
  have read := readsClose read rfl (plusRead started rfl (.inl rfl))
  obtain ⟨fuel, rfl⟩ := readsMore read
  simp only [read?, skip?, skipBlank?, List.length_nil, Option.bind_eq_bind, Option.bind_some] at read
  split at read <;> cases read
  rfl

def ReadsAlone (first last : Modes) (t : Text) (n : Node) : Prop :=
  ∃ limit fuel p q, p.modes = first ∧ q.modes = last ∧ read? limit fuel t p { opening := .modes {} } [] = some (n, q)

theorem treeAlone (read : tree? (flags.openNative t) = some (n, q)) : ReadsAlone flags.modes q.modes t n := by
  obtain ⟨limit, fuel, p, modes, read⟩ := openerReads read
  exact ⟨limit, fuel, p, q, modes, rfl, read⟩

def Frame.ends (f : Frame) : List Node := f.branches.reverse ++ [f.branch]

theorem treeOfEnds {f : Frame} (present : f.branches ≠ []) : f.tree = .alt f.ends := by
  unfold Frame.tree
  split
  · contradiction
  · rfl

theorem delimitersRead {l m : Node} {last : Modes} (leftAlone : ReadsAlone flags.modes flags.modes left l)
    (rightAlone : ReadsAlone flags.modes last right m) (solid : last.freeSpacing = false) (modes : p.modes = flags.modes)
    (read : read? limit fuel (left ++ '|' :: (right ++ ')' :: rest)) p { opening := .look true true } outer = some r) :
    ∃ f g frame q fuel, Frame.tree f = l ∧ Frame.tree g = m ∧ frame.opening = .look true true ∧
      frame.tree.Alike (.alt (f.ends ++ g.ends)) ∧ q.modes.freeSpacing = false ∧
      read? limit fuel (')' :: rest) q frame outer = some r := by
  obtain ⟨_, _, p₁, q₁, starts, ends, leftRead⟩ := leftAlone
  obtain ⟨_, _, p₂, q₂, starts', ends', rightRead⟩ := rightAlone
  obtain ⟨f, f', p', fuel, leftTree, leftWithin, modes', read⟩ := readsWithin (.bar _) leftRead (FlagSet.modesSolid ends)
    read (modes.trans starts.symm) (@Within.bottom _ _ [] _ _ rfl rfl rfl)
  obtain ⟨fuel, rfl⟩ := readsMore read
  rw [barRead] at read
  obtain ⟨g, g', p'', fuel, rightTree, rightWithin, modes'', read⟩ := readsWithin (.close _) rightRead
    (by rwa [ends']) read (modes'.trans (ends.trans starts'.symm))
    (@Within.bottom _ _ f'.nextBranch.branches _ _ rfl rfl rfl)
  cases leftWithin with
  | bottom leftOpened leftItems leftBranches =>
    cases rightWithin with
    | bottom opened items branches =>
      refine ⟨f, g, g', p'', fuel, leftTree, rightTree, opened.trans leftOpened, ?_, by rwa [modes'', ends'], read⟩
      have present : g'.branches ≠ [] := by
        intro none
        rw [none] at branches
        simp [Frame.nextBranch] at branches
      rw [treeOfEnds present, Node.Alike, Node.unnumbered, Node.unnumbered, Node.unnumberedMap, Node.unnumberedMap]
      simp only [Frame.ends, List.map_append, List.map_reverse, branches, Frame.nextBranch, List.map_cons, leftBranches,
        List.map_nil, List.append_nil, List.reverse_append, List.reverse_cons, List.append_assoc]
      rw [leftItems.branch, items.branch]

theorem runRead {l m : Node} {last : Modes} (spells : Spelling e escaped)
    (leftAlone : ReadsAlone flags.modes flags.modes left l) (rightAlone : ReadsAlone flags.modes last right m)
    (solid : last.freeSpacing = false)
    (read : tree? (flags.openNative (Balanced.escapeText escaped left right)) = some (n, q)) :
    ∃ (foldable : Bool) (everything other : CharSet) (f g : Frame) (delimiters : Node), f.tree = l ∧ g.tree = m ∧
      delimiters.Alike (.alt (f.ends ++ g.ends)) ∧
      n = runNode ((CharSet.single e).underCase (foldable && flags.has .ignoreCase)) everything other delimiters := by
  obtain ⟨limit, fuel, p, modes, read⟩ := openerReads read
  obtain ⟨foldable, everything, fuel, read⟩ := runOpens spells modes read
  obtain ⟨f, g, frame, q', fuel, leftTree, rightTree, opened, alike, still, read⟩ :=
    delimitersRead leftAlone rightAlone solid modes read
  exact ⟨foldable, everything, _, f, g, frame.tree, leftTree, rightTree, alike, runCloses spells still modes opened read⟩

end

end Engine.Reader
end ExtendedPattern
