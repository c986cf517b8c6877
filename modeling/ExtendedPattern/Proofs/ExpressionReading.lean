import ExtendedPattern.Proofs.LeafReading
import ExtendedPattern.Proofs.References
import ExtendedPattern.Proofs.RunReading
import ExtendedPattern.Proofs.WrittenPlaces

/-! How the engine reads the text of an expression: part by part, with its groups where the expression has them. -/
namespace ExtendedPattern

namespace Expression
variable {leaf opener : Type}

/-- No group of the expression is repeated no times. -/
def Positive : Expression leaf opener → Prop
  | empty => True
  | atom _ _ => True
  | group _ body q => body.Positive ∧ ∀ b ∈ q, b.bounds.Positive
  | seq first second => first.Positive ∧ second.Positive
  | alt first second => first.Positive ∧ second.Positive

end Expression

namespace Engine
open Program (lastGroup lastGroupIn)

namespace Node
variable {referenced : List Nat} {k l : Nat} {n : Node} {items : List Node}

def Reaches (referenced : List Nat) (k : Nat) (n : Node) : Prop := (n.shape referenced).hard = true ∨ k ≤ lastGroup n

theorem Reaches.mono (reaches : n.Reaches referenced k) (le : l ≤ k) : n.Reaches referenced l :=
  reaches.imp_right (Nat.le_trans le)

theorem lastGroupMember (mem : n ∈ items) : lastGroup n ≤ lastGroupIn items :=
  Program.lastGroupInWithin.mp (Nat.le_refl _) n mem

theorem hardMember (mem : n ∈ items) (hard : (n.shape referenced).hard = true) : (shapeOfSeq referenced items).hard = true := by
  induction items with
  | nil => cases mem
  | cons m items ih =>
    rw [shapeOfSeq, Shape.followedBy, Bool.or_eq_true]
    rcases List.mem_cons.mp mem with rfl | mem
    · exact .inl hard
    · exact .inr (ih mem)

theorem Reaches.ofItems (reaches : n.Reaches referenced k) (mem : n ∈ items) : (Node.ofItems items).Reaches referenced k := by
  unfold Node.ofItems
  split
  · cases mem
  · rwa [List.mem_singleton.mp mem] at reaches
  · exact reaches.imp (hardMember mem) fun le => Nat.le_trans le (lastGroupMember mem)

theorem Reaches.ofBranches (reaches : n.Reaches referenced k) (mem : n ∈ items) : (Node.alt items).Reaches referenced k := by
  refine reaches.imp (fun hard => ?_) fun le => Nat.le_trans le (lastGroupMember mem)
  rw [shape, ← Bool.not_eq_false, altEasy]
  intro easy
  rw [easy n mem] at hard
  cases hard

theorem Reaches.repeated (reaches : n.Reaches referenced k) {high : Option Nat} (occurs : high ≠ some 0) (low : Nat)
    (greedy : Bool) : (Node.repeated low high greedy n).Reaches referenced k := by
  refine reaches.imp id fun le => ?_
  match high, occurs with
  | none, _ => exact le
  | some (bound + 1), _ => exact le

end Node

namespace Reader

namespace Frame
variable {referenced : List Nat} {k l : Nat} {f : Frame} {n : Node}

def Reaches (referenced : List Nat) (k : Nat) (f : Frame) : Prop :=
  k = 0 ∨ (∃ index, f.opening = .capture index ∧ k ≤ index) ∨ ∃ n, (n ∈ f.branches ∨ n ∈ f.items) ∧ n.Reaches referenced k

theorem Reaches.mono (reaches : f.Reaches referenced k) (le : l ≤ k) : f.Reaches referenced l := by
  rcases reaches with rfl | ⟨index, opening, within⟩ | ⟨n, mem, reaches⟩
  · exact .inl (Nat.le_zero.mp le)
  · exact .inr (.inl ⟨index, opening, Nat.le_trans le within⟩)
  · exact .inr (.inr ⟨n, mem, reaches.mono le⟩)

theorem Reaches.add (reaches : f.Reaches referenced k) (n : Node) : (f.add n).Reaches referenced k := by
  unfold Frame.add
  split
  · exact reaches
  · exact reaches.imp_right <| Or.imp_right fun ⟨m, mem, reaches⟩ => ⟨m, mem.imp_right (List.mem_cons_of_mem _), reaches⟩

theorem reachesAdded (reaches : n.Reaches referenced k) (f : Frame) : (f.add n).Reaches referenced k := by
  unfold Frame.add
  split
  · rename_i empty
    cases n <;> cases empty
    exact .inl (Nat.le_zero.mp (reaches.resolve_left (by simp [Node.shape, Node.Shape.nothing])))
  · exact .inr (.inr ⟨n, .inr List.mem_cons_self, reaches⟩)

theorem Reaches.nextBranch (reaches : f.Reaches referenced k) : f.nextBranch.Reaches referenced k := by
  refine reaches.imp_right (Or.imp_right ?_)
  rintro ⟨n, before | item, reaches⟩
  · exact ⟨n, .inl (List.mem_cons_of_mem _ before), reaches⟩
  · exact ⟨f.branch, .inl List.mem_cons_self, reaches.ofItems (List.mem_reverse.mpr item)⟩

theorem reachesTree (mem : n ∈ f.branches ∨ n ∈ f.items) (reaches : n.Reaches referenced k) : f.tree.Reaches referenced k := by
  unfold Frame.tree
  split
  · rename_i none
    rw [none] at mem
    exact reaches.ofItems (List.mem_reverse.mpr (mem.resolve_left List.not_mem_nil))
  · rcases mem with before | item
    · exact reaches.ofBranches (List.mem_append_left _ (List.mem_reverse.mpr before))
    · exact (reaches.ofItems (List.mem_reverse.mpr item)).ofBranches (List.mem_append_right _ (List.mem_singleton_self _))

theorem Reaches.close (reaches : f.Reaches referenced k) (p : Progress) : (close p f).1.Reaches referenced k := by
  unfold Reader.close
  split
  · rename_i index opening
    rcases reaches with rfl | ⟨other, capture, within⟩ | ⟨n, mem, reaches⟩
    · exact .inr (Nat.zero_le _)
    · cases opening.symm.trans capture
      exact .inr (Nat.le_trans within (Nat.le_max_left _ _))
    · refine (reachesTree mem reaches).imp (fun hard => ?_) fun le => Nat.le_trans le (Nat.le_max_right _ _)
      simp [Node.shape, hard]
  · rename_i before opening
    rcases reaches with rfl | ⟨other, capture, _⟩ | ⟨n, mem, reaches⟩
    · exact .inr (Nat.zero_le _)
    · cases opening.symm.trans capture
    · exact reachesTree mem reaches
  · exact .inl rfl
  · exact .inl rfl

end Frame

variable {limit k : Nat} {referenced : List Nat} {p : Progress} {frame : Frame} {outer : List Frame} {opened : List (Nat × Nat)}
  {n m : Node} {r : Progress} {t rest : Text} {c : Char} {kept kept' : Prop}

structure Grown (referenced : List Nat) (f g : Frame) : Prop where
  opening : g.opening = f.opening
  reaches : ∀ k, f.Reaches referenced k → g.Reaches referenced k

theorem Grown.refl (f : Frame) : Grown referenced f f := ⟨rfl, fun _ => id⟩

theorem Grown.trans {f g h : Frame} (one : Grown referenced f g) (other : Grown referenced g h) : Grown referenced f h :=
  ⟨other.opening.trans one.opening, fun k reaches => other.reaches k (one.reaches k reaches)⟩

theorem Grown.add (f : Frame) (n : Node) : Grown referenced f (f.add n) :=
  ⟨(f.addKeeps n).2, fun _ reaches => reaches.add n⟩

/-- The reading has come past a part with groups at `places`. Where `kept` holds, code is made for the last of them. -/
inductive Past (referenced : List Nat) (limit : Nat) (rest : Text) (p : Progress) (frame : Frame) (outer : List Frame)
    (opened : List (Nat × Nat)) (n : Node) (r : Progress) (places : List Nat) (kept : Prop) : Prop where
  | intro {p' : Progress} {frame' : Frame} {more : List (Nat × Nat)} (reads : Reads limit rest p' frame' outer more n r)
      (placed : opened.map Prod.snd = places.map (· + rest.length) ++ more.map Prod.snd) (modes : p'.modes = p.modes)
      (count : p'.groups = p.groups + places.length) (grown : Grown referenced frame frame') (counted : kept → p'.groups ≤ p.groups ∨ frame'.Reaches referenced p'.groups)

theorem Past.andThen {chunk : Text} {places places' : List Nat}
    (first : Past referenced limit (chunk ++ rest) p frame outer opened n r places kept)
    (second : ∀ {p' : Progress} {frame' : Frame} {more : List (Nat × Nat)}, p'.modes = p.modes →
      Reads limit (chunk ++ rest) p' frame' outer more n r → Past referenced limit rest p' frame' outer more n r places' kept') :
    Past referenced limit rest p frame outer opened n r (places.map (· + chunk.length) ++ places') (kept ∧ kept') := by
  obtain ⟨reads, placed, modes, count, grown, counted⟩ := first
  obtain ⟨reads', placed', modes', count', grown', counted'⟩ := second modes reads
  refine ⟨reads', ?_, modes'.trans modes, ?_, grown.trans grown', fun both => ?_⟩
  · rw [placed, placed']
    simp
  · simp [count', count, Nat.add_assoc]
  · rcases counted' both.2 with few | reaches
    · rcases counted both.1 with fewer | reaches
      · exact .inl (Nat.le_trans few fewer)
      · exact .inr ((grown'.reaches _ reaches).mono few)
    · exact .inr reaches

def isPlain (c : Char) : Bool := !(['|', ')', '(', '.', '^', '$', '?', '*', '+', '\\', '['].contains c)

theorem plainOther (plain : isPlain c) : ∀ d ∈ ['|', ')', '(', '.', '^', '$', '?', '*', '+', '\\', '['], c ≠ d := by
  simp only [isPlain, Bool.not_eq_true', List.contains_eq_mem, decide_eq_false_iff_not] at plain
  exact fun d mem same => plain (same ▸ mem)

theorem plainAtom (plain : isPlain c) (limit : Nat) (p : Progress) (t : Text) :
    atom? limit p (c :: t) = some (.char ((CharSet.single c).underCase p.modes.ignoreCase), p, t) := by
  have other := plainOther plain
  simp only [List.forall_mem_cons, List.not_mem_nil, false_implies, implies_true, and_true] at other
  simp [atom?, other]

theorem readsChar (solid : p.modes.freeSpacing = false) (plain : isPlain c)
    (reads : Reads limit (c :: t) p frame outer opened n r) : ∃ s m behind, quantified? p (.char s) t = some (m, behind) ∧
      Reads limit behind p (frame.add m) outer opened n r := by
  have other := plainOther plain
  simp only [List.forall_mem_cons, List.not_mem_nil, false_implies, implies_true, and_true] at other
  obtain ⟨m, p', inner, m', behind, atom, quantified, reads⟩ :=
    reads.atAtom (skipsOther solid other.2.2.1 t) (List.cons_ne_nil _ _) (by simp [other])
  cases (plainAtom plain limit p t).symm.trans atom
  exact ⟨_, _, _, quantified, reads⟩

theorem countedPlain (mark : c = ',' ∨ NativeToken.isDigit c) : isPlain c ∧ c ∉ ['?', '*', '+', '{', '('] := by
  rcases mark with rfl | digit
  · decide
  · have other {d : Char} (other : NativeToken.isDigit d = false) : c ≠ d := digitOther digit other
    simp only [isPlain, Bool.not_eq_true', List.contains_eq_mem, decide_eq_false_iff_not, List.mem_cons, List.not_mem_nil,
      or_false, not_or]
    refine ⟨⟨?_, ?_, ?_, ?_, ?_, ?_, ?_, ?_, ?_, ?_, ?_⟩, ?_, ?_, ?_, ?_, ?_⟩ <;> exact other (by decide)

theorem readsCounted (referenced : List Nat) (solid : p.modes.freeSpacing = false) {body : Text} (plain : ∀ c ∈ body, c = ',' ∨ NativeToken.isDigit c)
    (reads : Reads limit (body ++ '}' :: t) p frame outer opened n r) :
    ∃ frame', Reads limit ('}' :: t) p frame' outer opened n r ∧ Grown referenced frame frame' := by
  induction body generalizing frame with
  | nil => exact ⟨frame, reads, .refl _⟩
  | cons c body ih =>
    obtain ⟨mark, others⟩ := List.forall_mem_cons.mp plain
    have settled : Settled (body ++ '}' :: t) := by
      cases body with
      | nil => exact .sign (by decide) t
      | cons d body => exact .sign (countedPlain (List.forall_mem_cons.mp others).1).2 _
    rw [List.cons_append] at reads
    obtain ⟨s, m, behind, quantified, reads⟩ := readsChar solid (countedPlain mark).1 reads
    rw [settled.unmarked solid] at quantified
    cases quantified
    obtain ⟨frame', reads, grown⟩ := ih others reads
    exact ⟨frame', reads, (Grown.add _ _).trans grown⟩

theorem readsQuantifier (referenced : List Nat) (solid : p.modes.freeSpacing = false) (q : Option Quantifier) (settled : Settled rest)
    {behind : Text} {m' : Node} (quantified : quantified? p m (text q ++ rest) = some (m', behind))
    (reads : Reads limit behind p (frame.add m') outer opened n r) :
    ∃ frame', Reads limit rest p frame' outer opened n r ∧ Grown referenced frame frame' ∧
      ((∀ b ∈ q, b.bounds.Positive) → ∀ k, m.Reaches referenced k → frame'.Reaches referenced k) := by
  cases q with
  | none =>
    have alone : quantified? p m rest = some (m', behind) := quantified
    rw [settled.unmarked solid] at alone
    cases alone
    exact ⟨_, reads, .add _ _, fun _ k reaches => Frame.reachesAdded reaches _⟩
  | some q =>
    rcases quantifiedTakes solid q settled quantified with ⟨rfl, low, high, greedy, rfl, occurs⟩ | ⟨rfl, rfl, body, spelled, plain⟩
    · exact ⟨_, reads, .add _ _, fun positive k reaches =>
        Frame.reachesAdded (reaches.repeated (occurs (positive q rfl)) low greedy) _⟩
    · -- Bounds too large to be read stand for their characters, and a sign of reluctance quantifies the brace.
      have parts : text q ++ rest = '{' :: (body ++ '}' :: (NativeToken.reluctance q.reluctant ++ rest)) := by
        have whole : text q = text q.bounds ++ NativeToken.reluctance q.reluctant := rfl
        rw [whole, spelled]
        simp
      rw [parts] at reads
      have inner : Settled (body ++ '}' :: (NativeToken.reluctance q.reluctant ++ rest)) := by
        cases body with
        | nil => exact .sign (by decide) _
        | cons d body => exact .sign (countedPlain (List.forall_mem_cons.mp plain).1).2 _
      obtain ⟨s, m, behind, quantified, reads⟩ := readsChar solid (by decide) reads
      rw [inner.unmarked solid] at quantified
      cases quantified
      obtain ⟨f, reads, grown⟩ := readsCounted referenced solid plain reads
      obtain ⟨s', m', behind', quantified, onward⟩ := readsChar solid (by decide) reads
      have ends : behind' = rest := by
        cases reluctant : q.reluctant with
        | false =>
          rw [reluctant] at quantified
          have alone : quantified? p (.char s') rest = some (m', behind') := quantified
          rw [settled.unmarked solid] at alone
          cases alone
          rfl
        | true =>
          rw [reluctant] at quantified
          have marked : quantified? p (.char s') (text (Quantifier.mk .option false) ++ rest) = some (m', behind') := quantified
          rcases quantifiedTakes solid _ settled marked with ⟨same, _⟩ | ⟨_, _, body, spelled, _⟩
          · exact same
          · cases spelled
      rw [ends] at onward
      exact ⟨_, onward, (Grown.add _ _).trans ((Grown.add _ _).trans (grown.trans (.add _ _))), fun _ k reaches =>
        (grown.reaches k ((Frame.reachesAdded reaches _).add _)).add _⟩

theorem Past.here (reads : Reads limit rest p frame outer opened n r) : Past referenced limit rest p frame outer opened n r [] True :=
  ⟨reads, rfl, rfl, rfl, .refl _, fun _ => .inl (Nat.le_refl _)⟩

theorem Past.imp {places : List Nat} (past : Past referenced limit rest p frame outer opened n r places kept)
    (less : kept' → kept) : Past referenced limit rest p frame outer opened n r places kept' := by
  obtain ⟨reads, placed, modes, count, grown, counted⟩ := past
  exact ⟨reads, placed, modes, count, grown, fun given => counted (less given)⟩

theorem Past.silent (past : Past referenced limit rest p frame outer opened n r [] kept) :
    Past referenced limit rest p frame outer opened n r [] True := by
  obtain ⟨reads, placed, modes, count, grown, _⟩ := past
  exact ⟨reads, placed, modes, count, grown, fun _ => .inl (Nat.le_of_eq count)⟩

theorem AtomMade.modes {q : Progress} (made : AtomMade p n q) : q.modes = p.modes := by cases made <;> rfl

section Leaves
variable (q : Option Quantifier) (settled : Settled rest) (solid : p.modes.freeSpacing = false)
include settled solid

theorem pastAtom (ordinary : c ∉ ['|', ')', '('])
    (takes : ∀ {m p' inner}, atom? limit p (c :: t) = some (m, p', inner) → inner = text q ++ rest)
    (reads : Reads limit (c :: t) p frame outer opened n r) :
    Past referenced limit rest p frame outer opened n r [] True := by
  have noOpener : c ≠ '(' := by
    rintro rfl
    exact ordinary (by decide)
  obtain ⟨m, p', inner, m', behind, atom, quantified, reads⟩ :=
    reads.atAtom (skipsOther solid noOpener t) (List.cons_ne_nil _ _) (by simpa using ordinary)
  have modes := (atomMade atom).modes
  obtain rfl := takes atom
  obtain ⟨frame', reads, grown, _⟩ := readsQuantifier referenced (by rw [modes, solid]) q settled quantified reads
  have same := (atomMade atom).groups.1
  exact ⟨reads, rfl, modes, same, grown, fun _ => .inl (Nat.le_of_eq same)⟩

end Leaves

theorem escapeAtom {q : Progress} {u : Text} (read : atom? limit p ('\\' :: t) = some (m, q, u)) :
    ∃ e, escape? false t = some (e, u) := by
  have read : ((escape? false t).bind fun e => (escaped? limit p e.1).bind fun made => some (made.1, made.2, e.2)) =
      some (m, q, u) := read
  simp only [Option.bind_eq_some_iff] at read
  obtain ⟨⟨e, rest⟩, escape, _, _, same⟩ := read
  cases same
  exact ⟨e, escape⟩

theorem classAtom {q : Progress} {u : Text} (read : atom? limit p ('[' :: t) = some (m, q, u)) :
    ∃ s plain, ClassReader.class? p.modes.ignoreCase t = some (s, plain, u) := by
  have read : ((ClassReader.class? p.modes.ignoreCase t).bind fun made =>
      some (Node.ofItems (.char made.1 :: made.2.1.map fun c => .char (.single c)), p, made.2.2)) = some (m, q, u) := read
  simp only [Option.bind_eq_some_iff] at read
  obtain ⟨⟨s, plain, rest⟩, made, same⟩ := read
  cases same
  exact ⟨s, plain, made⟩

theorem closeKeeps (p : Progress) {f : Frame} (before : ∀ modes, f.opening = .modes modes → modes = p.modes) :
    (close p f).2.modes = p.modes ∧ (close p f).2.groups = p.groups := by
  unfold close
  split
  · exact ⟨rfl, rfl⟩
  · rename_i modes opening
    exact ⟨before modes opening, rfl⟩
  · exact ⟨rfl, rfl⟩
  · exact ⟨rfl, rfl⟩

theorem readsOpener (solid : p.modes.freeSpacing = false) (o : NativeOpener) (inside : Settled t)
    (reads : Reads limit (text o ++ t) p frame outer opened n r) :
    ∃ opening p' more, Reads limit t p' { opening } (frame :: outer) more n r ∧ p'.modes = p.modes ∧
      opened.map Prod.snd = o.places t.length ++ more.map Prod.snd ∧ p'.groups = p.groups + (o.places 0).length ∧
      (p'.groups ≤ p.groups ∨ opening = .capture p'.groups) ∧ ∀ modes, opening = .modes modes → modes = p.modes := by
  have opens {behind : Text} {opening : Opening} {q : Progress} (uncommented : ¬ ['?', '#'] <+: behind)
      (known : open? p behind = some (.group opening, q, t)) (reads : Reads limit ('(' :: behind) p frame outer opened n r) :
      ∃ more, Reads limit t q { opening } (frame :: outer) more n r ∧
        opened = (opening.index?.map (·, behind.length + 1)).toList ++ more := by
    have skipped : skip? p ('(' :: behind) = some ('(' :: behind) := by
      refine skipsSolid solid ?_
      rintro ⟨more, same⟩
      exact uncommented ⟨more, (List.cons.inj same).2⟩
    obtain ⟨_, _, _, more, opens, rfl, reads⟩ | ⟨_, _, _, _, _, opens, _⟩ := reads.atOpener skipped
    · cases known.symm.trans opens
      exact ⟨more, reads, rfl⟩
    · cases known.symm.trans opens
  have marked (t : Text) : skip? p ('?' :: t) = some ('?' :: t) := skipsOther solid (by decide) t
  cases o with
  | capture =>
    have known : open? p t = some (.group (.capture (p.groups + 1)), { p with groups := p.groups + 1 }, t) := by
      cases t with
      | nil => rfl
      | cons c t =>
        have noMark : c ≠ '?' := by
          rintro rfl
          exact inside.unquantified '?' rfl (by decide)
        exact opensCapture (skipsSolid solid inside.uncommented) noMark
    have uncommented : ¬ ['?', '#'] <+: t := by
      rintro ⟨more, rfl⟩
      exact inside.unquantified '?' rfl (by decide)
    obtain ⟨more, onward, rfl⟩ := opens uncommented known reads
    exact ⟨_, _, more, onward, rfl, by simp [Opening.index?, NativeOpener.places, Nat.add_comm], rfl, .inr rfl, fun _ same => by cases same⟩
  | grouping =>
    have colon : skip? p (':' :: t) = some (':' :: t) := skipsOther solid (by decide) t
    have known : open? p ('?' :: ':' :: t) = some (.group (.modes p.modes), p, t) := by
      rw [opensModes (marked _) (by decide), modes?, colon]
      rfl
    obtain ⟨more, onward, behind⟩ := opens (by simp) known reads
    refine ⟨_, _, more, onward, rfl, congrArg (List.map Prod.snd) behind, rfl, .inl (Nat.le_refl _), fun _ same => ?_⟩
    cases same
    rfl
  | look ahead negative =>
    have known : open? p ((lookText ahead negative).drop 1 ++ t) = some (.group (.look ahead negative), p, t) := by
      cases ahead <;> cases negative <;> simp [lookText, open?, marked]
    have spelled : text (NativeOpener.look ahead negative) ++ t = '(' :: ((lookText ahead negative).drop 1 ++ t) := by
      cases ahead <;> cases negative <;> rfl
    have uncommented : ¬ ['?', '#'] <+: (lookText ahead negative).drop 1 ++ t := by
      cases ahead <;> cases negative <;> simp [lookText]
    rw [spelled] at reads
    obtain ⟨more, onward, behind⟩ := opens uncommented known reads
    exact ⟨_, _, more, onward, rfl, congrArg (List.map Prod.snd) behind, rfl, .inl (Nat.le_refl _),
      fun _ same => by cases same⟩

theorem pastGroup (solid : p.modes.freeSpacing = false) (o : NativeOpener) (q : Option Quantifier) (settled : Settled rest)
    {body : Text} {places : List Nat} (inside : Settled (body ++ ')' :: (text q ++ rest)))
    (inner : ∀ {p' : Progress} {frame' : Frame} {outer' : List Frame} {more : List (Nat × Nat)}, p'.modes = p.modes →
      Reads limit (body ++ ')' :: (text q ++ rest)) p' frame' outer' more n r →
      Past referenced limit (')' :: (text q ++ rest)) p' frame' outer' more n r places kept)
    (reads : Reads limit (text o ++ (body ++ ')' :: (text q ++ rest))) p frame outer opened n r) :
    Past referenced limit rest p frame outer opened n r ((o.places body.length ++ places).map (· + (')' :: text q).length))
      (kept ∧ ∀ b ∈ q, b.bounds.Positive) := by
  obtain ⟨opening, p₁, more, reads, modes, placed, count, counted, before⟩ := readsOpener solid o inside reads
  obtain ⟨reads, placed', modes', count', grown, counted'⟩ := inner modes reads
  rename_i p₂ f _
  have back : ∀ modes, f.opening = .modes modes → modes = p₂.modes := by
    intro modes'' same
    rw [grown.opening] at same
    rw [before modes'' same, modes', modes]
  obtain ⟨keeps, groups⟩ := closeKeeps p₂ back
  have solid' : p₂.modes.freeSpacing = false := by rw [modes', modes, solid]
  obtain ⟨parent, others, m, behind, same, quantified, reads⟩ := reads.atClose (skipsOther solid' (by decide) _)
  cases same
  obtain ⟨frame', reads, grown', reaches⟩ :=
    readsQuantifier referenced (by rw [keeps, solid']) q settled quantified reads
  refine ⟨reads, ?_, by rw [keeps, modes', modes], ?_, grown', fun given => ?_⟩
  · rw [placed, placed']
    cases o <;> simp [NativeOpener.places, Nat.add_assoc, Nat.add_comm, Nat.add_left_comm]
  · rw [groups, count', count]
    cases o <;> simp [NativeOpener.places, Nat.add_comm, Nat.add_left_comm]
  · rw [groups]
    have closed {k : Nat} (inner : f.Reaches referenced k) : frame'.Reaches referenced k :=
      reaches given.2 k (inner.close p₂)
    rcases counted' given.1 with few | inner
    · rcases counted with fewer | capture
      · exact .inl (Nat.le_trans few fewer)
      · exact .inr (closed (.inr (.inl ⟨_, grown.opening.trans capture, few⟩)))
    · exact .inr (closed inner)

theorem literalPlain (c : Literal) : isPlain c.char ∧ c.char ∉ ['?', '*', '+', '{', '('] := by
  obtain ⟨c, _, _, plain⟩ := c
  simp only [operators, List.mem_cons, List.not_mem_nil, or_false, not_or] at plain
  simp [isPlain, plain]

theorem flatClassPast (solid : p.modes.freeSpacing = false) (k : FlatClass) (q : Option Quantifier) (settled : Settled rest)
    (reads : Reads limit (text k ++ (text q ++ rest)) p frame outer opened n r) :
    Past referenced limit rest p frame outer opened n r [] True := by
  have spelled : text k ++ (text q ++ rest) = '[' :: (k.body ++ ']' :: (text q ++ rest)) := by simp [text]
  rw [spelled] at reads
  refine pastAtom q settled solid (by decide) (fun {m p' inner} read => ?_) reads
  obtain ⟨s, plain, read⟩ := classAtom read
  exact ClassReader.flatClassTakes k read

theorem digitsApart {t : Text} (apart : digitFollows t = false) : ∀ c ∈ t.head?, NativeToken.isDigit c = false := by
  rintro c mem
  rw [digitFollows, Option.mem_def.mp mem] at apart
  exact apart

theorem numberTakes {number : Nat} {q : Progress} {u : Text} (apart : digitFollows t = false)
    (read : atom? limit p ('\\' :: (Text.decimal number ++ t)) = some (m, q, u)) : u = t := by
  obtain ⟨e, escape⟩ := escapeAtom read
  have digits := NativeToken.decimalDigits number
  cases spelled : Text.decimal number with
  | nil => exact absurd spelled (by simp [Text.decimal])
  | cons d more =>
    rw [spelled] at escape digits
    have digit : isDecimal d := digits d List.mem_cons_self
    rw [List.cons_append, escape?, if_pos digit, ← List.cons_append] at escape
    obtain ⟨⟨v, behind⟩, number, same⟩ := Option.map_eq_some_iff.mp escape
    cases same
    exact (decimalTakes digits (digitsApart apart) number).1

theorem pastLeaf (solid : p.modes.freeSpacing = false) (l : NativeLeaf) (q : Option Quantifier) (settled : Settled rest)
    (apart : ∀ number, l = .backreference number false → digitFollows (text q ++ rest) = false)
    (reads : Reads limit (text l ++ (text q ++ rest)) p frame outer opened n r) :
    Past referenced limit rest p frame outer opened n r [] True := by
  cases l with
  | literal c =>
    have other := plainOther (literalPlain c).1
    refine pastAtom q settled solid (by simp [other]) (fun {m p' inner} read => ?_) reads
    cases (plainAtom (literalPlain c).1 limit p _).symm.trans read
    rfl
  | escaped e =>
    refine pastAtom q settled solid (by decide) (fun {m p' inner} read => ?_) reads
    obtain ⟨x, escape⟩ := escapeAtom read
    exact escapableTakes e escape
  | dot =>
    refine pastAtom q settled solid (by decide) (fun {m p' inner} read => ?_) reads
    cases read
    rfl
  | caret =>
    refine pastAtom q settled solid (by decide) (fun {m p' inner} read => ?_) reads
    cases read
    rfl
  | dollar =>
    refine pastAtom q settled solid (by decide) (fun {m p' inner} read => ?_) reads
    cases read
    rfl
  | noMatch =>
    have first : Past referenced limit (['\\', 'B'] ++ text q ++ rest) p frame outer opened n r [] True :=
      pastAtom none (.sign (by decide) _) solid (by decide) (fun read => by cases read; rfl) reads
    exact (first.andThen fun modes reads => pastAtom q settled (by rw [modes, solid]) (by decide)
      (fun read => by cases read; rfl) reads).silent
  | anyMatch =>
    exact flatClassPast solid ⟨false, .escaped ⟨'s', .inr (by decide)⟩, [.escaped ⟨'S', .inr (by decide)⟩], by decide⟩ q settled
      reads
  | members c => exact flatClassPast solid c q settled reads
  | backreference number fenced =>
    cases fenced with
    | false =>
      have spelled : text (NativeLeaf.backreference number false) ++ (text q ++ rest) =
          '\\' :: (Text.decimal number ++ (text q ++ rest)) := by simp [text]
      rw [spelled] at reads
      exact pastAtom q settled solid (by decide) (fun read => numberTakes (apart number rfl) read) reads
    | true =>
      have spelled : text (NativeLeaf.backreference number true) ++ (text q ++ rest) =
          '\\' :: (Text.decimal number ++ (['(', '?', ':', ')'] ++ text q ++ rest)) := by simp [text]
      have fence : Settled (['(', '?', ':', ')'] ++ text q ++ rest) := ⟨by simp, by simp⟩
      rw [spelled] at reads
      have first : Past referenced limit (['(', '?', ':', ')'] ++ text q ++ rest) p frame outer opened n r [] True :=
        pastAtom none fence solid (by decide) (fun read => numberTakes rfl read) reads
      have body : Settled ([] ++ ')' :: (text q ++ rest)) := .sign (by decide) _
      have second {p' : Progress} {frame' : Frame} {more : List (Nat × Nat)} (modes : p'.modes = p.modes)
          (reads : Reads limit (['(', '?', ':', ')'] ++ text q ++ rest) p' frame' outer more n r) :
          Past referenced limit rest p' frame' outer more n r [] True := by
        have fenced : Past referenced limit rest p' frame' outer more n r
            ((NativeOpener.grouping.places ([] : Text).length ++ []).map (· + (')' :: text q).length)) _ :=
          pastGroup (by rw [modes, solid]) .grouping q settled body (fun _ => .here) reads
        exact fenced.silent
      exact (first.andThen second).silent
  | unresolved w =>
    have spelled : text (NativeLeaf.unresolved w) ++ (text q ++ rest) =
        '\\' :: ('k' :: '<' :: (w.name ++ '>' :: (text q ++ rest))) := by simp [text]
    rw [spelled] at reads
    refine pastAtom q settled solid (by decide) (fun {m p' inner} read => ?_) reads
    obtain ⟨e, escape⟩ := escapeAtom read
    have named : (name? '>' (w.name ++ '>' :: (text q ++ rest))).map (fun made => (Escape.named made.1, made.2)) =
      some (e, inner) := escape
    obtain ⟨⟨name, behind⟩, word, same⟩ := Option.map_eq_some_iff.mp named
    cases same
    refine nameTakes (by decide +kernel) (fun mem => ?_) word
    exact absurd (w.allowed _ mem) (by decide)

theorem atomSettled (l : NativeLeaf) (t : Text) : Settled (text l ++ t) := by
  cases l with
  | literal c => exact .sign (literalPlain c).2 t
  | backreference number fenced => exact .sign (by decide) _
  | _ => exact .sign (by decide) _

theorem printSettled (e : Native) (settled : Settled rest) : Settled (e.print ++ rest) := by
  induction e generalizing rest with
  | empty => exact settled
  | atom l q =>
    rw [Expression.print, List.append_assoc]
    exact atomSettled l _
  | group o body q ih =>
    have inside : Settled (body.print ++ ')' :: (text q ++ rest)) := ih (.sign (by decide) _)
    have spelled : (Expression.group o body q).print ++ rest = text o ++ (body.print ++ ')' :: (text q ++ rest)) := by
      simp [Expression.print]
    rw [spelled]
    cases o with
    | capture =>
      refine ⟨by simp [text], ?_⟩
      rintro ⟨more, same⟩
      have follows : body.print ++ ')' :: (text q ++ rest) = '?' :: '#' :: more := (List.cons.inj same).2.symm
      rw [follows] at inside
      exact inside.unquantified '?' rfl (by decide)
    | grouping => exact ⟨by simp [text], by simp [text]⟩
    | look ahead negative => cases ahead <;> cases negative <;> exact ⟨by simp [text, lookText], by simp [text, lookText]⟩
  | seq first second first_ih second_ih =>
    rw [Expression.print, List.append_assoc]
    exact first_ih (second_ih settled)
  | alt first second first_ih _ =>
    rw [Expression.print, List.append_assoc]
    exact first_ih (.sign (by decide) _)

theorem openerDigitless (o : NativeOpener) (t : Text) : digitFollows (text o ++ t) = false := by
  cases o with
  | look ahead negative => cases ahead <;> cases negative <;> rfl
  | _ => rfl

theorem quantifierDigitless (q : Option Quantifier) {behind : Text} (follows : digitFollows rest = true → digitFollows behind = true) :
    digitFollows (text q ++ rest) = true → digitFollows (text q ++ behind) = true := by
  cases q with
  | none => exact follows
  | some q =>
    obtain ⟨bounds, reluctant⟩ := q
    cases bounds <;> exact fun starts => by cases starts

theorem translateStarts (e : Extended) (flags : FlagSet) (slots : List (Option Text)) {behind rest : Text}
    (follows : digitFollows rest = true → digitFollows behind = true) :
    digitFollows ((e.translate flags slots behind).print ++ rest) = true → digitFollows (e.print ++ behind) = true := by
  induction e generalizing slots behind rest with
  | empty => exact follows
  | atom l q =>
    cases l with
    | literal c => exact id
    | dot =>
      rw [Expression.translate, Leaf.translate]
      split <;> exact fun starts => by cases starts
    | reference w =>
      rw [Expression.translate, Leaf.translate]
      split <;> exact fun starts => by cases starts
    | _ => exact fun starts => by cases starts
  | group o body q =>
    intro starts
    rw [Expression.translate, Expression.print, List.append_assoc, List.append_assoc, openerDigitless] at starts
    cases starts
  | seq first second first_ih second_ih =>
    rw [Expression.translate, Expression.print, Expression.print, List.append_assoc, List.append_assoc]
    exact first_ih slots (second_ih _ follows)
  | alt first second first_ih _ =>
    rw [Expression.translate, Expression.print, Expression.print, List.append_assoc, List.append_assoc]
    exact first_ih slots fun starts => by cases starts

theorem Past.behindBar {places : List Nat} (past : Past referenced limit rest p frame.nextBranch outer opened n r places kept) :
    Past referenced limit rest p frame outer opened n r places kept := by
  obtain ⟨reads, placed, modes, count, grown, counted⟩ := past
  exact ⟨reads, placed, modes, count, ⟨grown.opening, fun k reaches => grown.reaches k reaches.nextBranch⟩, counted⟩

theorem pastExpression (referenced : List Nat) (e : Extended) (flags : FlagSet) (slots : List (Option Text)) {behind : Text} (settled : Settled rest)
    (follows : digitFollows rest = true → digitFollows behind = true) (solid : p.modes.freeSpacing = false)
    (reads : Reads limit ((e.translate flags slots behind).print ++ rest) p frame outer opened n r) :
    Past referenced limit rest p frame outer opened n r (e.translate flags slots behind).captures e.Positive := by
  induction e generalizing slots behind rest p frame outer opened with
  | empty => exact .here reads
  | atom l q =>
    rw [Expression.translate, Expression.print, List.append_assoc] at reads
    refine pastLeaf solid _ q settled (fun number same => ?_) reads
    cases l with
    | reference w =>
      rw [Leaf.translate] at same
      split at same
      · have fenced : digitFollows (text q ++ behind) = false := (NativeLeaf.backreference.inj same).2
        rw [← Bool.not_eq_true] at fenced ⊢
        exact fun starts => fenced (quantifierDigitless q follows starts)
      · cases same
    | dot =>
      rw [Leaf.translate] at same
      split at same <;> cases same
    | _ => cases same
  | group o body q ih =>
    have closing (t : Text) : Settled (')' :: t) := .sign (by decide) t
    rw [Expression.translate, Expression.print, List.append_assoc, List.append_assoc] at reads
    exact pastGroup solid _ q settled (printSettled _ (closing _))
      (fun modes reads => ih _ (closing _) (fun starts => by cases starts) (by rw [modes, solid]) reads) reads
  | seq first second first_ih second_ih =>
    rw [Expression.translate, Expression.print, List.append_assoc] at reads
    exact (first_ih slots (printSettled _ settled) (translateStarts second flags _ follows) solid reads).andThen
      fun modes reads => second_ih _ settled follows (by rw [modes, solid]) reads
  | alt first second first_ih second_ih =>
    rw [Expression.translate, Expression.print, List.append_assoc] at reads
    refine (first_ih slots (.sign (by decide) _) (fun starts => by cases starts) solid reads).andThen fun modes reads => ?_
    have solid : _ = false := (congrArg Modes.freeSpacing modes).trans solid
    exact (second_ih _ settled follows solid (reads.atBar (skipsOther solid (by decide) _))).behindBar

theorem Reads.behindModes {q : Progress} {behind : Text} (reads : Reads limit t p frame outer opened n r)
    (blank : skip? p t = some ('(' :: rest)) (opens : open? p rest = some (.atom .empty, q, behind))
    (solid : q.modes.freeSpacing = false) (settled : Settled behind) : Reads limit behind q frame outer opened n r := by
  obtain ⟨_, _, _, _, opens', _⟩ | ⟨_, _, _, _, _, opens', quantified, more⟩ := reads.atOpener blank
  · cases opens.symm.trans opens'
  · cases opens.symm.trans opens'
    rw [settled.unmarked solid] at quantified
    cases quantified
    exact more

theorem Reads.behindFlags {flags : FlagSet} (reads : Reads limit (flags.openNative t) {} frame outer opened n r)
    (settled : Settled t) : ∃ p, p.modes = flags.modes ∧ p.groups = 0 ∧ Reads limit t p frame outer opened n r := by
  rw [FlagSet.openNative, FlagSet.openerSpelled] at reads
  unfold FlagSet.modes
  generalize flags.has .ignoreCase = ignoreCase at reads ⊢
  generalize flags.has .multiline = multiline at reads ⊢
  cases ignoreCase <;> cases multiline
  · exact ⟨{}, rfl, rfl, reads⟩
  all_goals exact ⟨_, rfl, rfl, reads.behindModes (by rfl) (by rfl) rfl settled⟩

theorem opensExpression {e : Extended} {flags modes : FlagSet} {tree : Node}
    (reads : Reads limit (modes.openNative (e.translate flags [] []).print) {} { opening := .modes {} } [] opened tree r) :
    opened.map Prod.snd = (e.translate flags [] []).captures ∧ (e.Positive → tree.Reaches r.referenced opened.length) := by
  have ended : Settled [] := ⟨by simp, by simp⟩
  have settled : Settled (e.translate flags [] []).print := by simpa using printSettled (e.translate flags [] []) ended
  obtain ⟨p, modes, fresh, reads⟩ := reads.behindFlags settled
  rw [← List.append_nil (Expression.print _)] at reads
  have solid : p.modes.freeSpacing = false := FlagSet.modesSolid modes
  obtain ⟨reads, placed, modes', count, grown, counted⟩ :=
    pastExpression r.referenced e flags [] ended id solid reads
  rename_i p' frame more
  have blank : skip? p' [] = some [] := rfl
  obtain ⟨_, rfl, rfl, rfl⟩ := reads.atEnd blank
  have places : opened.map Prod.snd = (e.translate flags [] []).captures := by simpa using placed
  refine ⟨places, fun positive => ?_⟩
  have all : opened.length = r.groups := by rw [count, fresh, Nat.zero_add, ← places, List.length_map]
  rw [all]
  rcases counted positive with few | none | ⟨index, opening, _⟩ | ⟨m, mem, reaches⟩
  · exact .inr (Nat.le_trans (fresh ▸ few) (Nat.zero_le _))
  · exact .inr (none ▸ Nat.zero_le _)
  · cases grown.opening.symm.trans opening
  · exact Frame.reachesTree mem reaches

end Reader

namespace Program

theorem buildReaches {limits : Limits} {pattern : Text} {program : Program} (built : build? limits pattern = some program)
    {opened : List (Nat × Nat)} {tree : Node} {q : Reader.Progress}
    (reads : Reader.Reads (Text.size pattern / 2) pattern {} { opening := .modes {} } [] opened tree q)
    (reaches : tree.Reaches q.referenced opened.length) : opened.length ≤ program.groups - 1 := by
  simp only [build?, Option.bind_eq_bind, Option.bind_eq_some_iff] at built
  obtain ⟨⟨_, _⟩, read, built⟩ := built
  obtain ⟨_, again⟩ := Reader.readsOfRead read
  obtain ⟨_, rfl, rfl⟩ := Reader.readsOnce reads again
  have within : Reader.Frame.Within { opening := .modes {} } 0 := ⟨by simp, by simp, fun index same => by contradiction⟩
  obtain ⟨count, _, _⟩ := Reader.readsCounts reads within (by simp)
  have fresh : ({} : Reader.Progress).groups = 0 := rfl
  split at built
  · rename_i easy
    obtain ⟨code, _, built⟩ := Option.bind_eq_some_iff.mp built
    cases built
    rw [Plan.Setting.isEasy, Plan.Setting.shape, Bool.not_eq_true'] at easy
    simpa using reaches.resolve_left (by simp [easy])
  · obtain ⟨⟨plan, guards⟩, _, built⟩ := Option.bind_eq_some_iff.mp built
    cases built
    rw [fresh, Nat.zero_add] at count
    exact Nat.le_of_eq count.symm

end Program
end Engine
end ExtendedPattern
