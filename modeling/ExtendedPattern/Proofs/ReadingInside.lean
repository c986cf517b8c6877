import ExtendedPattern.Proofs.GroupReading
import ExtendedPattern.Proofs.QuantifiersInside

/-! Reading the same text alone and inside a group. What stands behind it there changes nothing that was read in
front of it, as long as no free spacing is left on at the end. The trees are the same up to the numbers of groups. -/
namespace ExtendedPattern.Engine
variable {t u x : Text}

namespace Reader
variable {p p' : Progress}

theorem namedBackrefReads {q : Progress} {name : Text} {n : Node} (read : namedBackref? p name = some (n, q)) :
    n.unnumbered = .backref 0 ∧ q.modes = p.modes := by
  obtain ⟨group, rfl, rfl⟩ := namedBackrefMade read
  exact ⟨rfl, rfl⟩

theorem escapedInside {limit limit' : Nat} {e : Escape} {n n' : Node} {q q' : Progress}
    (read : escaped? limit p e = some (n, q)) (inside : escaped? limit' p' e = some (n', q'))
    (same : p'.modes = p.modes) :
    n.Alike n' ∧ q.modes = p.modes ∧ q'.modes = p.modes := by
  cases e with
  | numbered group =>
    simp only [escaped?] at read inside
    split at read <;> try contradiction
    split at inside <;> try contradiction
    obtain ⟨rfl, rfl⟩ := backrefMade read
    obtain ⟨rfl, rfl⟩ := backrefMade inside
    exact ⟨rfl, rfl, same⟩
  | named name =>
    have one := namedBackrefReads read
    have other := namedBackrefReads inside
    exact ⟨one.1.trans other.1.symm, one.2, other.2.trans same⟩
  | char c foldable =>
    simp only [escaped?, same] at read inside
    cases read
    cases inside
    exact ⟨rfl, rfl, same⟩
  | _ =>
    cases read
    cases inside
    exact ⟨rfl, rfl, same⟩

theorem bothChoose {α β : Type} {sign goal : Prop} [Decidable sign] {a b : Option α} {a' b' : Option β} {r : α} {r' : β}
    (one : a = some r → a' = some r' → goal) (other : b = some r → b' = some r' → goal)
    (read : (if sign then a else b) = some r) (inside : (if sign then a' else b') = some r') : goal := by
  by_cases chosen : sign
  · rw [if_pos chosen] at read inside
    exact one read inside
  · rw [if_neg chosen] at read inside
    exact other read inside

theorem atomInside {limit limit' : Nat} {n n' : Node} {q q' : Progress} {v : Text}
    (read : atom? limit p t = some (n, q, u)) (inside : atom? limit' p' (t ++ x) = some (n', q', v)) (fence : Fence x)
    (same : p'.modes = p.modes) : v = u ++ x ∧ n.Alike n' ∧ q.modes = p.modes ∧ q'.modes = p.modes := by
  cases t with
  | nil => contradiction
  | cons c t =>
    have agree {m : Node} (one : some (m, p, t) = some (n, q, u)) (other : some (m, p', t ++ x) = some (n', q', v)) :
        v = u ++ x ∧ n.Alike n' ∧ q.modes = p.modes ∧ q'.modes = p.modes := by
      cases one
      cases other
      exact ⟨rfl, rfl, rfl, same⟩
    rw [List.cons_append] at inside
    simp only [atom?, same] at read inside
    refine bothChoose agree (bothChoose agree (bothChoose agree (bothChoose (fun none => by contradiction) (bothChoose (fun read inside => ?_)
      (bothChoose (fun read inside => ?_) agree))))) read inside
    · simp only [Option.bind_eq_bind, Option.bind_eq_some_iff] at read inside
      obtain ⟨⟨e, rest⟩, escape, ⟨m, r⟩, made, same'⟩ := read
      obtain ⟨⟨e', rest'⟩, escape', ⟨m', r'⟩, made', same''⟩ := inside
      cases same'
      cases same''
      cases (escapeInside escape fence).symm.trans escape'
      exact ⟨rfl, escapedInside made made' same⟩
    · simp only [Option.bind_eq_bind, Option.bind_eq_some_iff] at read inside
      obtain ⟨⟨s, plain, rest⟩, made, same'⟩ := read
      obtain ⟨⟨s', plain', rest'⟩, made', same''⟩ := inside
      cases same'
      cases same''
      cases (ClassReader.classInside made fence).symm.trans made'
      exact ⟨rfl, rfl, rfl, same⟩

theorem modesInside {before : Modes} {letters fuel more : Nat} {negated : Bool} {o : Opened} {q : Progress}
    (read : modes? before p letters negated fuel t = some (o, q, u)) (fence : Fence x) (same : p'.modes = p.modes)
    (enough : fuel ≤ more) :
    ∃ q', modes? before p' letters negated more (t ++ x) = some (o, q', u ++ x) ∧ q'.modes = q.modes := by
  induction fuel generalizing p p' letters negated t more with
  | zero => contradiction
  | succ fuel ih =>
    obtain ⟨more, rfl⟩ := Nat.exists_eq_add_of_le' (Nat.le_trans (Nat.succ_le_succ (Nat.zero_le fuel)) enough)
    have enough := Nat.le_of_succ_le_succ enough
    simp only [modes?, Option.bind_eq_bind, Option.bind_eq_some_iff] at read
    obtain ⟨v, skipped, read⟩ := read
    cases v with
    | nil => contradiction
    | cons c rest =>
      have inside := skipInside skipped fence same (.inl (List.cons_ne_nil _ _))
      simp only [modes?, Option.bind_eq_bind, inside, Option.bind_some, List.cons_append]
      split at read
      · contradiction
      · rename_i follows
        cases follows
        split at read <;> cases read
        rename_i present
        exact ⟨p', if_neg present, same⟩
      · rename_i follows
        cases follows
        split at read <;> cases read
        rename_i present
        exact ⟨p', if_neg present, same⟩
      · rename_i follows
        cases follows
        split at read <;> try contradiction
        rename_i first
        obtain ⟨q', again, modes⟩ := ih read same enough
        exact ⟨q', (if_neg first).trans again, modes⟩
      · rename_i noClose noColon noDash follows
        cases follows
        obtain ⟨m, set, read⟩ := Option.bind_eq_some_iff.mp read
        have both : { p' with modes := m }.modes = { p with modes := m }.modes := rfl
        have further := ih read both enough
        split
        · contradiction
        · rename_i follows
          exact absurd (List.cons.inj follows).1 noClose
        · rename_i follows
          exact absurd (List.cons.inj follows).1 noColon
        · rename_i follows
          exact absurd (List.cons.inj follows).1 noDash
        · rename_i follows
          cases follows
          rw [same, set]
          exact further

def Opening.unnumbered : Opening → Opening
  | .capture _ => .capture 0
  | o => o

inductive Opened.Alike : Opened → Opened → Prop where
  | group {one other : Opening} (same : one.unnumbered = other.unnumbered) : Alike (.group one) (.group other)
  | atom {n m : Node} (alike : n.Alike m) : Alike (.atom n) (.atom m)

theorem Opened.Alike.refl (o : Opened) : o.Alike o := by
  cases o with
  | group opening => exact .group rfl
  | atom n => exact .atom rfl

theorem openNamedInside {o o' : Opened} {q q' : Progress} {v : Text} (read : openNamed? p t = some (o, q, u))
    (inside : openNamed? p' (t ++ x) = some (o', q', v)) (fence : Fence x) (same : p'.modes = p.modes) :
    v = u ++ x ∧ o.Alike o' ∧ q'.modes = q.modes := by
  simp only [openNamed?, Option.bind_eq_bind, Option.bind_eq_some_iff] at read inside
  obtain ⟨⟨name, rest⟩, named, read⟩ := read
  obtain ⟨⟨name', rest'⟩, named', inside⟩ := inside
  cases (nameInside named fence).symm.trans named'
  cases read
  cases inside
  exact ⟨rfl, .group rfl, same⟩

theorem opensModes {c : Char} {rest : Text} (skipped : skip? p t = some ('?' :: c :: rest))
    (apart : c ≠ '=' ∧ c ≠ '!' ∧ c ≠ '<' ∧ c ≠ '>' ∧ c ≠ '(' ∧ c ≠ 'P') :
    open? p t = modes? p.modes p 0 false ((c :: rest).length + 1) (c :: rest) := by
  simp only [open?, Option.bind_eq_bind, skipped, Option.bind_some]
  split
  all_goals
    rename_i follows
    simp only [List.cons.injEq, apart, false_and, and_false, true_and] at follows
  · rw [follows]
  · exact (follows _ rfl).elim

theorem opensNamed {c : Char} {rest : Text} (skipped : skip? p t = some ('?' :: '<' :: c :: rest))
    (apart : c ≠ '=' ∧ c ≠ '!') : open? p t = openNamed? p (c :: rest) := by
  simp only [open?, Option.bind_eq_bind, skipped, Option.bind_some]
  split
  all_goals
    rename_i follows
    simp only [List.cons.injEq, Char.reduceEq, apart, false_and, and_false, true_and] at follows
  · rw [follows]
  · rename_i noNamed _ _ _ _
    exact (noNamed _ follows.symm).elim
  · exact (follows _ rfl).elim

theorem opensCapture {c : Char} {rest : Text} (skipped : skip? p t = some (c :: rest)) (ordinary : c ≠ '?') :
    open? p t = some (.group (.capture (p.groups + 1)), { p with groups := p.groups + 1 }, c :: rest) := by
  simp only [open?, Option.bind_eq_bind, skipped, Option.bind_some]
  split
  all_goals
    rename_i follows
    try exact absurd (List.cons.inj follows).1 ordinary
  rfl

theorem openInside {o o' : Opened} {q q' : Progress} {v : Text} (read : open? p t = some (o, q, u))
    (opens : open? p' (t ++ x) = some (o', q', v)) (fence : Fence x) (same : p'.modes = p.modes)
    (solid : ∀ opening, o = .group opening → u ≠ []) : v = u ++ x ∧ o.Alike o' ∧ q'.modes = q.modes := by
  simp only [open?, Option.bind_eq_bind, Option.bind_eq_some_iff] at read
  obtain ⟨w, skipped, read⟩ := read
  have present : w ≠ [] := by
    rintro rfl
    cases read
    exact solid _ rfl rfl
  have behind := skipInside skipped fence same (.inl present)
  have inside := opens
  simp only [open?, Option.bind_eq_bind, behind, Option.bind_some] at inside
  have plain {opening : Opening} {rest : Text} (one : some (Opened.group opening, p, rest) = some (o, q, u))
      (other : some (Opened.group opening, p', rest ++ x) = some (o', q', v)) :
      v = u ++ x ∧ o.Alike o' ∧ q'.modes = q.modes := by
    cases one
    cases other
    exact ⟨rfl, .group rfl, same⟩
  split at read
  · exact plain read inside
  · exact plain read inside
  · exact plain read inside
  · exact plain read inside
  · rename_i rest noAhead noReject
    cases rest with
    | nil => contradiction
    | cons c rest =>
      have apart : c ≠ '=' ∧ c ≠ '!' := by
        refine ⟨?_, ?_⟩ <;> rintro rfl
        · exact noAhead _ rfl
        · exact noReject _ rfl
      rw [opensNamed behind apart] at opens
      exact openNamedInside read opens fence same
  · exact openNamedInside read inside fence same
  · simp only [Option.bind_eq_some_iff] at read
    obtain ⟨⟨name, rest⟩, named, ⟨n, r⟩, back, read⟩ := read
    simp only [List.cons_append, Option.bind_eq_some_iff, nameInside named fence] at inside
    obtain ⟨_, named', ⟨n', r'⟩, back', inside⟩ := inside
    cases named'
    cases read
    cases inside
    have one := namedBackrefReads back
    have other := namedBackrefReads back'
    exact ⟨rfl, .atom (one.1.trans other.1.symm), other.2.trans (same.trans one.2.symm)⟩
  · exact plain read inside
  · contradiction
  · rename_i rest noAhead noReject _ _ noNamed _ _ noAtomic noCondition
    cases rest with
    | nil => simp [modes?, skip?, skipBlank?] at read
    | cons c rest =>
      have apart : c ≠ '=' ∧ c ≠ '!' ∧ c ≠ '<' ∧ c ≠ '>' ∧ c ≠ '(' ∧ c ≠ 'P' := by
        refine ⟨?_, ?_, ?_, ?_, ?_, ?_⟩ <;> rintro rfl
        · exact noAhead _ rfl
        · exact noReject _ rfl
        · exact noNamed _ rfl
        · exact noAtomic _ rfl
        · exact noCondition _ rfl
        · simp [modes?, skip?, skipBlank?, setMode] at read
      have enough : (c :: rest).length + 1 ≤ (c :: (rest ++ x)).length + 1 := by simp
      rw [opensModes behind apart, same] at opens
      obtain ⟨r, again, modes⟩ := modesInside read fence same enough
      cases again.symm.trans opens
      exact ⟨rfl, .refl o, modes⟩
  · rename_i noSign
    obtain ⟨c, rest, rfl⟩ := List.exists_cons_of_ne_nil present
    rw [opensCapture behind fun same => noSign rest (by rw [same])] at opens
    cases read
    cases opens
    exact ⟨rfl, .group rfl, same⟩

namespace Frame
variable {f f' : Frame} {n n' : Node}

abbrev SameItems (f f' : Frame) : Prop := f.items.map Node.unnumbered = f'.items.map Node.unnumbered

structure Alike (f f' : Frame) : Prop where
  opening : f.opening.unnumbered = f'.opening.unnumbered
  branches : f.branches.map Node.unnumbered = f'.branches.map Node.unnumbered
  items : f.SameItems f'

theorem addKeeps (f : Frame) (n : Node) : (f.add n).branches = f.branches ∧ (f.add n).opening = f.opening := by
  unfold add
  split <;> exact ⟨rfl, rfl⟩

theorem SameItems.add (same : f.SameItems f') (alike : n.Alike n') : (f.add n).SameItems (f'.add n') := by
  unfold SameItems Frame.add
  rw [← alike.isEmpty]
  split
  · exact same
  · rw [List.map_cons, List.map_cons, alike, same]

theorem SameItems.branch (same : f.SameItems f') : f.branch.Alike f'.branch := by
  unfold Node.Alike Frame.branch
  rw [Node.unnumberedItems, Node.unnumberedItems, List.map_reverse, List.map_reverse, same]

theorem Alike.add (alike : f.Alike f') (node : n.Alike n') : (f.add n).Alike (f'.add n') := by
  have left := f.addKeeps n
  have right := f'.addKeeps n'
  exact ⟨by rw [left.2, right.2, alike.opening], by rw [left.1, right.1, alike.branches], alike.items.add node⟩

theorem Alike.nextBranch (alike : f.Alike f') : f.nextBranch.Alike f'.nextBranch where
  opening := alike.opening
  branches := by
    simp only [Frame.nextBranch, List.map_cons, alike.branches]
    rw [alike.items.branch]
  items := rfl

theorem Alike.tree (alike : f.Alike f') : f.tree.Alike f'.tree := by
  have branches := alike.branches
  have branch := alike.items.branch
  unfold Frame.tree
  generalize f.branches = bs at branches
  generalize f'.branches = bs' at branches
  cases bs with
  | nil =>
    obtain rfl := List.map_eq_nil_iff.mp branches.symm
    exact branch
  | cons b bs =>
    cases bs' with
    | nil => cases branches
    | cons b' bs' =>
      simp only [Node.Alike, Node.unnumbered, Node.unnumberedMap, List.map_append, List.map_reverse, branches,
        List.map_cons, List.map_nil]
      rw [branch]

end Frame

theorem closeAlike {f f' : Frame} (alike : f.Alike f') (same : p'.modes = p.modes) :
    (close p f).1.Alike (close p' f').1 ∧ (close p' f').2.modes = (close p f).2.modes := by
  have opening := alike.opening
  have tree := alike.tree
  unfold close
  cases one : f.opening <;> cases other : f'.opening <;> rw [one, other] at opening <;>
    cases opening <;> refine ⟨?_, ?_⟩ <;> first
      | rfl
      | exact same
      | exact tree
      | (simp only [Node.Alike, Node.unnumbered]; rw [tree])

inductive Within (outside : List Frame) (opening : Opening) (done : List Node) :
    Frame → List Frame → Frame → List Frame → Prop where
  | bottom {f f' : Frame} (opened : f'.opening = opening) (items : f.SameItems f')
      (branches : f'.branches.map Node.unnumbered = f.branches.map Node.unnumbered ++ done.map Node.unnumbered) :
      Within outside opening done f [] f' outside
  | inner {f f' g g' : Frame} {outer outer' : List Frame} (alike : f.Alike f')
      (more : Within outside opening done g outer g' outer') : Within outside opening done f (g :: outer) f' (g' :: outer')

namespace Within
variable {outside outer outer' : List Frame} {opening : Opening} {done : List Node} {f f' : Frame} {n n' : Node}

theorem add (within : Within outside opening done f outer f' outer') (alike : n.Alike n') :
    Within outside opening done (f.add n) outer (f'.add n') outer' := by
  cases within with
  | bottom opened items branches =>
    refine .bottom ((f'.addKeeps n').2.trans opened) (items.add alike) ?_
    rw [(f.addKeeps n).1, (f'.addKeeps n').1, branches]
  | inner frames more => exact .inner (frames.add alike) more

theorem nextBranch (within : Within outside opening done f outer f' outer') :
    Within outside opening done f.nextBranch outer f'.nextBranch outer' := by
  cases within with
  | bottom opened items branches =>
    refine .bottom opened rfl ?_
    simp only [Frame.nextBranch, List.map_cons, branches, List.cons_append]
    rw [items.branch]
  | inner frames more => exact .inner frames.nextBranch more

end Within

theorem Loose.quantified {n m : Node} (loose : Loose p t) (read : quantified? p n t = some (m, u)) : Loose p u := by
  rw [quantifiedParts] at read
  obtain ⟨v, skipped, read⟩ := Option.bind_eq_some_iff.mp read
  rw [(loose.starts skipped).1] at read
  cases read
  exact (Loose.skip skipped).mp loose

theorem readsAtom {limit fuel : Nat} {frame : Frame} {outer : List Frame} {c : Char} {rest : Text}
    (skipped : skip? p t = some (c :: rest)) (plain : c ≠ '|' ∧ c ≠ ')' ∧ c ≠ '(') :
    read? limit (fuel + 1) t p frame outer = (atom? limit p (c :: rest)).bind fun (n, q, behind) =>
      (quantified? q n behind).bind fun (n, behind) => read? limit fuel behind q (frame.add n) outer := by
  simp only [read?, Option.bind_eq_bind, skipped, Option.bind_some]
  split
  · contradiction
  · rename_i same
    exact absurd (List.cons.inj same).1 plain.1
  · rename_i same
    exact absurd (List.cons.inj same).1 plain.2.1
  · rename_i same
    exact absurd (List.cons.inj same).1 plain.2.2
  · rfl

theorem Loose.reads {limit fuel : Nat} {frame : Frame} {outer : List Frame} {n : Node} {q : Progress} (loose : Loose p t)
    (read : read? limit fuel t p frame outer = some (n, q)) : q.modes.freeSpacing = true := by
  induction fuel generalizing t frame with
  | zero => contradiction
  | succ fuel ih =>
    cases loose with
    | unclosed none => simp [read?, none] at read
    | ended none free =>
      simp only [read?, Option.bind_eq_bind, none, Option.bind_some] at read
      split at read <;> cases read
      exact free
    | @goesOn _ c rest next mark behind =>
      have apart : c ≠ '|' ∧ c ≠ ')' ∧ c ≠ '(' ∧ c ≠ '.' ∧ c ≠ '^' ∧ c ≠ '$' ∧ c ≠ '?' ∧ c ≠ '*' ∧ c ≠ '+' ∧ c ≠ '\\' ∧
          c ≠ '[' := by
        refine ⟨?_, ?_, ?_, ?_, ?_, ?_, ?_, ?_, ?_, ?_, ?_⟩ <;> rintro rfl <;> contradiction
      have atom : atom? limit p (c :: rest) = some (.char ((CharSet.single c).underCase p.modes.ignoreCase), p, rest) := by
        simp [atom?, apart]
      rw [readsAtom next ⟨apart.1, apart.2.1, apart.2.2.1⟩, atom, Option.bind_some] at read
      obtain ⟨⟨m, u⟩, quantified, read⟩ := Option.bind_eq_some_iff.mp read
      exact ih (behind.quantified quantified) read

theorem readsNonempty {limit fuel : Nat} {frame g : Frame} {outer : List Frame} {r : Node × Progress}
    (read : read? limit fuel t p frame (g :: outer) = some r) : t ≠ [] := by
  rintro rfl
  cases fuel with
  | zero => contradiction
  | succ fuel => simp [read?, skip?, skipBlank?] at read

def Arrived (limit : Nat) (x : Text) (outside : List Frame) (start : Opening) (done : List Node) (n : Node)
    (modes : Modes) (r : Node × Progress) : Prop :=
  ∃ f f' p more, f.tree = n ∧ Within outside start done f [] f' outside ∧ p.modes = modes ∧
    read? limit more x p f' outside = some r

section
variable {limit limit' fuel fuel' : Nat} {frame frame' : Frame} {outer outer' outside : List Frame} {start : Opening}
  {done : List Node} {n : Node} {q : Progress} {r : Node × Progress}

theorem readsEnd (read : read? limit (fuel + 1) t p frame outer = some (n, q)) (skipped : skip? p t = some [])
    (inside : read? limit' (fuel' + 1) (t ++ x) p' frame' outer' = some r) (behind : skip? p' (t ++ x) = some x)
    (same : p'.modes = p.modes) (within : Within outside start done frame outer frame' outer') :
    Arrived limit' x outside start done n q.modes r := by
  simp only [read?, Option.bind_eq_bind, skipped, Option.bind_some] at read
  split at read <;> cases read
  rename_i ends
  simp only [Bool.and_eq_true, List.isEmpty_iff] at ends
  obtain rfl := ends.1
  have still := skipAgain behind
  have again : read? limit' (fuel' + 1) x p' frame' outer' = some r := by
    rw [← inside]
    simp only [read?, still, behind]
  cases within with
  | bottom opened items branches => exact ⟨frame, frame', p', _, rfl, .bottom opened items branches, same, again⟩

theorem readsWithin (fence : Fence x) (read : read? limit fuel t p frame outer = some (n, q))
    (settled : q.modes.freeSpacing = false) (inside : read? limit' fuel' (t ++ x) p' frame' outer' = some r)
    (same : p'.modes = p.modes) (within : Within outside start done frame outer frame' outer') :
    Arrived limit' x outside start done n q.modes r := by
  induction fuel generalizing t p p' frame frame' outer outer' fuel' with
  | zero => contradiction
  | succ fuel ih =>
    cases fuel' with
    | zero => contradiction
    | succ fuel' =>
      rcases skipOrLoose p t fence same with loose | ⟨v, skipped, behind⟩
      · cases settled.symm.trans (loose.reads read)
      rcases v with _ | ⟨c, rest⟩
      · exact readsEnd read skipped inside behind same within
      rw [List.cons_append] at behind
      have goesOn {m m' : Node} {p₁ p₁' : Progress} {u : Text} {f f' : Frame} {o o' : List Frame} (alike : m.Alike m')
          (kept : p₁'.modes = p₁.modes) (within : Within outside start done f o f' o')
          (read : ((quantified? p₁ m u).bind fun (m, u) => read? limit fuel u p₁ (f.add m) o) = some (n, q))
          (inside : ((quantified? p₁' m' (u ++ x)).bind fun (m, u) => read? limit' fuel' u p₁' (f'.add m) o') = some r) :
          Arrived limit' x outside start done n q.modes r := by
        obtain ⟨⟨m₁, u₁⟩, quantified, read⟩ := Option.bind_eq_some_iff.mp read
        rcases quantifiedInside quantified fence kept alike with loose | ⟨m₁', quantified', alike'⟩
        · cases settled.symm.trans (loose.reads read)
        · rw [quantified', Option.bind_some] at inside
          exact ih read inside kept (within.add alike')
      by_cases bar : c = '|'
      · subst bar
        simp only [read?, Option.bind_eq_bind, skipped, behind, Option.bind_some] at read inside
        exact ih read inside same within.nextBranch
      by_cases closing : c = ')'
      · subst closing
        simp only [read?, Option.bind_eq_bind, skipped, behind, Option.bind_some] at read inside
        cases within with
        | bottom => contradiction
        | inner frames more =>
          dsimp only at read inside
          split at read <;> try contradiction
          split at inside <;> try contradiction
          obtain ⟨alike, kept⟩ := closeAlike frames same
          exact goesOn alike kept more read inside
      by_cases opening : c = '('
      · subst opening
        simp only [read?, Option.bind_eq_bind, skipped, behind, Option.bind_some] at read inside
        split at read <;> try contradiction
        split at inside <;> try contradiction
        obtain ⟨⟨o, p₁, u⟩, opens, read⟩ := Option.bind_eq_some_iff.mp read
        obtain ⟨⟨o', p₁', u'⟩, opens', inside⟩ := Option.bind_eq_some_iff.mp inside
        have solid : ∀ opening, o = .group opening → u ≠ [] := by
          rintro opening rfl
          exact readsNonempty read
        obtain ⟨rfl, alike, kept⟩ := openInside opens opens' fence same solid
        cases alike with
        | group alike => exact ih read inside kept (.inner ⟨alike, rfl, rfl⟩ within)
        | atom alike => exact goesOn alike kept within read inside
      rw [readsAtom skipped ⟨bar, closing, opening⟩] at read
      rw [readsAtom behind ⟨bar, closing, opening⟩] at inside
      obtain ⟨⟨m, p₁, u⟩, atom, read⟩ := Option.bind_eq_some_iff.mp read
      obtain ⟨⟨m', p₁', u'⟩, atom', inside⟩ := Option.bind_eq_some_iff.mp inside
      obtain ⟨rfl, alike, kept, kept'⟩ := atomInside (t := c :: rest) atom atom' fence same
      exact goesOn alike (kept'.trans kept.symm) within read inside

end

end Reader
end ExtendedPattern.Engine