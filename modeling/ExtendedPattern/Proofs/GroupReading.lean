import ExtendedPattern.Engine.Program

/-! How the engine counts groups. A reading of a native text is a derivation, one rule for every
kind of step; it tells where capturing groups open. The count of a program is the number of
these openings, less the groups behind the last one that code is made for. -/
namespace ExtendedPattern.Engine

namespace Reader

def Opening.index? : Opening → Option Nat
  | .capture index => some index
  | _ => none

/-- The text `t` is read to its end. `opened` has the number of every capturing group that opens there, with
its place: the length of the text from its parenthesis on. -/
inductive Reads (limit : Nat) : Text → Progress → Frame → List Frame → List (Nat × Nat) → Node → Progress → Prop where
  | done {t p frame} (blank : skip? p t = some []) (ends : p.canEnd frame) :
      Reads limit t p frame [] [] frame.tree p
  | bar {t rest p frame outer opened n q} (blank : skip? p t = some ('|' :: rest))
      (more : Reads limit rest p frame.nextBranch outer opened n q) :
      Reads limit t p frame outer opened n q
  | close {t rest behind p frame parent outer m opened n q} (blank : skip? p t = some (')' :: rest))
      (ends : p.canEnd frame)
      (quantified : quantified? (close p frame).2 (close p frame).1 rest = some (m, behind))
      (more : Reads limit behind (close p frame).2 (parent.add m) outer opened n q) :
      Reads limit t p frame (parent :: outer) opened n q
  | group {t rest behind p p' frame outer opening opened n q} (blank : skip? p t = some ('(' :: rest))
      (shallow : outer.length + 1 < maxDepth)
      (opens : open? p rest = some (.group opening, p', behind))
      (more : Reads limit behind p' { opening } (frame :: outer) opened n q) :
      Reads limit t p frame outer
        ((opening.index?.map (·, rest.length + 1)).toList ++ opened) n q
  | settled {t rest inner behind p p' frame outer m m' opened n q} (blank : skip? p t = some ('(' :: rest))
      (shallow : outer.length + 1 < maxDepth)
      (opens : open? p rest = some (.atom m, p', inner))
      (quantified : quantified? p' m inner = some (m', behind))
      (more : Reads limit behind p' (frame.add m') outer opened n q) :
      Reads limit t p frame outer opened n q
  | atom {t rest inner behind p p' frame outer m m' opened n q} (blank : skip? p t = some rest)
      (ordinary : ∀ c ∈ rest.head?, c ∉ ['|', ')', '('])
      (reads : atom? limit p rest = some (m, p', inner))
      (quantified : quantified? p' m inner = some (m', behind))
      (more : Reads limit behind p' (frame.add m') outer opened n q) :
      Reads limit t p frame outer opened n q

theorem readsOfRead {limit fuel : Nat} {t : Text} {p q : Progress} {frame : Frame}
    {outer : List Frame} {n : Node} (read : read? limit fuel t p frame outer = some (n, q)) :
    ∃ opened, Reads limit t p frame outer opened n q := by
  induction fuel generalizing t p frame outer with
  | zero => contradiction
  | succ fuel ih =>
    simp only [read?, Option.bind_eq_bind, Option.bind_eq_some_iff] at read
    obtain ⟨rest, blank, read⟩ := read
    split at read
    · split at read <;> try contradiction
      rename_i ends
      simp only [Bool.and_eq_true, List.isEmpty_iff] at ends
      obtain ⟨rfl, ends⟩ := ends
      cases read
      exact ⟨_, .done blank ends⟩
    · obtain ⟨opened, more⟩ := ih read
      exact ⟨_, .bar blank more⟩
    · split at read <;> try contradiction
      split at read <;> try contradiction
      rename_i ends
      simp only [Option.bind_eq_some_iff] at read
      obtain ⟨⟨m, behind⟩, quantified, read⟩ := read
      obtain ⟨opened, more⟩ := ih read
      exact ⟨_, .close blank ends quantified more⟩
    · split at read <;> try contradiction
      rename_i shallow
      simp only [Option.bind_eq_some_iff] at read
      obtain ⟨⟨o, p', behind⟩, opens, read⟩ := read
      cases o with
      | group opening =>
        obtain ⟨opened, more⟩ := ih read
        exact ⟨_, .group blank shallow opens more⟩
      | atom m =>
        simp only [Option.bind_eq_some_iff] at read
        obtain ⟨⟨m', behind⟩, quantified, read⟩ := read
        obtain ⟨opened, more⟩ := ih read
        exact ⟨_, .settled blank shallow opens quantified more⟩
    · rename_i present noBar noClose noOpener
      simp only [Option.bind_eq_some_iff] at read
      obtain ⟨⟨m, p', inner⟩, reads, ⟨m', behind⟩, quantified, read⟩ := read
      obtain ⟨opened, more⟩ := ih read
      refine ⟨_, .atom blank ?_ reads quantified more⟩
      cases rest with
      | nil => contradiction
      | cons c rest =>
        rintro d ⟨⟩ mem
        simp only [List.mem_cons, List.not_mem_nil, or_false] at mem
        rcases mem with rfl | rfl | rfl
        · exact noBar rest rfl
        · exact noClose rest rfl
        · exact noOpener rest rfl

section Steps
variable {limit : Nat} {t rest : Text} {p q : Progress} {frame : Frame} {outer : List Frame}
  {opened : List (Nat × Nat)} {n : Node}

theorem Reads.atEnd (reads : Reads limit t p frame outer opened n q) (blank : skip? p t = some []) :
    outer = [] ∧ opened = [] ∧ n = frame.tree ∧ q = p := by
  cases reads with
  | done => exact ⟨rfl, rfl, rfl, rfl⟩
  | bar blank' | close blank' | group blank' | settled blank' => cases blank.symm.trans blank'
  | atom blank' _ reads =>
    cases blank.symm.trans blank'
    cases reads

theorem Reads.atBar (reads : Reads limit t p frame outer opened n q) (blank : skip? p t = some ('|' :: rest)) :
    Reads limit rest p frame.nextBranch outer opened n q := by
  cases reads with
  | bar blank' more => cases blank.symm.trans blank'; exact more
  | done blank' | close blank' | group blank' | settled blank' => cases blank.symm.trans blank'
  | atom blank' ordinary =>
    cases blank.symm.trans blank'
    exact absurd (ordinary '|' rfl) (by decide)

theorem Reads.atClose (reads : Reads limit t p frame outer opened n q) (blank : skip? p t = some (')' :: rest)) :
    ∃ parent others m behind, outer = parent :: others ∧
      quantified? (Reader.close p frame).2 (Reader.close p frame).1 rest = some (m, behind) ∧
      Reads limit behind (Reader.close p frame).2 (parent.add m) others opened n q := by
  cases reads with
  | close blank' ends quantified more =>
    cases blank.symm.trans blank'
    exact ⟨_, _, _, _, rfl, quantified, more⟩
  | done blank' | bar blank' | group blank' | settled blank' => cases blank.symm.trans blank'
  | atom blank' ordinary =>
    cases blank.symm.trans blank'
    exact absurd (ordinary ')' rfl) (by decide)

theorem Reads.atOpener (reads : Reads limit t p frame outer opened n q) (blank : skip? p t = some ('(' :: rest)) :
    (∃ opening p' behind more, open? p rest = some (.group opening, p', behind) ∧
      opened = (opening.index?.map (·, rest.length + 1)).toList ++ more ∧
      Reads limit behind p' { opening } (frame :: outer) more n q) ∨
    ∃ m p' inner m' behind, open? p rest = some (.atom m, p', inner) ∧ quantified? p' m inner = some (m', behind) ∧
      Reads limit behind p' (frame.add m') outer opened n q := by
  cases reads with
  | group blank' shallow opens more =>
    cases blank.symm.trans blank'
    exact .inl ⟨_, _, _, _, opens, rfl, more⟩
  | settled blank' shallow opens quantified more =>
    cases blank.symm.trans blank'
    exact .inr ⟨_, _, _, _, _, opens, quantified, more⟩
  | done blank' | bar blank' | close blank' => cases blank.symm.trans blank'
  | atom blank' ordinary =>
    cases blank.symm.trans blank'
    exact absurd (ordinary '(' rfl) (by decide)

theorem Reads.atAtom (reads : Reads limit t p frame outer opened n q) (blank : skip? p t = some rest) (present : rest ≠ [])
    (ordinary : ∀ c ∈ rest.head?, c ∉ ['|', ')', '(']) :
    ∃ m p' inner m' behind, atom? limit p rest = some (m, p', inner) ∧ quantified? p' m inner = some (m', behind) ∧
      Reads limit behind p' (frame.add m') outer opened n q := by
  cases reads with
  | atom blank' _ reads quantified more =>
    cases blank.symm.trans blank'
    exact ⟨_, _, _, _, _, reads, quantified, more⟩
  | done blank' =>
    cases blank.symm.trans blank'
    contradiction
  | bar blank' | close blank' | group blank' | settled blank' =>
    cases blank.symm.trans blank'
    exact absurd (ordinary _ rfl) (by decide)

theorem readsOnce {q' : Progress} {opened' : List (Nat × Nat)} {n' : Node} (reads : Reads limit t p frame outer opened n q)
    (again : Reads limit t p frame outer opened' n' q') : opened = opened' ∧ n = n' ∧ q = q' := by
  induction reads generalizing opened' with
  | done blank =>
    obtain ⟨_, rfl, rfl, rfl⟩ := again.atEnd blank
    exact ⟨rfl, rfl, rfl⟩
  | bar blank _ ih => exact ih (again.atBar blank)
  | close blank ends quantified _ ih =>
    obtain ⟨_, _, _, _, same, quantified', more⟩ := again.atClose blank
    cases same
    cases quantified.symm.trans quantified'
    exact ih more
  | group blank _ opens _ ih =>
    obtain ⟨_, _, _, _, opens', rfl, more⟩ | ⟨_, _, _, _, _, opens', _⟩ := again.atOpener blank
    · cases opens.symm.trans opens'
      obtain ⟨rfl, same⟩ := ih more
      exact ⟨rfl, same⟩
    · cases opens.symm.trans opens'
  | settled blank _ opens quantified _ ih =>
    obtain ⟨_, _, _, _, opens', _⟩ | ⟨_, _, _, _, _, opens', quantified', more⟩ := again.atOpener blank
    · cases opens.symm.trans opens'
    · cases opens.symm.trans opens'
      cases quantified.symm.trans quantified'
      exact ih more
  | @atom _ rest _ _ _ _ _ _ _ _ _ _ _ blank ordinary reads quantified _ ih =>
    have present : rest ≠ [] := by
      rintro rfl
      cases reads
    obtain ⟨_, _, _, _, _, reads', quantified', more⟩ := again.atAtom blank present ordinary
    cases reads.symm.trans reads'
    cases quantified.symm.trans quantified'
    exact ih more

end Steps

variable {limit fuel : Nat} {t u : Text} {p q : Progress} {n : Node}

theorem backrefMade {group : Nat} (read : backref? p group = some (n, q)) :
    n = .backref group ∧ q = { p with referenced := group :: p.referenced } := by
  unfold backref? at read
  split at read <;> cases read
  exact ⟨rfl, rfl⟩

theorem namedBackrefMade {name : Text} (read : namedBackref? p name = some (n, q)) :
    ∃ group, n = .backref group ∧ q = { p with referenced := group :: p.referenced } := by
  unfold namedBackref? at read
  split at read
  · exact ⟨_, backrefMade read⟩
  · split at read <;> try contradiction
    exact ⟨_, backrefMade read⟩

inductive AtomMade (p : Progress) : Node → Progress → Prop where
  | chars (s : CharSet) (plain : List Char) :
      AtomMade p (.ofItems (.char s :: plain.map fun c => .char (.single c))) p
  | assertion (a : Assertion) : AtomMade p (.assertion a) p
  | keepOut : AtomMade p .keepOut p
  | searchStart : AtomMade p .searchStart p
  | reference (group : Nat) (numbered : Bool) :
      AtomMade p (.backref group) { p with numbered, referenced := group :: p.referenced }

theorem escapedMade {e : Escape} (read : escaped? limit p e = some (n, q)) : AtomMade p n q := by
  cases e with
  | numbered group =>
    simp only [escaped?] at read
    split at read <;> try contradiction
    obtain ⟨rfl, rfl⟩ := backrefMade read
    exact .reference group true
  | named name =>
    obtain ⟨group, rfl, rfl⟩ := namedBackrefMade read
    exact .reference group p.numbered
  | assertion a => cases read; exact .assertion a
  | keepOut => cases read; exact .keepOut
  | searchStart => cases read; exact .searchStart
  | char | set | spelled => cases read; exact .chars _ []

theorem atomMade (read : atom? limit p t = some (n, q, u)) : AtomMade p n q := by
  cases t with
  | nil => contradiction
  | cons c t =>
    simp only [atom?] at read
    split at read
    · cases read; exact .chars _ []
    split at read
    · cases read; exact .assertion _
    split at read
    · cases read; exact .assertion _
    split at read <;> try contradiction
    split at read
    · simp only [Option.bind_eq_bind, Option.bind_eq_some_iff] at read
      obtain ⟨_, _, _, escaped, same⟩ := read
      cases same
      exact escapedMade escaped
    split at read
    · simp only [Option.bind_eq_bind, Option.bind_eq_some_iff] at read
      obtain ⟨⟨s, plain, _⟩, _, same⟩ := read
      cases same
      exact .chars s plain
    · cases read; exact .chars _ []

theorem modesMade {before : Modes} {letters : Nat} {negated : Bool} {o : Opened}
    (read : modes? before p letters negated fuel t = some (o, q, u)) :
    (∃ modes, q = { p with modes }) ∧ (o = .group (.modes before) ∨ o = .atom .empty) := by
  induction fuel generalizing p letters negated t with
  | zero => contradiction
  | succ fuel ih =>
    simp only [modes?, Option.bind_eq_bind, Option.bind_eq_some_iff] at read
    obtain ⟨_, _, read⟩ := read
    split at read
    · contradiction
    · split at read <;> cases read
      exact ⟨⟨_, rfl⟩, .inr rfl⟩
    · split at read <;> cases read
      exact ⟨⟨_, rfl⟩, .inl rfl⟩
    · split at read <;> try contradiction
      exact ih read
    · obtain ⟨m, _, read⟩ := Option.bind_eq_some_iff.mp read
      exact ih (p := { p with modes := m }) read

inductive OpenedMade (p : Progress) : Opened → Progress → Prop where
  | capture (names : List (Text × Nat)) :
      OpenedMade p (.group (.capture (p.groups + 1))) { p with groups := p.groups + 1, names }
  | group {opening : Opening} (silent : opening.index? = none) (modes : Modes) :
      OpenedMade p (.group opening) { p with modes }
  | modes (modes : Modes) : OpenedMade p (.atom .empty) { p with modes }
  | reference (group : Nat) :
      OpenedMade p (.atom (.backref group)) { p with referenced := group :: p.referenced }

theorem openNamedMade {o : Opened} (read : openNamed? p t = some (o, q, u)) : OpenedMade p o q := by
  simp only [openNamed?, Option.bind_eq_bind, Option.bind_eq_some_iff] at read
  obtain ⟨_, _, same⟩ := read
  cases same
  exact .capture _

theorem openMade {o : Opened} (read : open? p t = some (o, q, u)) : OpenedMade p o q := by
  simp only [open?, Option.bind_eq_bind, Option.bind_eq_some_iff] at read
  obtain ⟨_, _, read⟩ := read
  split at read
  · cases read; exact .group rfl p.modes
  · cases read; exact .group rfl p.modes
  · cases read; exact .group rfl p.modes
  · cases read; exact .group rfl p.modes
  · exact openNamedMade read
  · exact openNamedMade read
  · simp only [Option.bind_eq_some_iff] at read
    obtain ⟨_, _, ⟨n, r⟩, named, same⟩ := read
    cases same
    obtain ⟨group, rfl, rfl⟩ := namedBackrefMade named
    exact .reference group
  · cases read; exact .group rfl p.modes
  · contradiction
  · obtain ⟨⟨modes, rfl⟩, rfl | rfl⟩ := modesMade read
    · exact .group rfl modes
    · exact .modes modes
  · cases read; exact .capture p.names

end Reader

namespace Program

theorem lastGroupInWithin {k : Nat} {nodes : List Node} :
    lastGroupIn nodes ≤ k ↔ ∀ n ∈ nodes, lastGroup n ≤ k := by
  induction nodes with
  | nil => simp [lastGroupIn]
  | cons n rest ih => rw [lastGroupIn, Nat.max_le, ih, List.forall_mem_cons]

theorem lastGroupOfItems {k : Nat} {items : List Node} (within : ∀ n ∈ items, lastGroup n ≤ k) :
    lastGroup (Node.ofItems items) ≤ k := by
  unfold Node.ofItems
  split
  · simp [lastGroup]
  · exact within _ List.mem_cons_self
  · simpa [lastGroup] using lastGroupInWithin.mpr within

theorem lastGroupRepeated (low : Nat) (high : Option Nat) (greedy : Bool) (n : Node) :
    lastGroup (.repeated low high greedy n) ≤ lastGroup n := by
  cases high with
  | none => simp [lastGroup]
  | some bound => cases bound <;> simp [lastGroup]

end Program

namespace Reader
open Program (lastGroup)

structure Frame.Within (f : Frame) (k : Nat) : Prop where
  branches : ∀ n ∈ f.branches, lastGroup n ≤ k
  items : ∀ n ∈ f.items, lastGroup n ≤ k
  opening : ∀ index, f.opening = .capture index → index ≤ k

namespace Frame.Within
variable {f : Frame} {k l : Nat}

theorem mono (within : f.Within k) (le : k ≤ l) : f.Within l where
  branches n mem := Nat.le_trans (within.branches n mem) le
  items n mem := Nat.le_trans (within.items n mem) le
  opening index same := Nat.le_trans (within.opening index same) le

theorem branch (within : f.Within k) : lastGroup f.branch ≤ k :=
  Program.lastGroupOfItems fun n mem => within.items n (List.mem_reverse.mp mem)

theorem tree (within : f.Within k) : lastGroup f.tree ≤ k := by
  unfold Frame.tree
  split
  · exact within.branch
  · rw [lastGroup, Program.lastGroupInWithin]
    intro n mem
    rcases List.mem_append.mp mem with before | last
    · exact within.branches n (List.mem_reverse.mp before)
    · rw [List.mem_singleton.mp last]
      exact within.branch

theorem nextBranch (within : f.Within k) : f.nextBranch.Within k where
  branches := List.forall_mem_cons.mpr ⟨within.branch, within.branches⟩
  items := by simp [Frame.nextBranch]
  opening := within.opening

theorem add (within : f.Within k) {n : Node} (le : lastGroup n ≤ k) : (f.add n).Within k := by
  unfold Frame.add
  split
  · exact within
  · exact ⟨within.branches, List.forall_mem_cons.mpr ⟨le, within.items⟩, within.opening⟩

end Frame.Within

theorem closeGroups (p : Progress) {f : Frame} (within : f.Within p.groups) :
    (close p f).2.groups = p.groups ∧ lastGroup (close p f).1 ≤ p.groups := by
  have tree := within.tree
  unfold close
  split
  · rename_i index same
    exact ⟨rfl, Nat.max_le.mpr ⟨within.opening index same, tree⟩⟩
  · exact ⟨rfl, tree⟩
  · exact ⟨rfl, Nat.zero_le _⟩
  · exact ⟨rfl, Nat.zero_le _⟩

theorem quantifiedGroups {p : Progress} {n m : Node} {t rest : Text}
    (read : quantified? p n t = some (m, rest)) : lastGroup m ≤ lastGroup n := by
  simp only [quantified?, Option.bind_eq_bind, Option.bind_eq_some_iff] at read
  obtain ⟨t, _, read⟩ := read
  split at read
  · cases read; exact Nat.le_refl _
  · split at read <;> try contradiction
    simp only [Option.bind_eq_some_iff] at read
    obtain ⟨t, _, read⟩ := read
    split at read
    · cases read; exact Nat.zero_le _
    · cases read; exact Program.lastGroupRepeated _ _ _ _

theorem Frame.Within.addQuantified {f : Frame} {k : Nat} (within : f.Within k) {p : Progress} {n m : Node} {t rest : Text}
    (read : quantified? p n t = some (m, rest)) (le : lastGroup n ≤ k) : (f.add m).Within k :=
  within.add (Nat.le_trans (quantifiedGroups read) le)

theorem charGroups (s : CharSet) (plain : List Char) :
    lastGroup (.ofItems (.char s :: plain.map fun c => .char (.single c))) = 0 := by
  refine Nat.le_zero.mp (Program.lastGroupOfItems fun n mem => ?_)
  rcases List.mem_cons.mp mem with rfl | mem
  · exact Nat.le_refl 0
  · obtain ⟨c, _, rfl⟩ := List.mem_map.mp mem
    exact Nat.le_refl 0

theorem AtomMade.groups {p q : Progress} {n : Node} (made : AtomMade p n q) :
    q.groups = p.groups ∧ lastGroup n = 0 := by
  cases made with
  | chars s plain => exact ⟨rfl, charGroups s plain⟩
  | _ => exact ⟨rfl, rfl⟩

inductive Counts (p p' : Progress) : Opened → Prop where
  | capture (next : p'.groups = p.groups + 1) : Counts p p' (.group (.capture (p.groups + 1)))
  | other {opening : Opening} (same : p'.groups = p.groups) (silent : opening.index? = none) :
      Counts p p' (.group opening)
  | atom {n : Node} (same : p'.groups = p.groups) (none : lastGroup n = 0) : Counts p p' (.atom n)

theorem OpenedMade.counts {p q : Progress} {o : Opened} (made : OpenedMade p o q) : Counts p q o := by
  cases made with
  | capture => exact .capture rfl
  | group silent => exact .other rfl silent
  | modes | reference => exact .atom rfl rfl

theorem readsCounts {limit : Nat} {t : Text} {p q : Progress} {frame : Frame} {outer : List Frame}
    {opened : List (Nat × Nat)} {n : Node} (reads : Reads limit t p frame outer opened n q)
    (within : frame.Within p.groups) (outside : ∀ f ∈ outer, f.Within p.groups) :
    q.groups = p.groups + opened.length ∧ opened.map Prod.fst = List.range' (p.groups + 1) opened.length ∧
      lastGroup n ≤ q.groups := by
  induction reads with
  | done => exact ⟨rfl, rfl, within.tree⟩
  | bar _ _ ih => exact ih within.nextBranch outside
  | close _ _ quantified _ ih =>
    obtain ⟨parentWithin, outside⟩ := List.forall_mem_cons.mp outside
    obtain ⟨same, closed⟩ := closeGroups _ within
    rw [← same] at closed parentWithin outside ⊢
    exact ih (parentWithin.addQuantified quantified closed) outside
  | @group _ _ _ p p' frame outer opening _ _ _ _ _ opens _ ih =>
    have both : ∀ f ∈ frame :: outer, f.Within p.groups := List.forall_mem_cons.mpr ⟨within, outside⟩
    cases (openMade opens).counts with
    | capture next =>
      have inner : Frame.Within { opening := .capture (p.groups + 1) } p'.groups := by
        refine ⟨by simp, by simp, fun index same => ?_⟩
        cases same
        exact Nat.le_of_eq next.symm
      obtain ⟨count, numbers, last⟩ := ih inner fun f mem => (both f mem).mono (by omega)
      refine ⟨?_, ?_, last⟩
      · simp only [Opening.index?, Option.map_some, Option.toList_some, List.singleton_append, List.length_cons]
        omega
      · simp [Opening.index?, numbers, next, List.range'_succ]
    | other same silent =>
      have inner : Frame.Within { opening } p'.groups := by
        refine ⟨by simp, by simp, fun index capture => ?_⟩
        cases capture
        contradiction
      rw [← same] at both ⊢
      simpa [silent] using ih inner both
  | settled _ _ opens quantified _ ih =>
    cases (openMade opens).counts with
    | atom same none =>
      rw [← same] at within outside ⊢
      exact ih (within.addQuantified quantified (none ▸ Nat.zero_le _)) outside
  | atom _ _ reads quantified _ ih =>
    obtain ⟨same, none⟩ := (atomMade reads).groups
    rw [← same] at within outside ⊢
    exact ih (within.addQuantified quantified (none ▸ Nat.zero_le _)) outside

end Reader

def Reader.Opens (pattern : Text) (opened : List (Nat × Nat)) : Prop :=
  ∃ n q, Reads (Text.size pattern / 2) pattern {} { opening := .modes {} } [] opened n q

theorem Reader.Opens.unique {pattern : Text} {opened opened' : List (Nat × Nat)} (opens : Opens pattern opened)
    (again : Opens pattern opened') : opened = opened' := by
  obtain ⟨_, _, reads⟩ := opens
  obtain ⟨_, _, reads'⟩ := again
  exact (readsOnce reads reads').1

theorem Reader.Opens.numbers {pattern : Text} {opened : List (Nat × Nat)} (opens : Opens pattern opened) :
    opened.map Prod.fst = List.range' 1 opened.length := by
  obtain ⟨_, _, reads⟩ := opens
  have within : Frame.Within { opening := .modes {} } 0 := ⟨by simp, by simp, fun index same => by contradiction⟩
  exact (readsCounts reads within (by simp)).2.1

namespace Program

theorem buildCounts {limits : Limits} {pattern : Text} {program : Program}
    (built : build? limits pattern = some program) :
    ∃ opened, Reader.Opens pattern opened ∧ program.groups - 1 ≤ opened.length := by
  simp only [build?, Option.bind_eq_bind, Option.bind_eq_some_iff] at built
  obtain ⟨⟨tree, q⟩, read, built⟩ := built
  obtain ⟨opened, reads⟩ := Reader.readsOfRead read
  have within : Reader.Frame.Within { opening := .modes {} } 0 :=
    ⟨by simp, by simp, fun index same => by contradiction⟩
  obtain ⟨count, _, last⟩ := Reader.readsCounts reads within (by simp)
  have fresh : ({} : Reader.Progress).groups = 0 := rfl
  rw [fresh] at count
  refine ⟨opened, ⟨tree, q, reads⟩, ?_⟩
  split at built
  · simp only [Option.bind_eq_some_iff] at built
    obtain ⟨code, _, built⟩ := built
    cases built
    simp only [Nat.add_sub_cancel]
    omega
  · simp only [Option.bind_eq_some_iff] at built
    obtain ⟨⟨plan, guards⟩, _, built⟩ := built
    cases built
    simp only [Nat.add_sub_cancel]
    omega

end Program
end ExtendedPattern.Engine
