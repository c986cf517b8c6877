import ExtendedPattern.Proofs.CodeWays
import ExtendedPattern.Proofs.GroupReading
import ExtendedPattern.Proofs.ReadingInside

/-! Which groups are referred to. A reading notes a group as referred to only where it makes a reference, so
a tree without references was read without noting any; its shape is the same whatever its numbers. -/
namespace ExtendedPattern.Engine

namespace Node

mutual

def refers : Node → Bool
  | .seq items => anyRefers items
  | .alt branches => anyRefers branches
  | .group _ body => refers body
  | .repeated _ _ _ body => refers body
  | .look _ _ body => refers body
  | .atomic body => refers body
  | .backref _ => true
  | _ => false

def anyRefers : List Node → Bool
  | [] => false
  | n :: rest => refers n || anyRefers rest

end

theorem anyRefersFalse {items : List Node} : anyRefers items = false ↔ ∀ n ∈ items, n.refers = false := by
  induction items with
  | nil => simp [anyRefers]
  | cons n rest ih => rw [anyRefers, Bool.or_eq_false_iff, ih, List.forall_mem_cons]

theorem refersItems {items : List Node} : (ofItems items).refers = false ↔ ∀ n ∈ items, n.refers = false := by
  unfold ofItems
  split
  · simp [refers]
  · simp
  · exact anyRefersFalse

mutual

theorem refersUnnumbered : ∀ n : Node, n.unnumbered.refers = n.refers
  | .seq items => by
    rw [unnumbered]
    exact anyRefersUnnumbered items
  | .alt branches => by
    rw [unnumbered]
    exact anyRefersUnnumbered branches
  | .group _ body => refersUnnumbered body
  | .repeated _ _ _ body => refersUnnumbered body
  | .look _ _ body => refersUnnumbered body
  | .atomic body => refersUnnumbered body
  | .empty | .char _ | .assertion _ | .backref _ | .keepOut | .searchStart => rfl

theorem anyRefersUnnumbered : ∀ items : List Node, anyRefers (unnumberedAll items) = anyRefers items
  | [] => rfl
  | n :: rest => by rw [unnumberedAll, anyRefers, anyRefers, refersUnnumbered n, anyRefersUnnumbered rest]

end

/-! Numbers count only where groups are referred to, and a tree that is easy there is easy where none is. -/

mutual

theorem shapeUnnumbered : ∀ n : Node, n.unnumbered.shape [] = n.shape []
  | .seq items => by
    rw [unnumbered]
    exact shapeOfSeqUnnumbered items
  | .alt branches => by
    rw [unnumbered]
    exact shapeOfAltUnnumbered branches
  | .group _ body => by
    simp only [unnumbered, shape, shapeUnnumbered body]
    rfl
  | .repeated _ _ _ body => by simp only [unnumbered, shape, shapeUnnumbered body]
  | .atomic body => by simp only [unnumbered, shape, shapeUnnumbered body]
  | .empty | .char _ | .assertion _ | .look _ _ _ | .backref _ | .keepOut | .searchStart => rfl

theorem shapeOfSeqUnnumbered : ∀ items : List Node, shapeOfSeq [] (unnumberedAll items) = shapeOfSeq [] items
  | [] => rfl
  | n :: rest => by rw [unnumberedAll, shapeOfSeq, shapeOfSeq, shapeUnnumbered n, shapeOfSeqUnnumbered rest]

theorem shapeOfAltUnnumbered : ∀ branches : List Node, shapeOfAlt [] (unnumberedAll branches) = shapeOfAlt [] branches
  | [] => rfl
  | [n] => shapeUnnumbered n
  | n :: m :: rest => by
    have others := shapeOfAltUnnumbered (m :: rest)
    simp only [unnumberedAll] at others ⊢
    simp only [shapeOfAlt, shapeUnnumbered n, others]

end

mutual

theorem easyAlone {referenced : List Nat} : ∀ n : Node, (n.shape referenced).hard = false → (n.shape []).hard = false
  | .empty, _ => rfl
  | .char _, _ => rfl
  | .assertion _, easy => easy
  | .seq items, easy => seqEasy.mpr (allEasyAlone items (seqEasy.mp easy))
  | .alt branches, easy => altEasy.mpr (allEasyAlone branches (altEasy.mp easy))
  | .group _ body, easy => by
    simp only [shape, Bool.or_eq_false_iff] at easy
    simp only [shape, easyAlone body easy.1]
    rfl
  | .repeated _ _ _ body, easy => easyAlone body easy

theorem allEasyAlone {referenced : List Nat} : ∀ items : List Node, (∀ n ∈ items, (n.shape referenced).hard = false) →
    ∀ n ∈ items, (n.shape []).hard = false
  | [], _ => by simp
  | n :: rest, easy => by
    obtain ⟨here, others⟩ := List.forall_mem_cons.mp easy
    exact List.forall_mem_cons.mpr ⟨easyAlone n here, allEasyAlone rest others⟩

end

mutual

theorem easyRefers {referenced : List Nat} : ∀ n : Node, (n.shape referenced).hard = false → n.refers = false
  | .empty, _ => rfl
  | .char _, _ => rfl
  | .assertion _, _ => rfl
  | .seq items, easy => anyRefersFalse.mpr (allEasyRefers items (seqEasy.mp easy))
  | .alt branches, easy => anyRefersFalse.mpr (allEasyRefers branches (altEasy.mp easy))
  | .group _ body, easy => by
    simp only [shape, Bool.or_eq_false_iff] at easy
    exact easyRefers body easy.1
  | .repeated _ _ _ body, easy => easyRefers body easy

theorem allEasyRefers {referenced : List Nat} : ∀ items : List Node, (∀ n ∈ items, (n.shape referenced).hard = false) →
    ∀ n ∈ items, n.refers = false
  | [], _ => by simp
  | n :: rest, easy => by
    obtain ⟨here, others⟩ := List.forall_mem_cons.mp easy
    exact List.forall_mem_cons.mpr ⟨easyRefers n here, allEasyRefers rest others⟩

end

end Node

namespace Reader
variable {limit fuel : Nat} {t u : Text} {p q : Progress} {n m : Node}

theorem quantifiedRefers (read : quantified? p n t = some (m, u)) : m.refers = n.refers := by
  rw [quantifiedParts] at read
  obtain ⟨v, _, read⟩ := Option.bind_eq_some_iff.mp read
  split at read
  · cases read
    rfl
  · split at read <;> try contradiction
    obtain ⟨w, _, same⟩ := Option.map_eq_some_iff.mp read
    have node := congrArg Prod.fst same
    dsimp only at node
    rw [← node]
    unfold marked possessed
    split <;> rfl

theorem AtomMade.refers (made : AtomMade p n q) (plain : n.refers = false) : q.referenced = p.referenced := by
  cases made with
  | reference => contradiction
  | _ => rfl

def Opened.refers : Opened → Bool
  | .group _ => false
  | .atom n => n.refers

theorem OpenedMade.refers {o : Opened} (made : OpenedMade p o q) (plain : o.refers = false) :
    q.referenced = p.referenced := by
  cases made with
  | reference => contradiction
  | _ => rfl

structure Frame.Plain (f : Frame) : Prop where
  branches : ∀ n ∈ f.branches, n.refers = false
  items : ∀ n ∈ f.items, n.refers = false

namespace Frame
variable {f : Frame}

theorem plainBranch (plain : f.branch.refers = false) : ∀ n ∈ f.items, n.refers = false := by
  intro n mem
  exact Node.refersItems.mp plain n (List.mem_reverse.mpr mem)

theorem plainTree (plain : f.tree.refers = false) : f.Plain := by
  unfold Frame.tree at plain
  split at plain
  · rename_i none
    exact ⟨by simp [none], plainBranch plain⟩
  · have all := Node.anyRefersFalse.mp plain
    refine ⟨fun n mem => all n (by simp [mem]), plainBranch (all f.branch (by simp))⟩

theorem Plain.ofNextBranch (plain : f.nextBranch.Plain) : f.Plain where
  branches n mem := plain.branches n (List.mem_cons_of_mem _ mem)
  items := plainBranch (plain.branches f.branch List.mem_cons_self)

theorem Plain.ofAdd (plain : (f.add n).Plain) : f.Plain ∧ n.refers = false := by
  unfold Frame.add at plain
  split at plain
  · rename_i empty
    refine ⟨plain, ?_⟩
    cases n <;> first | rfl | contradiction
  · obtain ⟨here, items⟩ := List.forall_mem_cons.mp plain.items
    exact ⟨⟨plain.branches, items⟩, here⟩

end Frame

theorem closeRefers {f : Frame} (plain : (close p f).1.refers = false) :
    f.Plain ∧ (close p f).2.referenced = p.referenced := by
  unfold close at plain ⊢
  split <;> simp_all [Node.refers, Frame.plainTree]

theorem readsRefers {frame : Frame} {outer : List Frame} {opened : List (Nat × Nat)}
    (reads : Reads limit t p frame outer opened n q) (plain : n.refers = false) :
    q.referenced = p.referenced ∧ frame.Plain ∧ ∀ f ∈ outer, f.Plain := by
  induction reads with
  | done => exact ⟨rfl, Frame.plainTree plain, by simp⟩
  | bar _ _ ih =>
    obtain ⟨same, branches, others⟩ := ih plain
    exact ⟨same, branches.ofNextBranch, others⟩
  | close _ _ quantified _ ih =>
    obtain ⟨same, added, others⟩ := ih plain
    obtain ⟨parent, here⟩ := added.ofAdd
    rw [quantifiedRefers quantified] at here
    obtain ⟨inner, kept⟩ := closeRefers here
    exact ⟨same.trans kept, inner, List.forall_mem_cons.mpr ⟨parent, others⟩⟩
  | group _ _ opens _ ih =>
    obtain ⟨same, _, others⟩ := ih plain
    exact ⟨same.trans ((openMade opens).refers rfl), List.forall_mem_cons.mp others⟩
  | settled _ _ opens quantified _ ih =>
    obtain ⟨same, added, others⟩ := ih plain
    obtain ⟨here, alone⟩ := added.ofAdd
    rw [quantifiedRefers quantified] at alone
    exact ⟨same.trans ((openMade opens).refers alone), here, others⟩
  | atom _ _ reads quantified _ ih =>
    obtain ⟨same, added, others⟩ := ih plain
    obtain ⟨here, alone⟩ := added.ofAdd
    rw [quantifiedRefers quantified] at alone
    exact ⟨same.trans ((atomMade reads).refers alone), here, others⟩

theorem treeReferenced {pattern : Text} (read : tree? pattern = some (n, q)) (plain : n.refers = false) :
    q.referenced = [] := by
  obtain ⟨_, reads⟩ := readsOfRead read
  exact (readsRefers reads plain).1

end Reader
end ExtendedPattern.Engine
