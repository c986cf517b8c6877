import ExtendedPattern.Proofs.TrialMatches

/-! Tame trees. What the plan of a tame tree finds out by trial is what the tree matches. -/
namespace ExtendedPattern.Engine
open Backtrack

namespace Node

mutual

/-- Matching by trial tells what the tree matches: nothing commits to its first match, refers to a group or asks
where the search began, and what is repeated without bound takes something. A part that needs no backtracking can be
anything where it is matched as a whole. -/
def isTame (inHard : Bool) (n : Node) : Bool :=
  !inHard && !(n.shape []).hard ||
  match n with
  | .empty | .char _ | .assertion _ => true
  | .seq items => areTame true items
  | .alt branches => !branches.isEmpty && areTame inHard branches
  | .group _ body => isTame inHard body
  | .repeated low high _ body =>
    high.all (low ≤ ·) && (high.isSome || (body.shape []).least != 0) &&
      isTame (inHard || !(low == 0 && high == some 1)) body
  | .look _ _ body => isTame false body
  | .atomic _ | .backref _ | .keepOut | .searchStart => false

def areTame (inHard : Bool) : List Node → Bool
  | [] => true
  | n :: rest => isTame inHard n && areTame inHard rest

end

theorem tameAll {inHard : Bool} {items : List Node} : areTame inHard items ↔ ∀ n ∈ items, n.isTame inHard := by
  induction items with
  | nil => simp [areTame]
  | cons n rest ih => rw [areTame, Bool.and_eq_true, List.forall_mem_cons, ih]

theorem seqFixed {referenced : List Nat} {items : List Node} :
    (shapeOfSeq referenced items).fixed ↔ ∀ n ∈ items, (n.shape referenced).fixed := by
  induction items with
  | nil => simp [shapeOfSeq, Shape.nothing]
  | cons n rest ih => rw [shapeOfSeq, Shape.followedBy, Bool.and_eq_true, List.forall_mem_cons, ih]

theorem tameEasy {n : Node} (easy : (n.shape []).hard = false) : n.isTame false := by
  rw [isTame.eq_def, easy]
  rfl

theorem tameBranches {branches : List Node} (tame : (alt branches).isTame false) : ∀ n ∈ branches, n.isTame false := by
  rw [isTame, Bool.or_eq_true] at tame
  rcases tame with easy | all
  · have easy : ((alt branches).shape []).hard = false := by simpa using easy
    exact fun n mem => tameEasy (altEasy.mp easy n mem)
  · exact tameAll.mp (Bool.and_eq_true_iff.mp all).2

mutual

theorem tameSoft : ∀ n : Node, n.isTame true → n.isTame false
  | .empty, _ | .char _, _ | .assertion _, _ => by simp [isTame]
  | .seq items, tame => by
    rw [isTame] at tame ⊢
    exact Bool.or_eq_true_iff.mpr (.inr tame)
  | .alt branches, tame => by
    rw [isTame] at tame ⊢
    obtain ⟨present, all⟩ := Bool.and_eq_true_iff.mp tame
    exact Bool.or_eq_true_iff.mpr (.inr (Bool.and_eq_true_iff.mpr ⟨present, allTameSoft branches all⟩))
  | .group _ body, tame => by
    rw [isTame] at tame ⊢
    exact Bool.or_eq_true_iff.mpr (.inr (tameSoft body tame))
  | .repeated low high _ body, tame => by
    rw [isTame] at tame ⊢
    obtain ⟨sound, inside⟩ := Bool.and_eq_true_iff.mp tame
    refine Bool.or_eq_true_iff.mpr (.inr (Bool.and_eq_true_iff.mpr ⟨sound, ?_⟩))
    cases often : low == 0 && high == some 1 with
    | true => exact tameSoft body inside
    | false => exact inside
  | .look _ _ body, tame => by
    rw [isTame] at tame ⊢
    exact Bool.or_eq_true_iff.mpr (.inr tame)

theorem allTameSoft : ∀ items : List Node, areTame true items → areTame false items
  | [], _ => rfl
  | n :: rest, tame => by
    rw [areTame, Bool.and_eq_true] at tame ⊢
    exact ⟨tameSoft n tame.1, allTameSoft rest tame.2⟩

end

theorem easyOrRefers {n : Node} {inHard parts : Bool} (tame : (!inHard && !(n.shape []).hard || parts) = true)
    (inside : parts = true → n.refers = false) : n.refers = false := by
  rcases Bool.or_eq_true_iff.mp tame with easy | tame
  · exact easyRefers n (by simpa using (Bool.and_eq_true_iff.mp easy).2)
  · exact inside tame

mutual

theorem tameRefers {inHard : Bool} : ∀ n : Node, n.isTame inHard → n.refers = false
  | .empty, _ | .char _, _ | .assertion _, _ | .keepOut, _ | .searchStart, _ => rfl
  | .seq items, tame => by
    rw [isTame] at tame
    exact easyOrRefers tame (allTameRefers items)
  | .alt branches, tame => by
    rw [isTame] at tame
    exact easyOrRefers tame fun parts => allTameRefers branches (Bool.and_eq_true_iff.mp parts).2
  | .group _ body, tame => by
    rw [isTame] at tame
    exact easyOrRefers tame (tameRefers body)
  | .repeated _ _ _ body, tame => by
    rw [isTame] at tame
    exact easyOrRefers tame fun parts => tameRefers body (Bool.and_eq_true_iff.mp parts).2
  | .look _ _ body, tame => by
    rw [isTame] at tame
    exact easyOrRefers tame (tameRefers body)
  | .atomic _, tame | .backref _, tame => by
    rw [isTame] at tame
    exact easyOrRefers tame nofun

theorem allTameRefers {inHard : Bool} : ∀ items : List Node, areTame inHard items → anyRefers items = false
  | [], _ => rfl
  | n :: rest, tame => by
    rw [areTame, Bool.and_eq_true] at tame
    rw [anyRefers, tameRefers n tame.1, allTameRefers rest tame.2]
    rfl

end

mutual

theorem tameUnnumbered {inHard : Bool} : ∀ n : Node, n.unnumbered.isTame inHard = n.isTame inHard
  | .empty | .char _ | .assertion _ | .backref _ | .keepOut | .searchStart => rfl
  | .seq items => by
    have same := shapeUnnumbered (.seq items)
    rw [unnumbered] at same ⊢
    rw [isTame, isTame, same, allTameUnnumbered items]
  | .alt branches => by
    have same := shapeUnnumbered (.alt branches)
    rw [unnumbered] at same ⊢
    rw [isTame, isTame, same, allTameUnnumbered branches, unnumberedMap, List.isEmpty_map]
  | .group index body => by
    have same := shapeUnnumbered (.group index body)
    rw [unnumbered] at same ⊢
    rw [isTame, isTame, same, tameUnnumbered body]
  | .repeated low high greedy body => by
    have same := shapeUnnumbered (.repeated low high greedy body)
    rw [unnumbered] at same ⊢
    rw [isTame, isTame, same, tameUnnumbered body, shapeUnnumbered body]
  | .look ahead negative body => by
    have same := shapeUnnumbered (.look ahead negative body)
    rw [unnumbered] at same ⊢
    rw [isTame, isTame, same, tameUnnumbered body]
  | .atomic body => by
    have same := shapeUnnumbered (.atomic body)
    rw [unnumbered] at same ⊢
    rw [isTame, isTame, same]

theorem allTameUnnumbered {inHard : Bool} : ∀ items : List Node, areTame inHard (unnumberedAll items) = areTame inHard items
  | [] => rfl
  | n :: rest => by rw [unnumberedAll, areTame, areTame, tameUnnumbered n, allTameUnnumbered rest]

end

section
variable {branches : List Node} {c d : Cursor}

theorem anyBehind (present : branches ≠ []) :
    (∃ e, (alt branches).Matches e c) ↔ ∃ n ∈ branches, ∃ e, n.Matches e c := by
  simp only [Matches, matchOneIff present]
  exact ⟨fun ⟨e, n, mem, taken⟩ => ⟨n, mem, e, taken⟩, fun ⟨n, mem, e, taken⟩ => ⟨e, n, mem, taken⟩⟩

theorem allRefuse : MatchAll (branches.map (look false true)) c d ↔ c = d ∧ ¬ ∃ n ∈ branches, ∃ e, n.Matches e c := by
  induction branches with
  | nil => simp [MatchAll]
  | cons n rest ih =>
    simp only [List.map_cons, MatchAll, Matches, true_iff, List.exists_mem_cons_iff, not_or]
    constructor
    · rintro ⟨m, ⟨rfl, free⟩, others⟩
      obtain ⟨rfl, more⟩ := ih.mp others
      exact ⟨rfl, free, more⟩
    · rintro ⟨rfl, free, more⟩
      exact ⟨c, ⟨rfl, free⟩, ih.mpr ⟨rfl, more⟩⟩

theorem refusesIff (present : branches ≠ []) :
    MatchAll (branches.map (look false true)) c d ↔ (look false true (alt branches)).Matches c d := by
  rw [allRefuse, ← anyBehind present, Matches, eq_self, true_iff]

theorem acceptsIff (present : branches ≠ []) :
    MatchOne (branches.map (look false false)) c d ↔ (look false false (alt branches)).Matches c d := by
  rw [matchOneIff (by simpa using present), Matches, anyBehind present]
  simp [Matches, and_left_comm]

end
end Node

namespace Plan

namespace Setting
variable {s : Setting} {inHard : Bool} {n : Node} {items front middle ends : List Node} {plans : List Plan}

theorem easyIff : s.isEasy n ↔ (n.shape s.referenced).hard = false := by simp [isEasy, shape]

theorem codeOf {code : Array Step} (made : s.code? n = some code) :
    code = (Code.ofNode n).toArray ∧ Code.isBounded n := by
  unfold code? at made
  split at made <;> cases made
  rename_i fits
  exact ⟨rfl, (Bool.and_eq_true_iff.mp fits).1⟩

theorem delegated (present : items ≠ []) (made : s.delegate? items = some plans) : Code.isBounded (.ofItems items) ∧
    plans = [.delegate (Code.ofNode (.ofItems items)).toArray (Node.groupsIn items)] := by
  cases items with
  | nil => contradiction
  | cons n rest =>
    simp only [delegate?, Option.bind_eq_bind, Option.bind_eq_some_iff] at made
    obtain ⟨code, coded, same⟩ := made
    cases same
    exact ⟨(codeOf coded).2, by rw [(codeOf coded).1]⟩

theorem partitioned (parts : s.partition inHard items = (front, middle, ends)) :
    items = front ++ (middle ++ ends) ∧ (∀ n ∈ front, s.isFixedEasy n) ∧
      ∀ n ∈ ends, s.isEasy n ∧ (inHard = true → (s.shape n).fixed) := by
  simp only [partition, Prod.mk.injEq] at parts
  obtain ⟨rfl, rfl, rfl⟩ := parts
  have whole := List.prefix_iff_eq_append.mp (List.takeWhile_prefix (l := items) s.isFixedEasy)
  generalize items.drop (items.takeWhile s.isFixedEasy).length = rest at whole
  let easy := if inHard then s.isFixedEasy else s.isEasy
  have last := List.reverse_suffix.mpr (List.takeWhile_prefix (l := rest.reverse) easy)
  rw [List.reverse_reverse] at last
  have behind := List.suffix_iff_eq_append.mp last
  rw [List.length_reverse] at behind
  refine ⟨?_, fun n mem => List.mem_takeWhile_imp mem, fun n mem => ?_⟩
  · rw [behind, whole]
  · have holds : easy n := List.mem_takeWhile_imp (List.mem_reverse.mp mem)
    cases inHard with
    | true =>
      obtain ⟨fixed, easy⟩ := Bool.and_eq_true_iff.mp holds
      exact ⟨easy, fun _ => fixed⟩
    | false => exact ⟨holds, nofun⟩

end Setting

variable {s : Setting} {limit depth next next' : Nat} {inHard : Bool} {n : Node} {items front middle ends : List Node}
variable {plan : Plan} {plans first others last : List Plan} {f : Frame} {text : Text}

theorem delegatesTell (made : Setting.delegate? ⟨[], limit⟩ items = some plans)
    (easy : ∀ n ∈ items, (n.shape []).hard = false) (fixed : inHard = true → ∀ n ∈ items, (n.shape []).fixed) :
    Move.Tells text inHard (Node.MatchAll items) (runSeq f plans) := by
  by_cases present : items = []
  · subst present
    cases made
    exact (sequenceTells .nil).anywhere inHard
  · obtain ⟨bounded, rfl⟩ := Setting.delegated present made
    have tells : Move.Tells text inHard (Node.ofItems items).Matches _ :=
      @delegateTells f _ _ _ (by rwa [Node.shapeOfItems, Node.seqEasy]) bounded
        (fun hard => by rw [Node.shapeOfItems]; exact Node.seqFixed.mpr (fixed hard)) (Node.groupsIn items)
    have meaning := tells.congr fun {c d} _ => Node.ofItemsMatches items c d
    simpa only [Move.Tells, runSeq] using meaning

theorem partsTell (parts : Setting.partition ⟨[], limit⟩ inHard items = (front, middle, ends))
    (fronts : Setting.delegate? ⟨[], limit⟩ front = some first) (behind : Setting.delegate? ⟨[], limit⟩ ends = some last)
    (between : List.Forall₂ (fun n plan => Move.Tells text true n.Matches (run f plan)) middle others) :
    Move.Tells text inHard (Node.MatchAll items) (run f (.seq (first ++ others ++ last))) := by
  obtain ⟨rfl, here, there⟩ := Setting.partitioned parts
  have start : Move.Tells text true (Node.MatchAll front) (runSeq f first) :=
    delegatesTell fronts (fun n mem => Setting.easyIff.mp (Bool.and_eq_true_iff.mp (here n mem)).2)
      fun _ n mem => (Bool.and_eq_true_iff.mp (here n mem)).1
  have stop : Move.Tells text inHard (Node.MatchAll ends) (runSeq f last) :=
    delegatesTell behind (fun n mem => Setting.easyIff.mp (there n mem).1)
      fun hard n mem => (there n mem).2 hard
  have meaning : Move.Tells text inHard (Node.MatchAll (front ++ (middle ++ ends))) _ :=
    (start.followedBy ((sequenceTells between).followedBy stop)).congr fun _ => by simp only [Node.matchAllAppend]
  refine ofSequence ?_
  simpa only [Move.Tells, List.append_assoc, sequenceAppend] using meaning

theorem allMade {T : Node → Plan → Prop} (made : ofNode.all s depth inHard items next = some (plans, next'))
    (each : ∀ {n i plan j}, n ∈ items → ofNode s depth inHard n i = some (plan, j) → T n plan) :
    List.Forall₂ T items plans := by
  induction items generalizing plans next next' with
  | nil =>
    rw [ofNode.all] at made
    cases made
    exact .nil
  | cons n rest ih =>
    simp only [ofNode.all, Option.bind_eq_bind, Option.bind_eq_some_iff] at made
    obtain ⟨⟨plan, i⟩, here, ⟨others, j⟩, behind, same⟩ := made
    cases same
    exact .cons (each List.mem_cons_self here) (ih behind fun mem => each (List.mem_cons_of_mem _ mem))

theorem repetitionTells (low : Nat) (high : Option Nat) (greedy : Bool)
    (tells : Move.Tells text true n.Matches (run f plan)) (bounded : ∀ most ∈ high, low ≤ most)
    (takes : high = none → (n.shape []).least ≠ 0) :
    Move.Tells text inHard (Node.repeated low high greedy n).Matches
      (run f (repetition ⟨[], limit⟩ low high greedy n plan next).1) := by
  have shrinks (endless : high = none) {c d : Cursor} (taken : n.Matches c d) : d.after.length < c.after.length := by
    have length := n.measured.least taken
    have some := takes endless
    omega
  have counted : Move.Tells text inHard (Node.repeated low high greedy n).Matches (run f (.counted low high greedy plan)) :=
    countedTells tells bounded shrinks greedy
  have looped (once : Bool) (endless : high = none) (from_ : once.toNat = low) :
      Move.Tells text inHard (Node.repeated low high greedy n).Matches (run f (.loop once greedy plan)) := by
    refine (loopTells tells (shrinks endless) once greedy).congr fun {c d} _ => ?_
    simp [Node.Matches, endless, from_]
  unfold repetition
  split
  · exact counted
  · split
    · rename_i none
      exact absurd none (takes rfl)
    · split
      · exact looped false rfl (by simp [*])
      · split
        · exact looped true rfl (by simp [*])
        · exact counted

theorem lookBranchTells {ahead negative : Bool} {look : Plan} (tells : Move.Tells text false n.Matches (run f plan))
    (made : lookBranch ⟨[], limit⟩ ahead negative n plan = some look) :
    Move.Tells text inHard (Node.look ahead negative n).Matches (run f look) := by
  unfold lookBranch at made
  cases ahead with
  | true =>
    cases made
    exact (lookTells tells 0 negative).congr fun _ => by simp [Cursor.back?, Node.Matches]
  | false =>
    simp only [Bool.false_eq_true, if_false, Option.ite_none_right_eq_some, Option.some.injEq] at made
    obtain ⟨fixed, rfl⟩ := made
    refine (lookTells tells _ negative).congr fun {c d} on => and_congr_right' (iff_congr Iff.rfl (not_congr ?_))
    constructor
    · rintro ⟨origin, e, walked, taken⟩
      obtain ⟨ahead, length⟩ := on.backIff.mp walked
      have same := n.measured.only fixed taken
      rw [ahead.alone (n.measured.ahead taken) (by simp only [Setting.shape] at length; omega)]
      exact ⟨origin, taken⟩
    · rintro ⟨e, taken⟩
      exact ⟨e, c, on.backIff.mpr ⟨n.measured.ahead taken, n.measured.only fixed taken⟩, taken⟩

theorem looksTell {negative : Bool} {branches : List Node} {looks : List Plan}
    (all : List.Forall₂ (fun n plan => Move.Tells text false n.Matches (run f plan)) branches plans)
    (made : ((branches.zip plans).mapM fun (n, plan) => lookBranch ⟨[], limit⟩ false negative n plan) = some looks) :
    List.Forall₂ (fun n look => Move.Tells text inHard n.Matches (run f look))
      (branches.map (Node.look false negative)) looks := by
  induction all generalizing looks with
  | nil =>
    cases made
    exact .nil
  | cons here _ ih =>
    simp only [List.zip_cons_cons, List.mapM_cons, Option.bind_eq_bind, Option.bind_eq_some_iff] at made
    obtain ⟨look, first, others, rest, same⟩ := made
    cases same
    exact .cons (lookBranchTells here first) (ih rest)

theorem branchesTell {negative : Bool} {branches : List Node} {looks : List Plan} (present : branches ≠ [])
    (all : List.Forall₂ (fun n plan => Move.Tells text false n.Matches (run f plan)) branches plans)
    (made : ((branches.zip plans).mapM fun (n, plan) => lookBranch ⟨[], limit⟩ false negative n plan) = some looks) :
    Move.Tells text inHard (Node.look false negative (.alt branches)).Matches
      (run f (if negative then .seq looks else .alt looks)) := by
  cases negative with
  | true =>
    exact ofSequence (((sequenceTells (looksTell all made)).congr fun _ => Node.refusesIff present).anywhere inHard)
  | false =>
    have some : branches.map (Node.look false false) ≠ [] := by simpa using present
    exact ofAlternatives ((alternativesTell some (looksTell all made)).congr fun _ => Node.acceptsIff present)

def Sound (text : Text) (f : Frame) (limit depth : Nat) : Prop :=
  ∀ ⦃inHard n next plan next'⦄, ofNode ⟨[], limit⟩ depth inHard n next = some (plan, next') → n.isTame inHard →
    Move.Tells text inHard n.Matches (run f plan)

namespace Sound

theorem all (sound : Sound text f limit depth)
    (made : ofNode.all ⟨[], limit⟩ depth inHard items next = some (plans, next')) (tame : ∀ n ∈ items, n.isTame inHard) :
    List.Forall₂ (fun n plan => Move.Tells text inHard n.Matches (run f plan)) items plans :=
  allMade made fun mem made => sound made (tame _ mem)

theorem delegated (made : Plan.delegated ⟨[], limit⟩ n next = some (plan, next'))
    (easy : (!inHard && Setting.isEasy ⟨[], limit⟩ n) = true) : Move.Tells text inHard n.Matches (run f plan) := by
  obtain ⟨soft, easy⟩ := Bool.and_eq_true_iff.mp easy
  simp only [Plan.delegated, Option.bind_eq_bind, Option.bind_eq_some_iff] at made
  obtain ⟨code, coded, same⟩ := made
  cases same
  obtain ⟨rfl, bounded⟩ := Setting.codeOf coded
  refine delegateTells (Setting.easyIff.mp easy) bounded (fun hard => ?_) _
  rw [hard] at soft
  contradiction

theorem repeated {low : Nat} {high : Option Nat} {greedy : Bool} (sound : Sound text f limit depth)
    (hard : ¬ (!inHard && Setting.isEasy ⟨[], limit⟩ (.repeated low high greedy n)) = true)
    (made : ofNode ⟨[], limit⟩ (depth + 1) inHard (.repeated low high greedy n) next = some (plan, next'))
    (bounded : ∀ most ∈ high, low ≤ most) (takes : high = none → (n.shape []).least ≠ 0)
    (tame : n.isTame (inHard || !(low == 0 && high == some 1))) :
    Move.Tells text inHard (Node.repeated low high greedy n).Matches (run f plan) := by
  unfold ofNode at made
  rw [if_neg hard] at made
  split at made <;> try contradiction
  · rename_i same
    cases same
    simp only [Option.bind_eq_bind, Option.bind_eq_some_iff] at made
    obtain ⟨⟨plan, _⟩, made, same⟩ := made
    cases same
    exact optionalTells (sound made (by simpa using tame)) greedy
  · rename_i apart same
    cases same
    simp only [Option.bind_eq_bind, Option.bind_eq_some_iff] at made
    obtain ⟨⟨inner, i⟩, made, whole⟩ := made
    have often : (low == 0 && high == some 1) = false := by
      rw [Bool.and_eq_false_iff, beq_eq_false_iff_ne, beq_eq_false_iff_ne, ← not_and_or]
      exact fun both => apart both.1 both.2
    rw [often, Bool.not_false, Bool.or_true] at tame
    obtain rfl : _ = plan := congrArg Prod.fst (Option.some.inj whole)
    exact repetitionTells low high greedy (sound made tame) bounded takes

theorem look {ahead negative : Bool} (sound : Sound text f limit depth)
    (hard : ¬ (!inHard && Setting.isEasy ⟨[], limit⟩ (.look ahead negative n)) = true)
    (made : ofNode ⟨[], limit⟩ (depth + 1) inHard (.look ahead negative n) next = some (plan, next'))
    (tame : n.isTame false) : Move.Tells text inHard (Node.look ahead negative n).Matches (run f plan) := by
  unfold ofNode at made
  rw [if_neg hard] at made
  split at made <;> try contradiction
  rename_i same
  cases same
  split at made
  · simp only [Option.bind_eq_bind, Option.bind_eq_some_iff] at made
    obtain ⟨⟨plans, _⟩, made, looks, looked, same⟩ := made
    cases same
    refine branchesTell ?_ (sound.all made (Node.tameBranches tame)) looked
    rintro rfl
    contradiction
  · simp only [Option.bind_eq_bind, Option.bind_eq_some_iff] at made
    obtain ⟨⟨plan, _⟩, made, look, looked, same⟩ := made
    cases same
    exact lookBranchTells (sound made tame) looked

theorem step (sound : Sound text f limit depth) : Sound text f limit (depth + 1) := by
  intro inHard n next plan next' made tame
  by_cases easy : (!inHard && Setting.isEasy ⟨[], limit⟩ n) = true
  · unfold ofNode at made
    rw [if_pos easy] at made
    exact delegated made easy
  · have whole := made
    unfold ofNode at made
    rw [if_neg easy] at made
    have hard : (!inHard && !(n.shape []).hard) = false := by simpa [Setting.isEasy, Setting.shape] using easy
    cases n with
    | empty =>
      cases made
      exact ofSequence ((sequenceTells .nil).anywhere inHard)
    | char set =>
      cases made
      exact charTells set
    | assertion a =>
      cases made
      exact assertionTells a
    | seq items =>
      simp only [Node.isTame, hard, Bool.false_or] at tame
      simp only [Option.bind_eq_bind, Option.bind_eq_some_iff] at made
      obtain ⟨first, fronts, last, behind, ⟨others, _⟩, between, same⟩ := made
      cases same
      have parts := @Setting.partitioned ⟨[], limit⟩ inHard items _ _ _ rfl
      refine partsTell rfl fronts behind (sound.all between fun n mem => Node.tameAll.mp tame n ?_)
      rw [parts.1]
      exact List.mem_append_right _ (List.mem_append_left _ mem)
    | alt branches =>
      simp only [Node.isTame, hard, Bool.false_or, Bool.and_eq_true, Bool.not_eq_true', List.isEmpty_eq_false_iff] at tame
      simp only [Option.bind_eq_bind, Option.bind_eq_some_iff] at made
      obtain ⟨⟨plans, _⟩, made, same⟩ := made
      cases same
      exact ofAlternatives (alternativesTell tame.1 (sound.all made (Node.tameAll.mp tame.2)))
    | group index body =>
      simp only [Node.isTame, hard, Bool.false_or] at tame
      simp only [Option.bind_eq_bind, Option.bind_eq_some_iff] at made
      obtain ⟨⟨plan, _⟩, made, same⟩ := made
      cases same
      exact captureTells (sound made tame) index
    | repeated low high greedy body =>
      simp only [Node.isTame, hard, Bool.false_or, Bool.and_eq_true] at tame
      obtain ⟨⟨bounded, takes⟩, inside⟩ := tame
      refine sound.repeated easy whole ?_ ?_ inside
      · rintro most rfl
        simpa using bounded
      · rintro rfl
        simpa using takes
    | look ahead negative body =>
      simp only [Node.isTame, hard, Bool.false_or] at tame
      exact sound.look easy whole tame
    | atomic | backref | keepOut | searchStart => simp [Node.isTame, hard] at tame

theorem always (text : Text) (f : Frame) (limit depth : Nat) : Sound text f limit depth := by
  induction depth with
  | zero =>
    intro inHard n next plan next' made
    rw [ofNode] at made
    cases made
  | succ depth ih => exact ih.step

end Sound

example : (Node.alt [.seq [.look false false (.char (.single 'x')), .assertion .wordBoundary, .char (.single 'a')],
    .repeated 1 none true (.seq [.look true true (.char (.single 'b')), .char (.single 'c')])]).isTame true := by
  decide

end Plan
end ExtendedPattern.Engine
