import ExtendedPattern.Proofs.Copying
import ExtendedPattern.Proofs.Neighbours

/-! Explicit capture keeps the named groups. With the flag a pattern is cut in the same way as without it.
Its slots are the named ones in their order, so a name is known in both runs or in neither, and each number
written for it is that of its first slot. -/
namespace ExtendedPattern
open Text (size)
open Uncached (Made Segmented)

structure Context.Explicit (c d : Context) : Prop where
  slots : d.slots = c.slots.filter Option.isSome
  flags : d.flags = c.flags.union (.single .explicitCapture)

inductive Renumbered : Text → Text → Prop where
  | same (t : Text) : Renumbered t t
  | opener : Renumbered ['('] "(?:".toList
  | number (i j : Nat) (fence : Text) :
      Renumbered ('\\' :: Text.decimal (i + 1) ++ fence) ('\\' :: Text.decimal (j + 1) ++ fence)

def Pairing.explicit : Pairing := ⟨Context.Explicit, Renumbered, .same⟩

namespace Context.Explicit
variable {c d : Context}

theorem has (explicit : c.Explicit d) (flag : Flag) : d.has flag = (c.has flag || flag == .explicitCapture) := by
  rw [Context.has, explicit.flags, FlagSet.hasUnion, FlagSet.hasSingle]
  rfl

theorem start (f : FlagSet) : Explicit (.start f) (.start (f.union (.single .explicitCapture))) := ⟨rfl, rfl⟩

theorem named (explicit : c.Explicit d) (name : Text) : (c.push (some name)).Explicit (d.push (some name)) where
  slots := by simp [Context.push, explicit.slots]
  flags := explicit.flags

theorem setFlags (explicit : c.Explicit d) (more : FlagSet) : (c.setFlags more).Explicit (d.setFlags more) where
  slots := explicit.slots
  flags := by
    refine FlagSet.sameMembers fun flag => ?_
    simp only [Context.setFlags, explicit.flags, FlagSet.hasUnion]
    rw [Bool.or_right_comm]

theorem known (explicit : c.Explicit d) (name : Text) : (d.index? name).isSome = (c.index? name).isSome := by
  rw [Context.index?, Context.index?, List.findIdx?_isSome, List.findIdx?_isSome, explicit.slots, List.any_filter]
  refine congrArg (List.any c.slots) (funext fun slot => ?_)
  cases slot <;> rfl

theorem carried (source : Text) : Pairing.explicit.Carried source where
  asked := by
    intro c d (explicit : c.Explicit d) flag asked
    have other : (flag == Flag.explicitCapture) = false := by
      simp only [List.mem_cons, List.not_mem_nil, or_false] at asked
      rcases asked with rfl | rfl <;> rfl
    rw [explicit.has, other, Bool.or_false]
  named explicit name := Context.Explicit.named explicit name
  modes explicit more _ := Context.Explicit.setFlags explicit more
  reference := by
    intro c d (explicit : c.Explicit d) m
    have known := explicit.known ((m.group? 1).getD [])
    rw [BuiltinRules.referenceText, BuiltinRules.referenceText]
    cases left : c.index? ((m.group? 1).getD []) <;> cases right : d.index? ((m.group? 1).getD [])
    · exact .same _
    · simp [left, right] at known
    · simp [left, right] at known
    · exact .number _ _ _
  opener := by
    intro c d (explicit : c.Explicit d) m region s u
    have on : d.has .explicitCapture = true := (explicit.has _).trans (Bool.or_true _)
    dsimp only [BuiltinRules.plainOpenerRule]
    rw [if_pos on]
    split
    · exact .write (.same _) explicit
    · have grown : (c.push none).Explicit d := ⟨by simp [Context.push, explicit.slots], explicit.flags⟩
      exact .write .opener grown

end Context.Explicit

theorem Text.decimalStarts (n : Nat) : ∃ d more, Text.decimal n = d :: more ∧ NativeToken.isDigit d := by
  have digits := NativeToken.decimalDigits n
  cases written : Text.decimal n with
  | nil => exact absurd written (by simp [Text.decimal])
  | cons d more => exact ⟨d, more, rfl, digits d (by simp [written])⟩

namespace Segment
variable {g h : Segment} {slots more : List (Option Text)}

def Numbers (slots : List (Option Text)) (g : Segment) : Prop :=
  ∃ name index fence, g.source = ['\\', 'k', '<'] ++ name ++ ['>'] ∧ slots.findIdx? (· == some name) = some index ∧
    (fence = [] ∨ fence = "(?:)".toList) ∧ g.fragment = '\\' :: Text.decimal (index + 1) ++ fence

structure Explicit (slots named : List (Option Text)) (g h : Segment) : Prop where
  source : g.source = h.source
  rewritten : g.rewritten = h.rewritten
  resolved : g.IsNumber ↔ h.IsNumber
  numbers : g.IsNumber → g.Numbers slots
  renumbers : h.IsNumber → h.Numbers named

theorem Numbers.later (numbers : g.Numbers slots) : g.Numbers (slots ++ more) := by
  obtain ⟨name, index, fence, source, first, fenced, fragment⟩ := numbers
  refine ⟨name, index, fence, source, ?_, fenced, fragment⟩
  rw [List.findIdx?_append, first]
  rfl

end Segment

theorem Renumbered.resolved {out out' source : Text} (renumbered : Renumbered out out') (mark : ['\\', 'k', '<'] <+: source) :
    out = out' ∨ out ≠ source ∧ out' ≠ source := by
  obtain ⟨tail, rfl⟩ := mark
  have noNumber (i : Nat) (fence : Text) : '\\' :: Text.decimal (i + 1) ++ fence ≠ ['\\', 'k', '<'] ++ tail := by
    obtain ⟨d, more, written, digit⟩ := Text.decimalStarts (i + 1)
    rw [written]
    intro same
    obtain rfl : d = 'k' := List.head_eq_of_cons_eq (List.tail_eq_of_cons_eq same)
    cases digit
  cases renumbered with
  | same t => exact .inl rfl
  | opener => exact .inr ⟨by simp, by simp⟩
  | number i j fence => exact .inr ⟨noNumber i fence, noNumber j fence⟩

namespace Uncached
open Scanning (Stage)
variable {locals : List LocalRule} {before front rest : Text} {a b : Stage} {g : Segment} {segments : List Segment}

theorem Made.slotsGrow (accounts : ∀ l ∈ locals, LocalRule.Accounts l.recognize l.rule.handle) (present : front ≠ [])
    (made : Made locals before front rest a g b) : ∃ more, b.context.slots = a.context.slots ++ more := by
  cases made with
  | token unseen known => exact ⟨[], (List.append_nil _).symm⟩
  | character c lone unseen unknown => exact ⟨[], (List.append_nil _).symm⟩
  | fired l groups wrote s first whole starts gave =>
    obtain ⟨c, tail, rfl⟩ := List.exists_cons_of_ne_nil present
    obtain ⟨mem, _, seen⟩ := LocalRule.firstParts first
    cases accounts l mem seen (Prod.ext gave rfl) with
    | silent other same => exact ⟨[], same.trans (List.append_nil _).symm⟩
    | opens written split opener whole grown => exact ⟨_, grown⟩

theorem Segmented.numbers (known : ∀ l ∈ locals, l.Bundled)
    (accounts : ∀ l ∈ locals, LocalRule.Accounts l.recognize l.rule.handle) (segmented : Segmented locals before rest a segments b) :
    (∃ more, b.context.slots = a.context.slots ++ more) ∧ ∀ g ∈ segments, g.IsNumber → g.Numbers b.context.slots := by
  induction segmented with
  | done before a => exact ⟨⟨[], (List.append_nil _).symm⟩, nofun⟩
  | @goesOn before front rest a b c g others present made segmented ih =>
    obtain ⟨⟨behind, grown⟩, numbers⟩ := ih
    obtain ⟨more, grows⟩ := made.slotsGrow accounts present
    rw [grows, List.append_assoc] at grown
    refine ⟨⟨_, grown⟩, List.forall_mem_cons.mpr ⟨fun number => ?_, numbers⟩⟩
    obtain ⟨name, index, source, first, fragment⟩ := made.reference known number
    have here : g.Numbers a.context.slots := by
      refine ⟨name, index, _, made.source.trans source, first, ?_, fragment⟩
      split
      · exact .inr rfl
      · exact .inl rfl
    rw [grown]
    exact here.later

end Uncached

section Explicit
variable {r : Registry} {locals : List LocalRule} {flags : FlagSet}

theorem compileNumbers (standard : r.Standard locals) {pattern : Text} {s t : Session} {done : Compilation}
    (compiled : compile pattern flags r s = (.ok done, t)) :
    ∀ g ∈ done.segments, g.IsNumber → g.Numbers done.context.slots := by
  obtain ⟨_, segmented⟩ := compileSegments standard.bundled compiled
  exact (segmented.numbers standard.bundled.known (LocalRule.standardAccounts standard)).2

theorem Pairing.explicitSegments {slots named : List (Option Text)} {gs hs : List Segment}
    (paired : List.Forall₂ Pairing.explicit.Segments gs hs) (numbers : ∀ g ∈ gs, g.IsNumber → g.Numbers slots)
    (renumbers : ∀ h ∈ hs, h.IsNumber → h.Numbers named) : List.Forall₂ (Segment.Explicit slots named) gs hs := by
  induction paired with
  | nil => exact .nil
  | @cons g h gs hs pair _ ih =>
    obtain ⟨left, numbers⟩ := List.forall_mem_cons.mp numbers
    obtain ⟨right, renumbers⟩ := List.forall_mem_cons.mp renumbers
    have resolved : g.IsNumber ↔ h.IsNumber := by
      rw [Segment.IsNumber, Segment.IsNumber, pair.rewritten, pair.source]
      refine and_congr_right fun _ => and_congr_right fun mark => ?_
      have fragment : Renumbered g.fragment h.fragment := pair.fragment
      rcases fragment.resolved mark with same | ⟨other, other'⟩
      · rw [same]
      · exact iff_of_true other other'
    exact .cons ⟨pair.source, pair.rewritten, resolved, left, right⟩ (ih numbers renumbers)

/-- Explicit capture opens no group but the named ones. A pattern is refused for the same reason with and without it. Its
slots are the named ones in the same order, and each reference is resolved to the first slot of its name in both. -/
theorem explicitCaptureKeepsNamedGroups (standard : r = .builtins ∨ r = .global) (pattern : Text) (flags : FlagSet)
    {s u : Session} (alike : s.inRules = u.inRules) :
    (∃ e, (compile pattern flags r s).1 = .error e ∧
      (compile pattern (flags.union (.single .explicitCapture)) r u).1 = .error e) ∨
    ∃ done explicit, (compile pattern flags r s).1 = .ok done ∧
      (compile pattern (flags.union (.single .explicitCapture)) r u).1 = .ok explicit ∧
      explicit.context.slots = done.context.slots.filter Option.isSome ∧
      List.Forall₂ (Segment.Explicit done.context.slots explicit.context.slots) done.segments explicit.segments := by
  obtain ⟨locals, standard⟩ := Registry.Standard.ofLibrary standard
  by_cases idle : s.inRules = false
  · have pair := compilesCarried (Context.Explicit.carried pattern) standard.bundled (Context.Explicit.start flags) idle
      (alike ▸ idle)
    cases left : compile pattern flags r s with
    | mk result t =>
      cases right : compile pattern (flags.union (.single .explicitCapture)) r u with
      | mk result' t' =>
        rw [left, right] at pair
        cases pair with
        | fail e => exact .inl ⟨e, rfl, rfl⟩
        | done segments context =>
          refine .inr ⟨_, _, rfl, rfl, context.slots, ?_⟩
          exact Pairing.explicitSegments segments (compileNumbers standard left) (compileNumbers standard right)
  · have busy : s.inRules = true := by simpa using idle
    have busy' : u.inRules = true := alike ▸ busy
    exact .inl ⟨.reentrantCompilation, by simp [compile, rewrite, busy], by simp [compile, rewrite, busy']⟩

theorem referenceUnderExplicitCapture :
    ∃ done explicit, (compile "(a)(?<x>b)(?=(c))\\k<x>1".toList .empty .builtins {}).1 = .ok done ∧
      (compile "(a)(?<x>b)(?=(c))\\k<x>1".toList (FlagSet.empty.union (.single .explicitCapture)) .builtins {}).1 = .ok explicit ∧
      done.native = "(a)(b)(?=(c))\\2(?:)1".toList ∧ explicit.native = "(?:a)(b)(?=(?:c))\\1(?:)1".toList ∧
      done.context.slots = [none, some ['x'], none] ∧ explicit.context.slots = [some ['x']] := by
  have plain : (compile "(a)(?<x>b)(?=(c))\\k<x>1".toList .empty .builtins {}).1.map Compilation.result =
      .ok ("(a)(b)(?=(c))\\2(?:)1".toList, ⟨[none, some ['x'], none], .empty⟩) := by cbv
  have under : (compile "(a)(?<x>b)(?=(c))\\k<x>1".toList (FlagSet.empty.union (.single .explicitCapture)) .builtins {}).1.map
      Compilation.native = .ok "(?:a)(b)(?=(?:c))\\1(?:)1".toList := by cbv
  have idle : ({} : Session).inRules = ({} : Session).inRules := rfl
  obtain ⟨e, refused, _⟩ | ⟨done, explicit, left, right, slots, _⟩ :=
    explicitCaptureKeepsNamedGroups (.inl rfl) "(a)(?<x>b)(?=(c))\\k<x>1".toList .empty idle
  · rw [refused] at plain
    cases plain
  · rw [left] at plain
    rw [right] at under
    have parts : done.result = _ := Except.ok.inj plain
    have kept : done.context.slots = [none, some ['x'], none] := congrArg (·.2.slots) parts
    rw [kept] at slots
    exact ⟨done, explicit, left, right, congrArg Prod.fst parts, Except.ok.inj under, kept, slots⟩

end Explicit
end ExtendedPattern
