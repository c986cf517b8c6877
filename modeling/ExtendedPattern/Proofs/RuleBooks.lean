import ExtendedPattern.Proofs.LibraryCalls

/-! There are rules for all programs. A change of a registry looks at nothing of a rule but its pattern,
so what a call comes to while token rules run does not hang on what the rules do. -/
namespace ExtendedPattern

def TokenRule.face (rule : TokenRule) : TokenRule where
  pattern := rule.pattern
  find _ _ := .ok none
  handle _ _ context := .ok ([], context)

namespace Registry

def face (r : Registry) : Registry :=
  { r with registrations := r.registrations.map fun
    | .rule rule => .rule rule.face
    | .unicodeNames => .unicodeNames }

def Change.face (change : Change) : Change := change.map fun (r, events) => (r.face, events)

theorem enableFace (r : Registry) : Change.face (.ok r.enable) = .ok r.face.enable := rfl

theorem disableFace (r : Registry) : Change.face (.ok r.disable) = .ok r.face.disable := rfl

theorem registerFace (r : Registry) (rule : TokenRule) :
    Change.face (r.register rule) = r.face.register rule.face := by
  obtain ⟨registrations, enabled, names, hasRule⟩ := r
  cases enabled <;> simp [register, Change.face, Except.map, face, append, TokenRule.face]

theorem namesFace (r : Registry) (mapping aliases : List (Text × Text)) :
    Change.face (r.addUnicodeNames mapping aliases) = r.face.addUnicodeNames mapping aliases := by
  obtain ⟨registrations, enabled, names, hasRule⟩ := r
  cases enabled with
  | false => rfl
  | true =>
    simp only [addUnicodeNames, face, if_true]
    cases names.add mapping aliases with
    | error e => rfl
    | ok added =>
      cases hasRule <;> simp [bind, Except.bind, addUnicodeRule, append, Change.face, Except.map, face]

theorem bindFace {change change' : Change} {next next' : Registry × List Event → Change}
    (same : change.face = change') (continues : ∀ r events, (next (r, events)).face = next' (r.face, events)) :
    Change.face (change >>= next) = change' >>= next' := by
  subst same
  cases change with
  | error e => rfl
  | ok done => exact continues done.1 done.2

theorem whileEnabledFace {change change' : Registry → Change} (same : ∀ r, (change r).face = change' r.face)
    (r : Registry) : (r.whileEnabled change).face = r.face.whileEnabled change' := by
  have enabled : r.face.enabled = r.enabled := rfl
  unfold whileEnabled
  rw [enabled]
  split
  · exact same r
  · exact bindFace (same _) fun r events => rfl

theorem installFace (r : Registry) (mapping aliases : List (Text × Text)) :
    Change.face (r.whileEnabled fun r => r.addUnicodeNames mapping aliases) =
      r.face.whileEnabled fun r => r.addUnicodeNames mapping aliases :=
  whileEnabledFace (fun r => namesFace r mapping aliases) r

theorem categoriesFace (r : Registry) : Change.face r.installCategories = r.face.installCategories := by
  unfold installCategories
  exact installFace r _ _

theorem scriptsFace (r : Registry) : Change.face r.installScripts = r.face.installScripts := by
  unfold installScripts
  exact installFace r _ _

theorem blocksFace (r : Registry) : Change.face r.installBlocks = r.face.installBlocks := by
  unfold installBlocks
  exact installFace r _ _

theorem allFace (r : Registry) : Change.face r.installAll = r.face.installAll := by
  unfold installAll
  refine bindFace (categoriesFace r) fun r first => ?_
  refine bindFace (scriptsFace r) fun r second => ?_
  exact bindFace (blocksFace r) fun r third => rfl

theorem callFace (e : RegistryEdit) (rules : Nat → TokenRule) (r : Registry) :
    ((e.call rules).change r).face = (e.call fun n => (rules n).face).change r.face := by
  cases e with
  | enable => exact enableFace r
  | disable => exact disableFace r
  | register n => exact registerFace r (rules n)
  | addNames mapping aliases => exact namesFace r mapping aliases
  | installCategories => exact categoriesFace r
  | installScripts => exact scriptsFace r
  | installBlocks => exact blocksFace r
  | installAll => exact allFace r

variable {rules rules' : Nat → TokenRule}

theorem editedFace (same : ∀ n, (rules n).face = (rules' n).face) (name : RegistryName) (edits : Edits) :
    (edited rules name edits).face = (edited rules' name edits).face := by
  induction edits with
  | nil => rfl
  | cons first earlier ih =>
    obtain ⟨other, e⟩ := first
    simp only [edited]
    split
    · have changed := callFace e rules (edited rules name earlier)
      rw [ih, funext same, ← callFace e rules'] at changed
      cases left : (e.call rules).change (edited rules name earlier) <;>
        cases right : (e.call rules').change (edited rules' name earlier) <;>
        simp_all [Change.face, Except.map]
    · exact ih

end Registry

namespace Request
variable {rules rules' : Nat → TokenRule}

theorem changeSame (same : ∀ n, (rules n).face = (rules' n).face) (name : RegistryName) (e : RegistryEdit) :
    change rules name e = change rules' name e := by
  funext s
  have changed := Registry.callFace e rules (s.registry rules name)
  rw [Session.registry, Registry.editedFace same, funext same, ← Registry.callFace e rules'] at changed
  unfold change Session.registry
  cases left : (e.call rules).change (.edited rules name s.edits) <;>
    cases right : (e.call rules').change (.edited rules' name s.edits) <;>
    simp_all [Registry.Change.face, Except.map]

theorem lookSame (same : ∀ n, (rules n).face = (rules' n).face) (name : RegistryName) :
    look rules name = look rules' name := by
  funext s
  have faces := Registry.editedFace same name s.edits
  simp only [Registry.face, Registry.mk.injEq] at faces
  obtain ⟨registrations, enabled, names, _⟩ := faces
  have size : (s.registry rules name).size = (s.registry rules' name).size := by
    change (Registry.edited rules name s.edits).registrations.length =
      (Registry.edited rules' name s.edits).registrations.length
    simpa using congrArg List.length registrations
  have knows : (s.registry rules name).hasUnicodeName = (s.registry rules' name).hasUnicodeName := by
    funext n
    exact congrArg (·.contains n) names
  have takes : (s.registry rules name).enabled = (s.registry rules' name).enabled := enabled
  simp only [look, size, knows, takes]

theorem insideSame {α : Type} (same : ∀ n, (rules n).face = (rules' n).face) (request : Request α) :
    request.inside rules = request.inside rules' := by
  cases request with
  | edit name e => exact changeSame same name e
  | view name => exact lookSame same name
  | _ => rfl

end Request

namespace Calls

theorem performSame {α : Type} {rules rules' : Nat → TokenRule} (same : ∀ n, (rules n).face = (rules' n).face)
    (program : Calls α) {s : Session} (running : s.inRules = true) :
    program.perform (Request.inside rules) s = program.run rules' s := by
  induction program generalizing s with
  | done result => rfl
  | ask request next ih =>
    have holds : Bond.Holds (.Parallel s.cache s.cache s.edits) true s s :=
      ⟨running, running, rfl, rfl, rfl, List.suffix_refl _⟩
    have kept := (Bond.insideAgrees rules' request (fun _ _ => rfl) s s holds).2.left
    have came : request.inside rules s = request.run rules' s := by
      rw [Request.insideSame same, ← request.runsInside running]
    simp only [perform, run, came]
    exact ih _ kept

end Calls

namespace CallingRule
variable {rules rules' : Nat → TokenRule}

def face (c : CallingRule) : TokenRule := (c.rule fun _ => .fail .endless).face

theorem ruleSame (same : ∀ n, (rules n).face = (rules' n).face) (c : CallingRule) :
    (c.rule (Request.inside rules)).ActsAs (c.rule (Request.run rules')) where
  pattern := rfl
  find := rfl
  applies region context s running := by
    unfold TokenRule.applies rule
    cases c.regions.has region with
    | false => rfl
    | true =>
      cases c.trigger with
      | none => rfl
      | some program =>
        have same := (program context).performSame same running
        simp only [if_true, Option.map_some, same]
        rfl
  handle m region context s running := (c.handler m region context).performSame same running

end CallingRule

def RuleBook.ofPrograms (program : Nat → CallingRule) : RuleBook where
  program := program
  rule n := (program n).rule (Request.inside fun n => (program n).face)
  follows n := (program n).ruleSame fun n => by rfl

end ExtendedPattern
