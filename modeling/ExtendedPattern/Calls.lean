import ExtendedPattern.Balanced
import ExtendedPattern.Chain
import ExtendedPattern.RegistryCall

/-! Programs that call the library, at the top level or while token rules run, and token rules whose
handlers and triggers are such programs. A registry is what the changes so far have made of it. -/
namespace ExtendedPattern

def RegistryName.initial : RegistryName → Registry
  | shared => .global
  | own _ withBuiltins => if withBuiltins then .builtins else .empty

def Registry.edited (rules : Nat → TokenRule) (name : RegistryName) : List (RegistryName × RegistryEdit) → Registry
  | [] => name.initial
  | (other, e) :: earlier =>
    let r := edited rules name earlier
    if other = name then
      match (e.call rules).change r with
      | .ok (r, _) => r
      | .error _ => r
    else r

structure RegistryView where
  size : Nat
  enabled : Bool
  knows : Text → Bool

inductive Request : Type → Type where
  | compile (source : Text) (flags : FlagSet) (name : RegistryName) : Request Compilation
  | withLimits (source : Text) (flags : FlagSet) (name : RegistryName) (limits : Engine.Limits) : Request Pattern
  | withFlags (source letters : Text) : Request Pattern
  | cached (source letters : Text) : Request Pattern
  | matchBalanced (subject left right letters : Text) (options : BalancedOptions) : Request BalancedResult
  | matchChain (subject : Text) (links : List ChainLink) : Request (List Text)
  | edit (name : RegistryName) (e : RegistryEdit) : Request Unit
  | view (name : RegistryName) : Request RegistryView
  | report (events : List Event) : Request Unit

namespace Session

def registry (rules : Nat → TokenRule) (s : Session) (name : RegistryName) : Registry :=
  .edited rules name s.edits

def unicodeRule (rules : Nat → TokenRule) (name : RegistryName) : TokenRule :=
  { UnicodeNames.rule .empty with
    handle := fun m region context s => (s.registry rules name).names.handle m region context s }

def ruleset (rules : Nat → TokenRule) (s : Session) (name : RegistryName) : List TokenRule :=
  (s.registry rules name).registrations.reverse.map fun
    | .rule rule => rule
    | .unicodeNames => unicodeRule rules name

end Session

namespace Request

def builder (rules : Nat → TokenRule) (name : RegistryName) (limits : Engine.Limits) : Pattern.Builder :=
  fun source flags s => Pattern.withRules (s.ruleset rules name) source flags limits s

def change (rules : Nat → TokenRule) (name : RegistryName) (e : RegistryEdit) : Action Unit := fun s =>
  match (e.call rules).change (s.registry rules name) with
  | .ok (_, events) => (.ok (), { s with edits := (name, e) :: s.edits, events := events.reverse ++ s.events })
  | .error e => (.error e, s)

def look (rules : Nat → TokenRule) (name : RegistryName) : Action RegistryView := fun s =>
  let r := s.registry rules name
  (.ok ⟨r.size, r.enabled, r.hasUnicodeName⟩, s)

def run (rules : Nat → TokenRule) : {α : Type} → Request α → Action α
  | _, compile source flags name => fun s => rewrite (s.ruleset rules name) source flags s
  | _, withLimits source flags name limits => builder rules name limits source flags
  | _, withFlags source letters => Pattern.withFlagsBy (builder rules .shared {}) source letters
  | _, cached source letters => Pattern.cachedBy (builder rules .shared {}) source letters
  | _, matchBalanced subject left right letters options =>
    matchBalancedBy (builder rules .shared {}) subject left right letters options
  | _, matchChain subject links => ExtendedPattern.matchChain subject links
  | _, edit name e => change rules name e
  | _, view name => look rules name
  | _, report events => .reporting (.ok ()) events

end Request

/-- A program: what it does next may hang on every outcome so far, failures included. -/
inductive Calls (α : Type) : Type 1 where
  | done (result : Except Failure α)
  | ask {β : Type} (request : Request β) (next : Except Failure β → Calls α)

def Calls.perform {α : Type} (answer : {β : Type} → Request β → Action β) : Calls α → Action α
  | done result => .ofExcept result
  | ask request next => fun s =>
    let (result, s) := answer request s
    (next result).perform answer s

def Calls.run {α : Type} (rules : Nat → TokenRule) (program : Calls α) : Action α :=
  program.perform (Request.run rules)

structure CallingRule where
  pattern : Text
  find : Finder
  handler : TokenMatch → Region → Context → Calls (Text × Context)
  regions : RegionSet := .outsideOnly
  trigger : Option (Context → Calls Bool) := none

namespace CallingRule

def decision (result : Except Failure Bool) : Bool := result.toOption.getD false

def rule (answer : {β : Type} → Request β → Action β) (c : CallingRule) : TokenRule where
  pattern := c.pattern
  find := c.find
  handle m region context := (c.handler m region context).perform answer
  regions := c.regions
  trigger := c.trigger.map fun program context s =>
    let (result, s) := (program context).perform answer s
    (decision result, s)

end CallingRule

structure TokenRule.ActsAs (one other : TokenRule) : Prop where
  pattern : one.pattern = other.pattern
  find : one.find = other.find
  applies : ∀ region context s, s.inRules = true → one.applies region context s = other.applies region context s
  handle : ∀ m region context s, s.inRules = true → one.handle m region context s = other.handle m region context s

/-- The rules that registries know by number. Each acts as its programs do, whose calls are made in
registries of the same rules. -/
structure RuleBook where
  program : Nat → CallingRule
  rule : Nat → TokenRule
  follows : ∀ n, (rule n).ActsAs ((program n).rule (Request.run rule))

end ExtendedPattern
