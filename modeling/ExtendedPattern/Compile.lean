import ExtendedPattern.Registry

/-! Compiling patterns: rewriting by the rules of a registry, then building the native
program, with a cache by pattern and flag letters. -/
namespace ExtendedPattern

def compile (pattern : Text) (flags : FlagSet) (r : Registry) : Action Compilation :=
  rewrite r.rules pattern flags

namespace Pattern

def withRules (rules : List TokenRule) (source : Text) (flags : FlagSet) (limits : Engine.Limits) :
    Action Pattern := do
  let c ← rewrite rules source flags
  Pattern.assemble source c.native c.context.flags c.context.names limits

def withLimits (source : Text) (flags : FlagSet) (r : Registry) (limits : Engine.Limits) : Action Pattern :=
  withRules r.rules source flags limits

def withRegistry (source : Text) (flags : FlagSet) (r : Registry) : Action Pattern :=
  withLimits source flags r {}

abbrev Builder := Text → FlagSet → Action Pattern

def withFlagsBy (build : Builder) (source letters : Text) : Action Pattern := do
  let flags ← FlagSet.ofLetters letters
  build source flags

def cachedBy (build : Builder) (source letters : Text) : Action Pattern := fun s =>
  match s.cached? source letters with
  | some p => (.ok p, s)
  | none =>
    match withFlagsBy build source letters s with
    | (.ok p, s) => (.ok p, { s with cache := ((source, letters), p) :: s.cache })
    | (.error e, s) => (.error e, s)

def byGlobal : Builder := fun source flags => withRegistry source flags .global

def withFlags (source letters : Text) : Action Pattern := withFlagsBy byGlobal source letters

def ofText (source : Text) : Action Pattern := withFlags source []

def cached (source letters : Text) : Action Pattern := cachedBy byGlobal source letters

end Pattern
end ExtendedPattern
