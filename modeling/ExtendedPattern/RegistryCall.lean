import ExtendedPattern.Registry

/-! Calls on a registry, each as one change. -/
namespace ExtendedPattern
namespace UnicodeNames

structure Package where
  mapping : List (Text × Text)
  aliases : List (Text × Text) := []

end UnicodeNames

namespace Registry
open UnicodeNames (Package)

inductive Call where
  | enable
  | disable
  | register (rule : TokenRule)
  | addNames (p : Package)
  | installCategories
  | installScripts
  | installBlocks
  | installAll

def addPackage (p : Package) (r : Registry) : Change := r.addUnicodeNames p.mapping p.aliases

def Call.change : Call → Registry → Change
  | enable, r => .ok r.enable
  | disable, r => .ok r.disable
  | register rule, r => r.register rule
  | addNames p, r => r.addPackage p
  | installCategories, r => r.installCategories
  | installScripts, r => r.installScripts
  | installBlocks, r => r.installBlocks
  | installAll, r => r.installAll

end Registry

namespace RegistryEdit

def call (rules : Nat → TokenRule) : RegistryEdit → Registry.Call
  | enable => .enable
  | disable => .disable
  | register rule => .register (rules rule)
  | addNames mapping aliases => .addNames ⟨mapping, aliases⟩
  | installCategories => .installCategories
  | installScripts => .installScripts
  | installBlocks => .installBlocks
  | installAll => .installAll

end RegistryEdit
end ExtendedPattern
