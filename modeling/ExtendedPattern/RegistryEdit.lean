import ExtendedPattern.Text

/-! Registries by name, and the changes that a program makes to them. Rules go by their numbers. -/
namespace ExtendedPattern

inductive RegistryName where
  | shared
  | own (number : Nat) (withBuiltins : Bool)
  deriving DecidableEq, Repr

inductive RegistryEdit where
  | enable
  | disable
  | register (rule : Nat)
  | addNames (mapping aliases : List (Text × Text))
  | installCategories
  | installScripts
  | installBlocks
  | installAll
  deriving DecidableEq, Repr

end ExtendedPattern
