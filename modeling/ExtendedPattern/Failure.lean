import ExtendedPattern.Quoted

/-! Why compiling, matching or replacing stops. -/
namespace ExtendedPattern

inductive Index where
  | group (number : Nat)
  | slice (text : Text) (span : Span)
  | endOfMatches
  deriving DecidableEq, Repr

inductive Failure where
  | malformedToken (token : Text)
  | unsupportedUnicodeToken (token : Text)
  | invalidCaptureName (name : Text)
  | extensibilityDisabled
  | reentrantCompilation
  | unbalancedDelimiter
  | escapeConfiguration (reason : Text)
  | unknownFlag (letter : Char)
  | flagConflict (reason : Text)
  | nativeRefusal
  | backtrackLimit
  | absentIndex (index : Index)
  | absentName (name : Text)
  deriving DecidableEq, Repr

abbrev Failure.endless : Failure := .absentIndex .endOfMatches

/-- The failures of the engine and those of slicing have no wording here. -/
def Failure.message? : Failure → Option Text
  | malformedToken token => some ("erroneous characters: ".toList ++ token)
  | unsupportedUnicodeToken token => some ("invalid or unsupported Unicode item: ".toList ++ token)
  | invalidCaptureName name => some ("cannot use an integer as capture name: ".toList ++ name)
  | extensibilityDisabled => some "extensibility must be enabled before registering tokens".toList
  | reentrantCompilation =>
    some "cannot compile a pattern from within a token handler or trigger".toList
  | unbalancedDelimiter => some "string contains unbalanced delimiters".toList
  | escapeConfiguration reason => some reason
  | unknownFlag letter => some ("unknown regex flag: ".toList ++ Quoted.ofChar letter)
  | flagConflict reason => some ("conflicting flags: ".toList ++ reason)
  | nativeRefusal | backtrackLimit => none
  | absentIndex (.group number) =>
    some ("no group at index '".toList ++ Text.decimal number ++ ['\x27'])
  | absentIndex _ => none
  | absentName name => some ("no group named '".toList ++ name ++ ['\x27'])

abbrev Text.noneBetween (t : Text) (span : Span) : Failure := .absentIndex (.slice t span)

def Text.between (t : Text) (span : Span) : Except Failure Text :=
  if span.start ≤ span.stop then .ok (t.slice span) else .error (t.noneBetween span)

theorem Text.betweenOrdered {t : Text} {n m : Nat} (order : n ≤ m) : t.between ⟨n, m⟩ = .ok (t.slice ⟨n, m⟩) := if_pos order

theorem Text.betweenReversed {t : Text} {n m : Nat} (reversed : m < n) : t.between ⟨n, m⟩ = .error (t.noneBetween ⟨n, m⟩) :=
  if_neg (Nat.not_le.mpr reversed)

theorem okOfToOption {ε α : Type} {e : Except ε α} {a : α} (some : e.toOption = some a) : e = .ok a := by
  cases e with
  | ok b => exact congrArg Except.ok (Option.some.inj some)
  | error f => contradiction

theorem okOfSome {α : Type} {e : Except Failure α} (some : e.toOption.isSome) : ∃ a, e = .ok a := by
  cases e with
  | ok a => exact ⟨a, rfl⟩
  | error f => contradiction

theorem okOfMap {ε α β : Type} {e : Except ε α} {f : α → β} {b : β} (some : e.toOption.map f = some b) :
    ∃ a, e = .ok a ∧ f a = b := by
  cases e with
  | ok a => exact ⟨a, rfl, Option.some.inj some⟩
  | error e => contradiction

section
variable {ε α β : Type} {e : Except ε α}

theorem bindOk {f : α → Except ε β} {b : β} (ok : e.bind f = .ok b) : ∃ a, e = .ok a ∧ f a = .ok b := by
  cases e with
  | ok a => exact ⟨a, rfl, ok⟩
  | error e => cases ok

theorem mapOk {f : α → β} {b : β} (ok : e.map f = .ok b) : ∃ a, e = .ok a ∧ f a = b := by
  cases e with
  | ok a => exact ⟨a, rfl, Except.ok.inj ok⟩
  | error e => cases ok

theorem mapFails {f : α → β} {failure : ε} (failed : e.map f = .error failure) : e = .error failure := by
  cases e with
  | ok a => cases failed
  | error e => exact congrArg Except.error (Except.error.inj failed)

end

end ExtendedPattern
