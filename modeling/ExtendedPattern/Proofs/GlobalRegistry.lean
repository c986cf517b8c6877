import ExtendedPattern.Registry

/-! The registry that every program starts with. All bundled data can be read, row by row, so
the global registry holds the built-in rules and, ahead of them, the rule for Unicode tokens. -/
namespace ExtendedPattern

namespace CodePointSet

theorem dashUnread (t : Text) : items? ('-' :: t) = none := by
  have field (b c d : Char) : field? '-' b c d = none := rfl
  unfold items?
  split
  · rename_i same
    cases same
    simp [field]
  · rename_i same
    cases same
    simp [field]
  · rename_i same
    cases same
  · rfl

theorem itemsAppend {front back : Text} (readFront : (items? front).isSome)
    (readBack : (items? back).isSome) : (items? (front ++ back)).isSome := by
  fun_induction items? front with
  | case1 a b c d e f g h rest ih =>
    simp only [Option.isSome_iff_exists, bind, Option.bind_eq_some_iff] at readFront
    obtain ⟨_, first, one, last, two, readFront⟩ := readFront
    split at readFront <;> try contradiction
    rename_i order
    obtain ⟨more, read, _⟩ := Option.bind_eq_some_iff.mp readFront
    obtain ⟨all, joined⟩ := Option.isSome_iff_exists.mp (ih (by simp [read]))
    simp [items?, one, two, order, joined]
  | case2 a b c d rest single ih =>
    simp only [Option.isSome_iff_exists, bind, Option.bind_eq_some_iff] at readFront
    obtain ⟨_, one, field, more, read, _⟩ := readFront
    obtain ⟨all, joined⟩ := Option.isSome_iff_exists.mp (ih (by simp [read]))
    have apart : ∀ t, rest ++ back ≠ '-' :: t := by
      intro t same
      cases rest with
      | nil => simp [show back = '-' :: t from same, dashUnread] at readBack
      | cons first others =>
        cases same
        simp [dashUnread] at read
    rw [List.cons_append, List.cons_append, List.cons_append, List.cons_append, items?]
    · simp [field, joined]
    · intro e f g h t same
      exact apart _ same
  | case3 => exact readBack
  | case4 => contradiction

def ReadableRow (row : String) : Prop := ∃ cs, row = String.ofList cs ∧ (items? cs).isSome

theorem rowsReadable {rows : List String} (readable : ∀ row ∈ rows, ReadableRow row) :
    (items? (rows.flatMap String.toList)).isSome := by
  induction rows with
  | nil => rfl
  | cons row rest ih =>
    obtain ⟨⟨cs, rfl, read⟩, others⟩ := List.forall_mem_cons.mp readable
    rw [List.flatMap_cons, String.toList_ofList]
    exact itemsAppend read (ih others)

end CodePointSet

namespace Unicode
open CodePointSet (ReadableRow)

def DataTable.Readable (table : DataTable) : Prop := ∀ entry ∈ table, ∀ row ∈ entry.2, ReadableRow row

theorem bundledReadable :
    DataTable.Readable categories ∧ DataTable.Readable scripts ∧ DataTable.Readable blocks := by
  simp only [DataTable.Readable, categories, scripts, blocks, List.forall_mem_cons, List.not_mem_nil,
    false_implies, implies_true, and_true]
  repeat' apply And.intro
  all_goals exact ⟨_, rfl, by decide +kernel⟩

end Unicode

theorem UnicodeNames.mappingParses {table : Unicode.DataTable} (readable : table.Readable) :
    ∃ parsed, parseMapping table.texts = .ok parsed := by
  induction table with
  | nil => exact ⟨[], rfl⟩
  | cons entry rest ih =>
    obtain ⟨head, tail⟩ := List.forall_mem_cons.mp readable
    obtain ⟨rs, items⟩ := Option.isSome_iff_exists.mp (CodePointSet.rowsReadable head)
    obtain ⟨more, parsed⟩ := ih tail
    have set : CodePointSet.parse (entry.2.flatMap String.toList) = .ok (.ofRanges rs) := by
      simp [CodePointSet.parse, items]
    refine ⟨(entry.1.toList, .ofRanges rs) :: more, ?_⟩
    change parseMapping ((entry.1.toList, entry.2.flatMap String.toList) :: Unicode.DataTable.texts rest) = _
    simp [parseMapping, set, parsed, bind, Except.bind]

namespace Registry

structure Gained (r installed : Registry) : Prop where
  disabled : installed.enabled = false
  hasRule : installed.hasUnicodeRule = true
  registrations : installed.registrations =
    r.registrations ++ (if r.hasUnicodeRule then [] else [.unicodeNames])

theorem packageInstalls {r : Registry} {mapping : List (Text × Text)}
    {parsed : List (Text × CodePointSet)} (closed : r.enabled = false)
    (parses : UnicodeNames.parseMapping mapping = .ok parsed) (aliases : List (Text × Text)) :
    ∃ installed events, r.whileEnabled (fun r => r.addUnicodeNames mapping aliases) =
      .ok (installed, events) ∧ r.Gained installed := by
  obtain ⟨registrations, enabled, names, hasRule⟩ := r
  cases closed
  simp only [whileEnabled, enable, addUnicodeNames, UnicodeNames.add, parses, addUnicodeRule,
    bind, Except.bind, if_true]
  cases hasRule <;> exact ⟨_, _, rfl, rfl, rfl, by simp [disable, append]⟩

theorem allInstall : ∃ installed events, builtins.installAll = .ok (installed, events) ∧
    installed.registrations = builtins.registrations ++ [.unicodeNames] := by
  obtain ⟨readCategories, readScripts, readBlocks⟩ := Unicode.bundledReadable
  obtain ⟨_, categories⟩ := UnicodeNames.mappingParses readCategories
  obtain ⟨_, scripts⟩ := UnicodeNames.mappingParses readScripts
  obtain ⟨_, blocks⟩ := UnicodeNames.mappingParses readBlocks
  have fresh : builtins.enabled = false ∧ builtins.hasUnicodeRule = false := ⟨rfl, rfl⟩
  generalize builtins = r at fresh ⊢
  have first : ∃ a e, r.installCategories = .ok (a, e) ∧ r.Gained a :=
    packageInstalls fresh.1 categories _
  obtain ⟨a, e₁, first, gainA⟩ := first
  have second : ∃ b e, a.installScripts = .ok (b, e) ∧ a.Gained b :=
    packageInstalls gainA.disabled scripts _
  obtain ⟨b, e₂, second, gainB⟩ := second
  have third : ∃ c e, b.installBlocks = .ok (c, e) ∧ b.Gained c :=
    packageInstalls gainB.disabled blocks _
  obtain ⟨c, e₃, third, gainC⟩ := third
  have chain : r.installAll = .ok (c, e₁ ++ e₂ ++ e₃) := by
    rw [installAll, first]
    simp only [bind, Except.bind]
    rw [second]
    simp only
    rw [third]
  refine ⟨c, _, chain, ?_⟩
  rw [gainC.registrations, gainB.registrations, gainA.registrations, gainA.hasRule, gainB.hasRule, fresh.2]
  simp

theorem globalRegistrations : global.registrations = builtins.registrations ++ [.unicodeNames] := by
  obtain ⟨installed, events, all, registrations⟩ := allInstall
  rw [← registrations, global, all, orEmpty]

theorem builtinRegistrations : builtins.registrations = BuiltinRules.all.map .rule := rfl

theorem builtinRules : builtins.rules = BuiltinRules.all.reverse := rfl

theorem globalRules : global.rules = global.names.rule :: BuiltinRules.all.reverse := by
  simp [rules, globalRegistrations, builtinRegistrations, Function.comp_def]

end Registry
end ExtendedPattern
