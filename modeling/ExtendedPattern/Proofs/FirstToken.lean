import ExtendedPattern.Proofs.StandardRules

/-! Which rule comes first at each kind of text. Where none of the built-in rules has a token,
the names of Unicode sets do not matter either. -/
namespace ExtendedPattern

namespace BuiltinRules
variable {d : Char} {rest : Text}

theorem plainOpenerElsewhere (other : d ≠ '(') : plainOpener (d :: rest) = none := by
  unfold plainOpener; split <;> simp_all

theorem namedOpenerElsewhere (other : d ≠ '(') : namedOpener (d :: rest) = none := by
  unfold namedOpener; split <;> simp_all

theorem commentElsewhere (other : d ≠ '(') : comment (d :: rest) = none := by
  unfold comment; split <;> simp_all

theorem leadingModesElsewhere (other : d ≠ '(') (offset : Nat) : leadingModes offset (d :: rest) = none := by
  unfold leadingModes; split <;> simp_all

theorem dotElsewhere (other : d ≠ '.') : dot (d :: rest) = none := by
  unfold dot; split <;> simp_all

theorem emptyClassElsewhere (other : d ≠ '[') : emptyClass (d :: rest) = none := by
  unfold emptyClass; split <;> simp_all

theorem referenceElsewhere (other : d ≠ '\\') : reference (d :: rest) = none := by
  unfold reference; split <;> simp_all

theorem unicodeTokenElsewhere (other : d ≠ '\\') : unicodeToken (d :: rest) = none := by
  unfold unicodeToken; split <;> simp_all

theorem blankElsewhere (solid : Unicode.isSpace d = false) (other : d ≠ '#') : blank (d :: rest) = none := by
  simp [blank, blankSize, solid, other]

end BuiltinRules

theorem UnicodeNames.tokenElsewhere {d : Char} {rest : Text} (other : d ≠ '\\') :
    UnicodeNames.token (d :: rest) = none := by
  unfold UnicodeNames.token; split <;> simp_all

namespace LocalRule
open BuiltinRules
variable {locals : List LocalRule} {r : Registry} {context : Context} {offset : Nat}

theorem firstBuiltin (standard : r.Standard locals) (region : Region) (context : Context) (offset : Nat)
    {t : Text} (unread : UnicodeNames.token t = none) :
    first? locals region context offset t = first? builtins region context offset t := by
  cases standard with
  | builtins => rfl
  | global => simp [first?, unicode, always, sees?, unread]

structure Unread (context : Context) (offset : Nat) (t : Text) : Prop where
  plainOpener : plainOpener t = none := by rfl
  namedOpener : namedOpener t = none := by rfl
  dot : context.has .dotAll → dot t = none := by intros; rfl
  blank : context.has .extended → blank t = none := by intros; rfl
  reference : reference t = none := by rfl
  leadingModes : leadingModes offset t = none := by rfl
  comment : comment t = none := by rfl
  emptyClass : emptyClass t = none := by rfl
  unicodeToken : unicodeToken t = none := by rfl
  unicodeName : UnicodeNames.token t = none := by rfl

theorem firstUnread (standard : r.Standard locals) (region : Region) {t : Text}
    (unread : Unread context offset t) : first? locals region context offset t = none := by
  rw [firstBuiltin standard _ _ _ unread.unicodeName]
  simp only [first?, builtins, plainGroup, always, underFlag, sees?, List.findSome?_eq_none_iff,
    List.forall_mem_cons, Option.map_eq_none_iff, unread.plainOpener, unread.namedOpener,
    unread.reference, unread.leadingModes, unread.comment, unread.emptyClass, unread.unicodeToken,
    Bool.and_eq_true, ite_eq_right_iff, and_imp, true_and, List.not_mem_nil,
    false_implies, implies_true, and_true]
  exact ⟨fun _ => unread.dot, fun _ => unread.blank⟩

theorem unreadElsewhere {d : Char} {rest : Text} (ordinary : d ∉ ['(', '\\', '[', '.'])
    (solid : Unicode.isSpace d = false) (sign : d ≠ '#') : Unread context offset (d :: rest) := by
  simp only [List.mem_cons, List.not_mem_nil, or_false, not_or] at ordinary
  obtain ⟨paren, backslash, bracket, point⟩ := ordinary
  exact {
    plainOpener := plainOpenerElsewhere paren
    namedOpener := namedOpenerElsewhere paren
    dot := fun _ => dotElsewhere point
    blank := fun _ => blankElsewhere solid sign
    reference := referenceElsewhere backslash
    leadingModes := leadingModesElsewhere paren offset
    comment := commentElsewhere paren
    emptyClass := emptyClassElsewhere bracket
    unicodeToken := unicodeTokenElsewhere backslash
    unicodeName := UnicodeNames.tokenElsewhere backslash }

theorem unreadNativeOpener {rest : Text} {length : Nat}
    (known : NativeToken.openerLength? rest = some length) : Unread context offset ('(' :: rest) := by
  unfold NativeToken.openerLength? at known
  split at known <;> try contradiction
  all_goals exact { leadingModes := by simp [BuiltinRules.leadingModes, isModeLetter] }

theorem escapeUnnamed {c : Char} {rest : Text} (plain : c = 'p' ∨ c = 'P' → rest.head? ≠ some '\x7b') :
    unicodeToken ('\\' :: c :: rest) = none ∧ UnicodeNames.token ('\\' :: c :: rest) = none := by
  constructor
  · unfold unicodeToken; split <;> simp_all
  · unfold UnicodeNames.token; split <;> simp_all

theorem unreadEscape {c : Char} {rest : Text} (other : c ∉ ['k', 'p', 'P']) :
    Unread context offset ('\\' :: c :: rest) := by
  simp only [List.mem_cons, List.not_mem_nil, or_false, not_or] at other
  have noReference : reference ('\\' :: c :: rest) = none := by
    unfold reference; split <;> simp_all
  obtain ⟨noToken, noName⟩ := @escapeUnnamed c rest fun named => absurd named (not_or.mpr other.2)
  exact { reference := noReference, unicodeToken := noToken, unicodeName := noName }

theorem firstUnnamed (standard : r.Standard locals) {t : Text} (token : unicodeToken t = none) (name : UnicodeNames.token t = none) :
    first? locals .inside context offset t = none := by
  rw [firstBuiltin standard _ _ _ name]
  have unseen : ∀ l ∈ builtins, l.sees? .inside context offset t = none := by
    simp only [builtins, List.forall_mem_cons]
    exact ⟨rfl, rfl, rfl, rfl, rfl, rfl, rfl, rfl, token, by simp⟩
  simpa [first?] using unseen

theorem firstInside (standard : r.Standard locals) {c : Char} {rest : Text} (plain : c ≠ '\\') :
    first? locals .inside context offset (c :: rest) = none :=
  firstUnnamed standard (unicodeTokenElsewhere plain) (UnicodeNames.tokenElsewhere plain)

theorem firstHere {l : LocalRule} {others : List LocalRule} {region : Region} {t : Text}
    {groups : Groups} (part : l.takesPart region context) (seen : l.recognize offset t = some groups) :
    first? (l :: others) region context offset t = some (l, groups) := by
  simp [first?, sees?, part, seen]

theorem firstLater {l : LocalRule} {others : List LocalRule} {region : Region} {t : Text}
    (unseen : l.recognize offset t = none) :
    first? (l :: others) region context offset t = first? others region context offset t := by
  simp [first?, sees?, unseen]

theorem firstPlainOpener (standard : r.Standard locals) {rest : Text} (plain : rest.head? ≠ some '?') :
    ∃ l, first? locals .outside context offset ('(' :: rest) = some (l, BuiltinRules.token 1) ∧
      l.rule = plainOpenerRule := by
  rw [firstBuiltin standard _ _ _ (UnicodeNames.tokenElsewhere (by decide))]
  have seen : plainOpener ('(' :: rest) = some (BuiltinRules.token 1) := by
    unfold plainOpener; split <;> simp_all
  exact ⟨_, firstHere rfl seen, rfl⟩

theorem firstNamedOpener (standard : r.Standard locals) {rest : Text} {groups : Groups}
    (seen : namedOpener ('(' :: '?' :: rest) = some groups) :
    ∃ l, first? locals .outside context offset ('(' :: '?' :: rest) = some (l, groups) ∧
      l.rule = namedOpenerRule := by
  rw [firstBuiltin standard _ _ _ (UnicodeNames.tokenElsewhere (by decide))]
  exact ⟨_, (firstLater rfl).trans (firstHere rfl seen), rfl⟩

theorem firstDot (standard : r.Standard locals) {rest : Text} (on : context.has .dotAll) :
    ∃ l, first? locals .outside context offset ('.' :: rest) = some (l, BuiltinRules.token 1) ∧
      l.rule = dotRule := by
  rw [firstBuiltin standard _ _ _ (UnicodeNames.tokenElsewhere (by decide))]
  have part : (dotRule.regions.has .outside && context.has .dotAll) = true := on
  exact ⟨_, (firstLater rfl).trans ((firstLater rfl).trans (firstHere part rfl)), rfl⟩

theorem firstReference (standard : r.Standard locals) {rest : Text} {groups : Groups}
    (seen : reference ('\\' :: 'k' :: rest) = some groups) :
    ∃ l, first? locals .outside context offset ('\\' :: 'k' :: rest) = some (l, groups) ∧
      l.rule = referenceRule := by
  have unread : UnicodeNames.token ('\\' :: 'k' :: rest) = none := by
    unfold UnicodeNames.token
    split
    · rename_i same
      cases same
      exact if_neg (by decide)
    · rfl
  rw [firstBuiltin standard _ _ _ unread]
  exact ⟨_, (firstLater rfl).trans ((firstLater rfl).trans ((firstLater rfl).trans
    ((firstLater rfl).trans (firstHere rfl seen)))), rfl⟩

theorem firstLeadingModes (standard : r.Standard locals) {c : Char} {rest : Text} {groups : Groups}
    (letter : isModeLetter c) (seen : leadingModes offset ('(' :: '?' :: c :: rest) = some groups) :
    ∃ l, first? locals .outside context offset ('(' :: '?' :: c :: rest) = some (l, groups) ∧
      l.rule = leadingModesRule := by
  have noName : namedOpener ('(' :: '?' :: c :: rest) = none := by
    unfold namedOpener
    split
    · rename_i same
      cases same
      contradiction
    · rfl
  rw [firstBuiltin standard _ _ _ (UnicodeNames.tokenElsewhere (by decide))]
  exact ⟨_, (firstLater rfl).trans ((firstLater noName).trans ((firstLater rfl).trans
    ((firstLater rfl).trans ((firstLater rfl).trans (firstHere rfl seen))))), rfl⟩

theorem firstComment (standard : r.Standard locals) {rest : Text} {groups : Groups}
    (seen : comment ('(' :: '?' :: '#' :: rest) = some groups) :
    ∃ l, first? locals .outside context offset ('(' :: '?' :: '#' :: rest) = some (l, groups) ∧
      l.rule = commentRule := by
  rw [firstBuiltin standard _ _ _ (UnicodeNames.tokenElsewhere (by decide))]
  have noModes : leadingModes offset ('(' :: '?' :: '#' :: rest) = none := by
    simp [leadingModes, isModeLetter]
  exact ⟨_, (firstLater rfl).trans ((firstLater rfl).trans ((firstLater rfl).trans
    ((firstLater rfl).trans ((firstLater rfl).trans ((firstLater noModes).trans
      (firstHere rfl seen)))))), rfl⟩

theorem firstEmptyClass (standard : r.Standard locals) {rest : Text} {groups : Groups}
    (seen : emptyClass ('[' :: rest) = some groups) :
    ∃ l, first? locals .outside context offset ('[' :: rest) = some (l, groups) ∧
      l.rule = emptyClassRule := by
  rw [firstBuiltin standard _ _ _ (UnicodeNames.tokenElsewhere (by decide))]
  exact ⟨_, (firstLater rfl).trans ((firstLater rfl).trans ((firstLater rfl).trans
    ((firstLater rfl).trans ((firstLater rfl).trans ((firstLater rfl).trans
      ((firstLater rfl).trans (firstHere rfl seen))))))), rfl⟩

end LocalRule
end ExtendedPattern
