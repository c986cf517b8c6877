import ExtendedPattern.Proofs.PairedScans

/-! The rules that come with the library: the built-in ones and those for Unicode tokens. Their handlers read a
token and whether a quantifier or a digit stands behind it, and nothing else: neither what stands before it nor
the session. -/
namespace ExtendedPattern
open Text (size)

namespace Text

theorem dropBehind (before t : Text) (n : Nat) : dropBytes (before ++ t) (size before + n) = dropBytes t n := by
  induction before with
  | nil => rw [List.nil_append, size, Nat.zero_add]
  | cons c rest ih =>
    have positive := c.utf8Size_pos
    have behind : c.utf8Size + size rest + n - c.utf8Size = size rest + n := by omega
    rw [List.cons_append, size, dropBytes, if_neg (by omega), behind, ih]

theorem sliceBehind (before t : Text) (s : Span) : slice (before ++ t) (s.shift (size before)) = slice t s := by
  have length : size before + s.stop - (size before + s.start) = s.stop - s.start := by omega
  rw [slice, slice, Span.shift, dropBehind, length]

end Text

structure TokenMatch.Alike (m m' : TokenMatch) : Prop where
  group : ∀ i, m.group? i = m'.group? i
  quantifier : NativeToken.startsWithQuantifier m.rest = NativeToken.startsWithQuantifier m'.rest
  digit : BuiltinRules.startsWithDigit m.rest = BuiltinRules.startsWithDigit m'.rest

theorem TokenMatch.Alike.text {m m' : TokenMatch} (alike : m.Alike m') : m.text = m'.text := by
  rw [TokenMatch.text, TokenMatch.text, alike.group]

namespace LocalRule

theorem groupRead (before t : Text) (groups : Groups) (i : Nat) :
    (token (before ++ t) (size before) groups).group? i = (groups[i]?).join.map t.slice := by
  rw [token, TokenMatch.group?, TokenMatch.groupSpan?, List.getElem?_map]
  cases groups[i]? with
  | none => rfl
  | some span =>
    cases span with
    | none => rfl
    | some span => exact congrArg some (Text.sliceBehind before t span)

theorem restRead {groups : Groups} {g : Span} (before t : Text) (whole : groups.head? = some (some g)) :
    (token (before ++ t) (size before) groups).rest = t.dropBytes g.stop := by
  rw [TokenMatch.rest, tokenStop whole]
  exact Text.dropBehind before t g.stop

theorem tokensAlike {groups : Groups} {g : Span} (before before' t : Text) (whole : groups.head? = some (some g)) :
    (token (before ++ t) (size before) groups).Alike (token (before' ++ t) (size before') groups) where
  group i := by rw [groupRead, groupRead]
  quantifier := by rw [restRead before t whole, restRead before' t whole]
  digit := by rw [restRead before t whole, restRead before' t whole]

def NearSighted (handle : BuiltinRules.Handler) : Prop :=
  ∀ ⦃m m' : TokenMatch⦄, m.Alike m' → ∀ region context s u,
    (handle m region context s).1 = (handle m' region context u).1

inductive Bundled : LocalRule → Prop where
  | builtin {l : LocalRule} (mem : l ∈ builtins) : Bundled l
  | unicode (names : UnicodeNames) : Bundled (unicode names)

theorem Bundled.limited {l : LocalRule} (bundled : l.Bundled) {n : Nat} (limit : l.reach = some n) : l = plainGroup := by
  cases bundled with
  | builtin mem => exact builtinLimited mem limit
  | unicode names => cases limit

open BuiltinRules

theorem constantlyNear {f : TokenMatch → Text} (near : ∀ {m m' : TokenMatch}, m.Alike m' → f m = f m') :
    NearSighted (constantly f) := by
  intro m m' alike region context s u
  exact congrArg (fun out => Except.ok (out, context)) (near alike)

theorem separatorNear {m m' : TokenMatch} (alike : m.Alike m') : separator m = separator m' := by
  rw [separator, separator, alike.quantifier]

theorem leadingModesNear : NearSighted leadingModesRule.handle := by
  intro m m' alike region context s u
  dsimp only [leadingModesRule]
  rw [alike.group]
  split <;> rfl

theorem referenceNear : NearSighted referenceRule.handle := by
  intro m m' alike region context s u
  have same : referenceText m context = referenceText m' context := by
    rw [referenceText, referenceText, alike.group, alike.digit, alike.text]
  exact congrArg (fun out => Except.ok (out, context)) same

theorem namedOpenerNear : NearSighted namedOpenerRule.handle := by
  intro m m' alike region context s u
  dsimp only [namedOpenerRule]
  rw [alike.group]
  split <;> rfl

theorem plainOpenerNear : NearSighted plainOpenerRule.handle := by
  intro m m' _ region context s u
  dsimp only [plainOpenerRule]
  split <;> rfl

theorem placeholderNear : NearSighted unicodePlaceholder.handle := by
  intro m m' alike region context s u
  exact congrArg (fun t => Except.error (Failure.unsupportedUnicodeToken t)) alike.text

theorem unicodeNear (names : UnicodeNames) : NearSighted names.handle := by
  intro m m' alike region context s u
  unfold UnicodeNames.handle
  rw [alike.group, alike.group, alike.group, alike.text]
  split
  · rfl
  · cases names.find? ((m'.group? 3).getD []) <;> rfl

theorem Bundled.near {l : LocalRule} (bundled : l.Bundled) : NearSighted l.rule.handle := by
  cases bundled with
  | unicode names => exact unicodeNear names
  | builtin mem =>
    revert l
    simp only [builtins, List.forall_mem_cons]
    refine ⟨plainOpenerNear, namedOpenerNear, constantlyNear fun _ => rfl, constantlyNear separatorNear, referenceNear,
      leadingModesNear, constantlyNear separatorNear, constantlyNear fun alike => ?_, placeholderNear, by simp⟩
    rw [alike.text]

theorem Bundled.recognizesAlike {l : LocalRule} (bundled : l.Bundled) {offset offset' : Nat} {t : Text}
    (modes : leadingModes offset t = leadingModes offset' t) : l.recognize offset t = l.recognize offset' t := by
  cases bundled with
  | unicode names => rfl
  | builtin mem =>
    revert l
    simp only [builtins, List.forall_mem_cons]
    exact ⟨rfl, rfl, rfl, rfl, rfl, modes, rfl, rfl, rfl, by simp⟩

theorem Bundled.recognizes {l : LocalRule} (bundled : l.Bundled) {offset offset' : Nat} (same : offset = 0 ↔ offset' = 0)
    (t : Text) : l.recognize offset t = l.recognize offset' t := by
  refine bundled.recognizesAlike ?_
  unfold leadingModes
  simp only [same]

end LocalRule

def Pairing.same : Pairing := ⟨Eq, Eq, fun _ => rfl⟩

theorem Pairing.sameAnswers {result result' : Except Failure (Text × Context)} (same : result = result') :
    Pairing.same.Answers result result' := by
  subst same
  cases result with
  | error e => exact .fail e
  | ok answer => exact .write rfl rfl

theorem LocalRule.Bundled.pairsAlike {l : LocalRule} (bundled : l.Bundled) {before before' t : Text}
    (alike : l.recognize (size before) t = l.recognize (size before') t) : l.Pairs .same before before' t where
  seen := by
    rintro c _ region rfl
    rw [sees?, sees?, alike]
  answers := by
    rintro c _ region groups rfl seen s u
    obtain ⟨stop, whole⟩ := seenWhole seen
    exact Pairing.sameAnswers (bundled.near (tokensAlike before before' t whole) region c s u)

theorem LocalRule.Bundled.pairs {l : LocalRule} (bundled : l.Bundled) {before before' : Text}
    (start : size before = 0 ↔ size before' = 0) (t : Text) : l.Pairs .same before before' t :=
  bundled.pairsAlike (bundled.recognizes start t)

structure Registry.Bundled (r : Registry) (locals : List LocalRule) : Prop where
  rules : r.rules = locals.map LocalRule.rule
  known : ∀ l ∈ locals, l.Bundled

theorem Registry.Standard.bundled {r : Registry} {locals : List LocalRule} (standard : r.Standard locals) :
    r.Bundled locals where
  rules := standard.rules
  known := by
    cases standard with
    | builtins => exact fun l mem => .builtin mem
    | global => exact List.forall_mem_cons.mpr ⟨.unicode _, fun l mem => .builtin mem⟩

end ExtendedPattern
