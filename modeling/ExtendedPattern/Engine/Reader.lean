import ExtendedPattern.Engine.ClassReader
import ExtendedPattern.Engine.Tree

/-! From native pattern text to its tree. Reading goes piece by piece, with the groups that
are still open on a stack; a text that is no pattern gives nothing. -/
namespace ExtendedPattern.Engine.Reader

structure Modes where
  ignoreCase : Bool := false
  multiline : Bool := false
  dotAll : Bool := false
  swapGreed : Bool := false
  freeSpacing : Bool := false

structure Progress where
  modes : Modes := {}
  groups : Nat := 0
  names : List (Text × Nat) := []
  numbered : Bool := false
  referenced : List Nat := []

inductive Opening where
  | capture (index : Nat)
  | modes (before : Modes)
  | look (ahead negative : Bool)
  | atomic

structure Frame where
  opening : Opening
  branches : List Node := []
  items : List Node := []

namespace Frame

def add (f : Frame) (n : Node) : Frame := if n.isEmpty then f else { f with items := n :: f.items }

def branch (f : Frame) : Node := Node.ofItems f.items.reverse

def nextBranch (f : Frame) : Frame := { f with branches := f.branch :: f.branches, items := [] }

def tree (f : Frame) : Node :=
  match f.branches with
  | [] => f.branch
  | before => .alt (before.reverse ++ [f.branch])

end Frame

def Progress.canEnd (p : Progress) (f : Frame) : Bool :=
  !f.branches.isEmpty || !p.numbered || p.names.isEmpty

def skipComment? : Text → Option Text
  | [] => none
  | ')' :: rest => some rest
  | '\\' :: _ :: rest => skipComment? rest
  | _ :: rest => skipComment? rest

def skipLine (t : Text) : Text := (t.dropWhile (· != '\n')).drop 1

def skipBlank? (freeSpacing : Bool) : Nat → Text → Option Text
  | 0, t => some t
  | fuel + 1, t =>
    match t with
    | '(' :: '?' :: '#' :: rest => (skipComment? rest).bind (skipBlank? freeSpacing fuel)
    | '#' :: rest => if freeSpacing then skipBlank? freeSpacing fuel (skipLine rest) else some t
    | c :: rest =>
      if freeSpacing && [' ', '\r', '\n', '\t'].contains c then skipBlank? freeSpacing fuel rest
      else some t
    | [] => some []

def skip? (p : Progress) (t : Text) : Option Text := skipBlank? p.modes.freeSpacing t.length t

def bounds? (p : Progress) (t : Text) : Option (Nat × Option Nat × Text) := do
  let t ← skip? p t
  let (low, t) ← match t with
    | ',' :: _ => some (0, t)
    | _ => decimal? t
  let t ← skip? p t
  let (high, t) ← match t with
    | '}' :: _ => some (some low, t)
    | ',' :: rest => do
      let t ← skip? p rest
      match decimal? t with
      | some (high, t) => some (some high, t)
      | none => some (none, t)
    | _ => none
  let t ← skip? p t
  match t with
  | '}' :: rest => some (low, high, rest)
  | _ => none

def quantifier? (p : Progress) : Text → Option (Nat × Option Nat × Text)
  | '?' :: rest => some (0, some 1, rest)
  | '*' :: rest => some (0, none, rest)
  | '+' :: rest => some (1, none, rest)
  | '{' :: rest => bounds? p rest
  | _ => none

def quantified? (p : Progress) (n : Node) (t : Text) : Option (Node × Text) := do
  let t ← skip? p t
  match quantifier? p t with
  | none => some (n, t)
  | some (low, high, t) =>
    if n.isRepeatable then
      let t ← skip? p t
      let (greedy, t) := match t with
        | '?' :: rest => (false, rest)
        | t => (true, t)
      let node := Node.repeated low high (greedy != p.modes.swapGreed) n
      match t with
      | '+' :: rest => some (.atomic node, rest)
      | t => some (node, t)
    else none

def backref? (p : Progress) (group : Nat) : Option (Node × Progress) :=
  if group ≤ p.groups then some (.backref group, { p with referenced := group :: p.referenced })
  else none

def namedBackref? (p : Progress) (name : Text) : Option (Node × Progress) :=
  match p.names.lookup name with
  | some group => backref? p group
  | none =>
    match decimal? name with
    | some (group, []) => backref? p group
    | _ => none

def escaped? (limit : Nat) (p : Progress) (e : Escape) : Option (Node × Progress) :=
  match e with
  | .char c foldable =>
    some (.char ((CharSet.single c).underCase (foldable && p.modes.ignoreCase)), p)
  | .set s => some (.char s, p)
  | .spelled negated => some (.char (CharSet.hexDigits.underNegation negated), p)
  | .numbered group =>
    if group < limit then backref? { p with numbered := true } group else none
  | .named name => namedBackref? p name
  | .assertion a => some (.assertion a, p)
  | .keepOut => some (.keepOut, p)
  | .searchStart => some (.searchStart, p)

def atom? (limit : Nat) (p : Progress) : Text → Option (Node × Progress × Text)
  | [] => none
  | c :: rest =>
    if c = '.' then
      some (.char (if p.modes.dotAll then .anything else .notLineFeed), p, rest)
    else if c = '^' then
      some (.assertion (if p.modes.multiline then .startLine else .startText), p, rest)
    else if c = '$' then
      some (.assertion (if p.modes.multiline then .endLine else .endText), p, rest)
    else if c = '?' || c = '*' || c = '+' then none
    else if c = '\\' then do
      let (e, rest) ← escape? false rest
      let (n, p) ← escaped? limit p e
      some (n, p, rest)
    else if c = '[' then do
      let (s, plain, rest) ← ClassReader.class? p.modes.ignoreCase rest
      some (.ofItems (.char s :: plain.map fun c => .char (.single c)), p, rest)
    else some (.char ((CharSet.single c).underCase p.modes.ignoreCase), p, rest)

inductive Opened where
  | group (opening : Opening)
  | atom (n : Node)

def setMode (on : Bool) (m : Modes) : Char → Option Modes
  | 'i' => some { m with ignoreCase := on }
  | 'm' => some { m with multiline := on }
  | 's' => some { m with dotAll := on }
  | 'U' => some { m with swapGreed := on }
  | 'x' => some { m with freeSpacing := on }
  | 'u' => if on then some m else none
  | _ => none

def modes? (before : Modes) (p : Progress) (letters : Nat) (negated : Bool) :
    Nat → Text → Option (Opened × Progress × Text)
  | 0, _ => none
  | fuel + 1, t => do
    match ← skip? p t with
    | [] => none
    | ')' :: rest => if letters = 0 then none else some (.atom .empty, p, rest)
    | ':' :: rest =>
      if negated && letters = 0 then none else some (.group (.modes before), p, rest)
    | '-' :: rest => if negated then none else modes? before p letters true fuel rest
    | c :: rest =>
      let m ← setMode (!negated) p.modes c
      modes? before { p with modes := m } (letters + 1) negated fuel rest

def openNamed? (p : Progress) (t : Text) : Option (Opened × Progress × Text) := do
  let (name, rest) ← name? '>' t
  let index := p.groups + 1
  some (.group (.capture index), { p with groups := index, names := (name, index) :: p.names }, rest)

def open? (p : Progress) (t : Text) : Option (Opened × Progress × Text) := do
  match ← skip? p t with
  | '?' :: '=' :: rest => some (.group (.look true false), p, rest)
  | '?' :: '!' :: rest => some (.group (.look true true), p, rest)
  | '?' :: '<' :: '=' :: rest => some (.group (.look false false), p, rest)
  | '?' :: '<' :: '!' :: rest => some (.group (.look false true), p, rest)
  | '?' :: '<' :: rest => openNamed? p rest
  | '?' :: 'P' :: '<' :: rest => openNamed? p rest
  | '?' :: 'P' :: '=' :: rest => do
    let (name, rest) ← name? ')' rest
    let (n, p) ← namedBackref? p name
    some (.atom n, p, rest)
  | '?' :: '>' :: rest => some (.group .atomic, p, rest)
  | '?' :: '(' :: _ => none
  | '?' :: rest => modes? p.modes p 0 false (rest.length + 1) rest
  | t => some (.group (.capture (p.groups + 1)), { p with groups := p.groups + 1 }, t)

def close (p : Progress) (f : Frame) : Node × Progress :=
  match f.opening with
  | .capture index => (.group index f.tree, p)
  | .modes before => (f.tree, { p with modes := before })
  | .look ahead negative => (.look ahead negative f.tree, p)
  | .atomic => (.atomic f.tree, p)

def maxDepth : Nat := 64

def read? (limit : Nat) : Nat → Text → Progress → Frame → List Frame → Option (Node × Progress)
  | 0, _, _, _, _ => none
  | fuel + 1, t, p, frame, outer => do
    match ← skip? p t with
    | [] => if outer.isEmpty && p.canEnd frame then some (frame.tree, p) else none
    | '|' :: rest => read? limit fuel rest p frame.nextBranch outer
    | ')' :: rest =>
      match outer with
      | [] => none
      | parent :: outer =>
        if p.canEnd frame then
          let (n, p) := close p frame
          let (n, rest) ← quantified? p n rest
          read? limit fuel rest p (parent.add n) outer
        else none
    | '(' :: rest =>
      if outer.length + 1 < maxDepth then
        match ← open? p rest with
        | (.group opening, p, rest) => read? limit fuel rest p { opening } (frame :: outer)
        | (.atom n, p, rest) =>
          let (n, rest) ← quantified? p n rest
          read? limit fuel rest p (frame.add n) outer
      else none
    | t =>
      let (n, p, rest) ← atom? limit p t
      let (n, rest) ← quantified? p n rest
      read? limit fuel rest p (frame.add n) outer

def tree? (pattern : Text) : Option (Node × Progress) :=
  read? (Text.size pattern / 2) (pattern.length + 1) pattern {} { opening := .modes {} } []

end ExtendedPattern.Engine.Reader
