import Shortcuts.Pattern.Basic

/-!
Reading regular expressions: groups, alternatives, repetitions, classes with set operations,
Unicode properties, and flags that may change inside a group. There are no look-around groups and
no back references.
-/

namespace Shortcuts.Pattern

structure Flags where
  insensitive : Bool := false
  multiLine : Bool := false
  dotAll : Bool := false
  crlf : Bool := false
  extended : Bool := false
  unicode : Bool := true
deriving Inhabited

/-- What a part of an expression means, and how deeply it nests. -/
structure Part where
  pattern : Pattern
  depth : Nat
deriving Inhabited

/-- Expressions nested more deeply are refused. -/
def maxNesting : Nat := 250

/-- The remaining text and the names that groups already have. -/
structure State where
  rest : List Char
  names : List String
deriving Inhabited

/-! ### Characters -/

def skipLine (s : List Char) : List Char := (s.dropWhile (· ≠ '\n')).drop 1

/-- Skips blanks and comments where the flags allow them. -/
def skipBlanks : Nat → List Char → List Char
  | 0, s => s
  | fuel + 1, s =>
    match s with
    | c :: r =>
      if Text.isBlank c then skipBlanks fuel r
      else if c = '#' then skipBlanks fuel (skipLine r)
      else s
    | [] => []

def Flags.skip (f : Flags) (s : List Char) : List Char :=
  if f.extended then skipBlanks s.length s else s

def isMeta (c : Char) : Bool :=
  "\\.+*?()|[]^$#&-~".toList.contains c || c.toNat = 0x7B || c.toNat = 0x7D

/-- The punctuation that stands for itself behind a backslash. -/
def isEscapable (c : Char) : Bool :=
  isMeta c || (c.toNat < 128 && !c.isAlphanum && c ≠ '<' && c ≠ '>')

def hexValue (c : Char) : Option Nat :=
  if '0' ≤ c && c ≤ '9' then some (c.toNat - 48)
  else if 'a' ≤ c && c ≤ 'f' then some (c.toNat - 87)
  else if 'A' ≤ c && c ≤ 'F' then some (c.toNat - 55)
  else none

def charOf (n : Nat) : Option Char :=
  if n < 0xD800 || (0xDFFF < n && n < 0x110000) then some (Char.ofNat n) else none

def readHexDigits (f : Flags) : Nat → Nat → List Char → Option (Nat × List Char)
  | 0, n, s => some (n, s)
  | count + 1, n, s =>
    match s with
    | c :: r => (hexValue c).bind fun d => readHexDigits f count (16 * n + d) (f.skip r)
    | [] => none

def readHexBraced (f : Flags) : Nat → List Char → Option (List Nat × List Char)
  | 0, _ => none
  | fuel + 1, s =>
    match f.skip s with
    | c :: r =>
      if c.toNat = 0x7D then some ([], f.skip r)
      else do
        let d ← hexValue c
        let (ds, r) ← readHexBraced f fuel r
        some (d :: ds, r)
    | [] => none

/-! ### Escapes -/

/-- What a primary stands for. `raw` marks a character given by two hexadecimal digits. -/
inductive Atom where
  | char (c : Char) (raw : Bool)
  | set (s : CharSet)
  | look (l : Look)
deriving Inhabited

/-- Upper and lower case, spaces, underscores, hyphens and what is not ASCII do not matter in names,
nor does a leading `is`, which stays only in the name `isc`. -/
def normalName (s : List Char) : String :=
  let leading := (s.take 2).map Char.toLower == ['i', 's']
  let named (c : Char) : Bool := c.toNat < 128 && c ≠ ' ' && c ≠ '_' && c ≠ '-'
  let kept := ((if leading then s.drop 2 else s).filter named).map Char.toLower
  if leading && kept == ['c'] then "isc" else String.ofList kept

def categorySet? (name : String) : Option CharSet :=
  if name = "any" then some .any
  else if name = "assigned" then some (.compl (.categories ["Cn"]))
  else if name = "ascii" then some (.range 0 127)
  else (Text.Category.named.lookup name).map .categories

def propertySet? (name : String) : Option CharSet :=
  if name ∈ ["whitespace", "wspace", "space"] then some .blank
  else if name ∈ ["asciihexdigit", "ahex"] then
    some (.ofRanges [(48, 57), (65, 70), (97, 102)])
  else if name ∈ ["joincontrol", "joinc"] then some (.range 0x200C 0x200D)
  else if name ∈ ["regionalindicator", "ri"] then some (.range 0x1F1E6 0x1F1FF)
  else (Text.Property.named.lookup name).map .property

def scriptSet? (name : String) : Option CharSet :=
  (Text.Script.named.lookup name).map .script

/-- The set of a property name, as a binary property, a category or a script. -/
def namedSet? (s : List Char) : Option CharSet :=
  let name := normalName s
  (if name ∈ ["cf", "sc", "lc"] then none else propertySet? name) <|> categorySet? name <|>
    scriptSet? name

/-- The set of a property with a value. -/
def valuedSet? (name value : List Char) : Option CharSet :=
  let name := normalName name
  let value := normalName value
  if name ∈ ["generalcategory", "gc"] then categorySet? value
  else if name ∈ ["script", "sc", "scriptextensions", "scx"] then scriptSet? value
  else none

def splitAtSign (sign : List Char) : List Char → Option (List Char × List Char)
  | [] => none
  | c :: s =>
    if sign.isPrefixOf (c :: s) then some ([], (c :: s).drop sign.length)
    else (splitAtSign sign s).map fun (a, b) => (c :: a, b)

/-- The set that stands between the braces of a property escape. All signs between a property and
its value mean the same. -/
def bracedSet? (s : List Char) : Option CharSet :=
  match splitAtSign ['!', '='] s with
  | some (n, v) => valuedSet? n v
  | none =>
    match splitAtSign [':'] s with
    | some (n, v) => valuedSet? n v
    | none =>
      match splitAtSign ['='] s with
      | some (n, v) => valuedSet? n v
      | none => namedSet? s

def Flags.fold (f : Flags) (s : CharSet) : CharSet :=
  if f.insensitive then (if f.unicode then .folded s else .foldedAscii s) else s

def Flags.word (f : Flags) : CharSet := if f.unicode then .word else .asciiWord

/-- The letters that stand for classes, in lower case for the class and in upper for the rest. -/
def shorthand? (f : Flags) (c : Char) : Option CharSet :=
  let base : Option CharSet := match c.toLower with
    | 'd' => some (if f.unicode then .digit else .asciiDigit)
    | 's' => some (if f.unicode then .blank else .asciiBlank)
    | 'w' => some f.word
    | _ => none
  base.map fun s => if c.isUpper then .compl s else s

/-- Reads what `\p` or `\P` names, behind the letter. -/
def readProperty (f : Flags) (negated : Bool) (s : List Char) : Option (CharSet × List Char) :=
  if !f.unicode then none
  else do
    let (named, rest) ← match f.skip s with
      | [] => none
      | c :: r =>
        if c.toNat = 0x7B then
          let inner := r.takeWhile fun c => c.toNat ≠ 0x7D
          let behind := r.dropWhile fun c => c.toNat ≠ 0x7D
          if behind.isEmpty then none
          else
            let kept := if f.extended then inner.filter (!Text.isBlank ·) else inner
            (bracedSet? kept).map fun named => (named, behind.drop 1)
        else if c = '\\' then none
        else (namedSet? [c]).map fun named => (named, f.skip r)
    let folded := f.fold named
    some (if negated then .compl folded else folded, rest)

/-- Reads what a hexadecimal escape stands for, behind its letter. -/
def readHex (f : Flags) (letter : Char) (s : List Char) : Option (Atom × List Char) :=
  match f.skip s with
  | [] => none
  | c :: r =>
    if c.toNat = 0x7B then do
      let (ds, rest) ← readHexBraced f (r.length + 1) r
      if ds.isEmpty then none
      else
        let n := ds.foldl (fun n d => if n < 0x110000 then 16 * n + d else n) 0
        let ch ← charOf n
        some (.char ch false, rest)
    else do
      let count := if letter = 'x' then 2 else if letter = 'u' then 4 else 8
      let (n, rest) ← readHexDigits f count 0 (c :: r)
      let ch ← charOf n
      some (.char ch (letter = 'x'), rest)

/-- Reads the name of a word boundary in braces. Gives the text back where a count follows. -/
def readBoundary (f : Flags) (s : List Char) : Option (Look × List Char) :=
  let w := f.word
  let plain := Look.wordEdge w
  match s with
  | c :: r =>
    if c.toNat = 0x7B then
      match f.skip r with
      | [] => none
      | d :: r' =>
        if !(d.isAlpha || d = '-') then some (plain, s)
        else
          let allowed (c : Char) : Bool := c.isAlpha || c = '-' || (f.extended && Text.isBlank c)
          let name := ((d :: r').takeWhile allowed).filter (!Text.isBlank ·)
          match (d :: r').dropWhile allowed with
          | '\x7D' :: rest =>
            match String.ofList name with
            | "start" => some (.wordStart w, rest)
            | "end" => some (.wordEnd w, rest)
            | "start-half" => some (.noWordBefore w, rest)
            | "end-half" => some (.noWordBehind w, rest)
            | _ => none
          | _ => none
    else some (plain, s)
  | [] => some (plain, s)

/-- Reads an escape behind its backslash. -/
def readEscape (f : Flags) : List Char → Option (Atom × List Char)
  | [] => none
  | c :: s =>
    if c = 'x' || c = 'u' || c = 'U' then readHex f c s
    else if c = 'p' || c = 'P' then
      (readProperty f (c = 'P') s).map fun (cs, r) => (.set cs, r)
    else match shorthand? f c with
      | some cs => some (.set cs, s)
      | none =>
        if isEscapable c then some (.char c false, s)
        else match c with
          | 'a' => some (.char '\x07' false, s)
          | 'f' => some (.char '\x0C' false, s)
          | 't' => some (.char '\t' false, s)
          | 'n' => some (.char '\n' false, s)
          | 'r' => some (.char '\r' false, s)
          | 'v' => some (.char '\x0B' false, s)
          | 'A' => some (.look .textStart, s)
          | 'z' => some (.look .textEnd, s)
          | 'b' => (readBoundary f s).map fun (l, r) => (.look l, r)
          | 'B' => some (.look (.notWordEdge f.word), s)
          | '<' => some (.look (.wordStart f.word), s)
          | '>' => some (.look (.wordEnd f.word), s)
          | _ => none

/-! ### Classes -/

inductive SetOp where
  | inter
  | diff
  | symmDiff
deriving Inhabited

def SetOp.apply : SetOp → CharSet → CharSet → CharSet
  | inter, a, b => .inter a b
  | diff, a, b => .diff a b
  | symmDiff, a, b => .symmDiff a b

/-- A set of characters and how deeply the class nests that it was written as. -/
structure Operand where
  set : CharSet
  depth : Nat
deriving Inhabited

/-- The class read so far at one level: the finished operands with the operator behind them, the
members since then and their number, and whether the class is negated. -/
structure Level where
  left : Option (Operand × SetOp) := none
  members : Operand := ⟨.empty, 0⟩
  count : Nat := 0
  negated : Bool := false
deriving Inhabited

/-- The value of a level. Operands of a set operation are compared without case on their own. -/
def Level.operand (f : Flags) (l : Level) : Operand :=
  let depth := if 1 < l.count then l.members.depth + 1 else l.members.depth
  match l.left with
  | none => ⟨l.members.set, depth⟩
  | some (a, op) => ⟨op.apply (f.fold a.set) (f.fold l.members.set), max a.depth depth + 1⟩

/-- The class of a level that ends. -/
def Level.close (f : Flags) (l : Level) : Operand :=
  let whole := l.operand f
  let folded := f.fold whole.set
  ⟨if l.negated then .compl folded else folded, whole.depth + 1⟩

def Level.addClass (l : Level) (a : Operand) : Level :=
  { l with
    members := ⟨.union l.members.set a.set, max l.members.depth a.depth⟩
    count := l.count + 1 }

def Level.add (l : Level) (s : CharSet) : Level := l.addClass ⟨s, 0⟩

/-- Reads one member of a class. -/
def readMember (f : Flags) : List Char → Option (Atom × List Char)
  | [] => none
  | '\\' :: s => readEscape f s
  | c :: s => some (.char c false, s)

/-- A character that may stand in a class; without Unicode only ASCII may. -/
def Flags.allows (f : Flags) (c : Char) : Bool := f.unicode || c.toNat < 128

def memberSet (f : Flags) : Atom → Option CharSet
  | .char c _ => if f.allows c then some (.char c) else none
  | .set s => some s
  | .look _ => none

/-- Reads a member or a range of a class. A hyphen in front of the closing bracket or of another
hyphen makes no range. -/
def readRange (f : Flags) (s : List Char) : Option (CharSet × List Char) := do
  let (first, r) ← readMember f s
  match f.skip r with
  | [] => none
  | '-' :: r' =>
    match f.skip r' with
    | ']' :: _ => (memberSet f first).map fun cs => (cs, '-' :: r')
    | '-' :: _ => (memberSet f first).map fun cs => (cs, '-' :: r')
    | [] => none
    | r'' => do
      let (second, rest) ← readMember f r''
      match first, second with
      | .char a _, .char b _ =>
        if a.toNat ≤ b.toNat && f.allows a && f.allows b then
          some (.range a.toNat b.toNat, rest)
        else none
      | _, _ => none
  | r' => (memberSet f first).map fun cs => (cs, r')

/-- Reads a named class of ASCII characters behind its opening bracket. -/
def readAsciiClass (f : Flags) : List Char → Option (CharSet × List Char)
  | ':' :: s =>
    let (negated, s) := match s with
      | '^' :: r => (true, r)
      | r => (false, r)
    let name := s.takeWhile (· ≠ ':')
    match s.dropWhile (· ≠ ':') with
    | ':' :: ']' :: rest =>
      (CharSet.asciiNamed.lookup (String.ofList name)).map fun cs =>
        let folded := f.fold cs
        (if negated then .compl folded else folded, rest)
    | _ => none
  | _ => none

/-- Hyphens in front of a class stand for themselves. -/
def leadingHyphens (f : Flags) : Nat → Level → List Char → Level × List Char
  | 0, l, s => (l, s)
  | fuel + 1, l, s =>
    match s with
    | '-' :: r => leadingHyphens f fuel (l.add (.char '-')) (f.skip r)
    | _ => (l, s)

/-- Opens a class behind its bracket. A closing bracket right there stands for itself. -/
def openClass (f : Flags) (s : List Char) : Option (Level × List Char) :=
  match f.skip s with
  | [] => none
  | c :: r =>
    let (negated, s) := if c = '^' then (true, f.skip r) else (false, c :: r)
    let (level, s') := leadingHyphens f s.length { negated } s
    match s' with
    | [] => none
    | ']' :: r =>
      if s'.length = s.length then
        match f.skip r with
        | [] => none
        | r => some (level.add (.char ']'), r)
      else some (level, s')
    | _ => some (level, s')

def setOp? : List Char → Option (SetOp × List Char)
  | '&' :: '&' :: r => some (.inter, r)
  | '-' :: '-' :: r => some (.diff, r)
  | '~' :: '~' :: r => some (.symmDiff, r)
  | _ => none

/-- Reads a class behind its opening bracket, with the levels around it. -/
def readClass (f : Flags) : Nat → List Level → Level → List Char → Option (Operand × List Char)
  | 0, _, _, _ => none
  | fuel + 1, outer, level, s =>
    match f.skip s with
    | [] => none
    | '[' :: r =>
      match readAsciiClass f r with
      | some (cs, r') => readClass f fuel outer (level.add cs) r'
      | none =>
        match openClass f r with
        | some (inner, r') => readClass f fuel (level :: outer) inner r'
        | none => none
    | ']' :: r =>
      let closed := level.close f
      match outer with
      | [] => some (closed, r)
      | parent :: outer => readClass f fuel outer (parent.addClass closed) r
    | s' =>
      match setOp? s' with
      | some (op, r) =>
        readClass f fuel outer
          { left := some (level.operand f, op), negated := level.negated } r
      | none =>
        match readRange f s' with
        | some (cs, r) => readClass f fuel outer (level.add cs) r
        | none => none

/-! ### Groups and repetitions -/

def Flags.set (f : Flags) (on : Bool) (c : Char) : Option Flags :=
  match c with
  | 'i' => some { f with insensitive := on }
  | 'm' => some { f with multiLine := on }
  | 's' => some { f with dotAll := on }
  | 'R' => some { f with crlf := on }
  | 'x' => some { f with extended := on }
  | 'u' => some { f with unicode := on }
  | 'U' => some f
  | _ => none

/-- Reads flags up to `:` or `)`. No letter may come twice, and a minus must have letters behind
it. Gives the flags and whether any was named. -/
def readFlags (f : Flags) (on : Bool) (seen : List Char) : List Char →
    Option (Flags × Bool × List Char)
  | [] => none
  | c :: s =>
    if c = ':' || c = ')' then
      if seen.head? = some '-' then none else some (f, !seen.isEmpty, c :: s)
    else if seen.contains c then none
    else if c = '-' then readFlags f false ('-' :: seen) s
    else (f.set on c).bind fun f => readFlags f on (c :: seen) s

def isNameStart (c : Char) : Bool := c = '_' || Text.Property.alphabetic.contains c

def isNameChar (c : Char) : Bool :=
  isNameStart c || c = '.' || c = '[' || c = ']' ||
    ["Nd", "Nl", "No"].contains (Text.Category.of c)

/-- Reads the name of a group up to its closing angle bracket. -/
def readGroupName (names : List String) (s : List Char) : Option State :=
  let name := s.takeWhile (· ≠ '>')
  match s.dropWhile (· ≠ '>'), name with
  | '>' :: rest, c :: cs =>
    let n := String.ofList name
    if isNameStart c && cs.all isNameChar && !names.contains n then some ⟨rest, n :: names⟩
    else none
  | _, _ => none

def readDecimal (f : Flags) (s : List Char) : Option (Nat × List Char) :=
  let s := s.dropWhile Text.isBlank
  let rec digits : Nat → List Char → List Char × List Char
    | 0, s => ([], s)
    | fuel + 1, s =>
      match s with
      | c :: r =>
        if c.isDigit then
          let (ds, rest) := digits fuel (f.skip r)
          (c :: ds, rest)
        else ([], s)
      | [] => ([], [])
  let (ds, rest) := digits s.length s
  let n := ds.foldl (fun n c => 10 * n + (c.toNat - 48)) 0
  if ds.isEmpty || Nat.pow 2 32 ≤ n then none
  else some (n, f.skip (rest.dropWhile Text.isBlank))

/-- Reads the bounds of a repetition behind the opening brace. -/
def readBounds (f : Flags) (s : List Char) : Option ((Nat × Option Nat) × List Char) := do
  let (least, r) ← readDecimal f (f.skip s)
  match r with
  | '\x7D' :: rest => some ((least, some least), f.skip rest)
  | ',' :: r =>
    match f.skip r with
    | '\x7D' :: rest => some ((least, none), f.skip rest)
    | r => do
      let (most, r) ← readDecimal f r
      match r with
      | '\x7D' :: rest => if least ≤ most then some ((least, some most), f.skip rest) else none
      | _ => none
  | _ => none

/-- A question mark behind a repetition does not change where it matches. -/
def dropLazy : List Char → List Char
  | '?' :: s => s
  | s => s

/-- The parts of a branch, the last one first; none stands for a change of flags. -/
abbrev Parts := List (Option Part)

def Parts.toPart (ps : Parts) : Part :=
  let parts := (ps.filterMap id).reverse
  let depth := parts.foldl (fun d p => max d p.depth) 0
  ⟨.ofList (parts.map Part.pattern), if 1 < ps.length then depth + 1 else depth⟩

/-- The alternatives of a group, the last one first. -/
def Part.ofBranches (ps : List Part) : Part :=
  let depth := ps.foldl (fun d p => max d p.depth) 0
  ⟨.ofAlternatives (ps.reverse.map Part.pattern), if 1 < ps.length then depth + 1 else depth⟩

def Parts.repeatLast (ps : Parts) (least : Nat) (most : Option Nat) : Option Parts :=
  match ps with
  | some p :: rest => some (some ⟨.repeated p.pattern least most, p.depth + 1⟩ :: rest)
  | _ => none

def startLook (f : Flags) : Look :=
  if f.multiLine then (if f.crlf then .lineStartCrlf else .lineStart) else .textStart

def endLook (f : Flags) : Look :=
  if f.multiLine then (if f.crlf then .lineEndCrlf else .lineEnd) else .textEnd

/-- Without Unicode a set must stay inside ASCII. -/
def Flags.checkSet (f : Flags) (s : CharSet) : Option CharSet :=
  if !f.unicode && (List.range 128).any fun n => s.contains (Char.ofNat (n + 128)) then none
  else some s

def dotSet (f : Flags) : CharSet :=
  if f.dotAll then .any
  else if f.crlf then .compl (.union (.char '\n') (.char '\r'))
  else .compl (.char '\n')

def Atom.part (f : Flags) : Atom → Option Part
  | .char c raw =>
    if raw && !f.unicode && 128 ≤ c.toNat then none
    else some ⟨.set (f.fold (.char c)), 0⟩
  | .set s => (f.checkSet s).map fun s => ⟨.set s, 0⟩
  | .look l => some ⟨.look l, 0⟩

/-- What opens behind a parenthesis. -/
inductive Opening where
  | flags (f : Flags) (s : State)
  | group (f : Flags) (s : State)

def readOpening (f : Flags) (names : List String) (s : List Char) : Option Opening :=
  match f.skip s with
  | '?' :: '=' :: _ => none
  | '?' :: '!' :: _ => none
  | '?' :: '<' :: '=' :: _ => none
  | '?' :: '<' :: '!' :: _ => none
  | '?' :: 'P' :: '<' :: r => (readGroupName names r).map (.group f)
  | '?' :: '<' :: r => (readGroupName names r).map (.group f)
  | '?' :: r =>
    match readFlags f true [] r with
    | some (f', some?, c :: rest) =>
      if c = ':' then some (.group f' ⟨rest, names⟩)
      else if some? then some (.flags f' ⟨rest, names⟩) else none
    | _ => none
  | r => some (.group f ⟨r, names⟩)

mutual
/-- Reads alternatives up to a closing parenthesis or the end, behind those in `before`. -/
def readAlternatives : Nat → Flags → List Part → State → Option (Part × State)
  | 0, _, _, _ => none
  | fuel + 1, f, before, s => do
    let (p, f, s) ← readBranch fuel f [] s
    match s.rest with
    | '|' :: r => readAlternatives fuel f (p :: before) { s with rest := r }
    | _ => some (.ofBranches (p :: before), s)

/-- Reads one alternative. Flags that it changes stay changed behind it. -/
def readBranch : Nat → Flags → Parts → State → Option (Part × Flags × State)
  | 0, _, _, _ => none
  | fuel + 1, f, ps, s =>
    match f.skip s.rest with
    | [] => some (ps.toPart, f, { s with rest := [] })
    | c :: r =>
      let next (p : Part) (r : List Char) := readBranch fuel f (some p :: ps) { s with rest := r }
      let repetition (least : Nat) (most : Option Nat) (r : List Char) :=
        (ps.repeatLast least most).bind fun ps =>
          readBranch fuel f ps { s with rest := dropLazy r }
      if c = '|' || c = ')' then some (ps.toPart, f, { s with rest := c :: r })
      else if c = '(' then
        match readOpening f s.names r with
        | none => none
        | some (.flags f' s') => readBranch fuel f' (none :: ps) s'
        | some (.group f' s') =>
          match readAlternatives fuel f' [] s' with
          | some (p, s'') =>
            match s''.rest with
            | ')' :: rest =>
              readBranch fuel f (some { p with depth := p.depth + 1 } :: ps)
                { s'' with rest := rest }
            | _ => none
          | none => none
      else if c = '[' then
        match openClass f r with
        | none => none
        | some (level, r') =>
          match readClass f (2 * r'.length + 2) [] level r' with
          | some (a, r'') => (f.checkSet a.set).bind fun cs => next ⟨.set cs, a.depth⟩ r''
          | none => none
      else if c = '?' then repetition 0 (some 1) r
      else if c = '*' then repetition 0 none r
      else if c = '+' then repetition 1 none r
      else if c.toNat = 0x7B then
        (readBounds f r).bind fun ((least, most), r) => repetition least most r
      else if c = '\\' then
        (readEscape f r).bind fun (a, r) => (a.part f).bind fun p => next p r
      else if c = '.' then (f.checkSet (dotSet f)).bind fun cs => next ⟨.set cs, 0⟩ r
      else if c = '^' then next ⟨.look (startLook f), 0⟩ r
      else if c = '$' then next ⟨.look (endLook f), 0⟩ r
      else next ⟨.set (f.fold (.char c)), 0⟩ r
end

/-- Reads an expression that fills the whole text. -/
def ofChars? (f : Flags) (s : List Char) : Option Pattern := do
  let (p, s) ← readAlternatives (2 * s.length + 2) f [] ⟨s, []⟩
  if s.rest.isEmpty && p.depth ≤ maxNesting && p.pattern.weight ≤ maxWeight then some p.pattern
  else none

/-- The pattern of a literal with letters behind it. `i`, `m` and `s` set a flag, each at most
once; other letters mean nothing. -/
def ofLiteral? (source flags : String) : Option Pattern :=
  let named := flags.toList.filter fun c => c = 'i' || c = 'm' || c = 's'
  if named.isEmpty then ofChars? {} source.toList
  else
    match readFlags {} true [] (named ++ [')']) with
    | some (f, _, _) => ofChars? f source.toList
    | none => none

end Shortcuts.Pattern
