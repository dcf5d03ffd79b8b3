import Shortcuts.Clause.Basic
import Shortcuts.Clause.Lexer

/-!
Reading when-clauses. A disjunction joins conjunctions, a conjunction joins negations and
primaries, and a primary is a clause in parentheses, a constant, or a key with an operation.
-/

namespace Shortcuts.Clause

abbrev Tokens := List (Nat × Token)

def unexpected {α : Type} (p : Nat × Token) : Except Error α :=
  .error (.unexpectedToken p.2.text p.1)

/-- Nested conjunctions become one; a conjunction of one clause is that clause. -/
def joinAll (cs : List Clause) : Clause :=
  match cs.flatMap fun c => match c with | all ds => ds | c => [c] with
  | [c] => c
  | ds => all ds

/-- Nested disjunctions become one; a disjunction of one clause is that clause. -/
def joinAny (cs : List Clause) : Clause :=
  match cs.flatMap fun c => match c with | any ds => ds | c => [c] with
  | [c] => c
  | ds => any ds

/-! ### Operands -/

/-- Reads a word or a quoted text. -/
def readName : Tokens → Except Error (String × Tokens)
  | [] => .error .unexpectedEnd
  | (n, t) :: ts =>
    match t with
    | .word w => .ok (String.ofList w, ts)
    | .quoted s => .ok (String.ofList s, ts)
    | t => unexpected (n, t)

/-- Reads what a value is compared with. The words for truth values are only words unquoted. -/
def readLiteral : Tokens → Except Error (Literal × Tokens)
  | (_, .word ['t', 'r', 'u', 'e']) :: ts => .ok (.bool true, ts)
  | (_, .word ['f', 'a', 'l', 's', 'e']) :: ts => .ok (.bool false, ts)
  | ts => (readName ts).map fun (s, r) => (.str s, r)

def readBound (ts : Tokens) : Except Error (Double × Tokens) :=
  match readName ts with
  | .error e => .error e
  | .ok (s, r) =>
    match Double.read? (Text.trim s.toList) with
    | some d => .ok (d, r)
    | none => .error (.invalidNumber s)

def readRegex : Tokens → Except Error ((String × String) × Tokens)
  | [] => .error .unexpectedEnd
  | (_, .regex source flags) :: ts =>
    let source := String.ofList source
    let flags := String.ofList flags
    if (Pattern.ofLiteral? source flags).isSome then .ok ((source, flags), ts)
    else .error (.invalidRegex source)
  | p :: _ => unexpected p

/-- Reads the operation behind a key, if there is one. -/
def readOperation (key : String) (ts : Tokens) : Except Error (Clause × Tokens) :=
  match ts with
  | (_, .equal) :: r => (readLiteral r).map fun (l, r) => (equals key l, r)
  | (_, .notEqual) :: r => (readLiteral r).map fun (l, r) => (differs key l, r)
  | (_, .less) :: r => (readBound r).map fun (d, r) => (compares .less key d, r)
  | (_, .atMost) :: r => (readBound r).map fun (d, r) => (compares .atMost key d, r)
  | (_, .greater) :: r => (readBound r).map fun (d, r) => (compares .greater key d, r)
  | (_, .atLeast) :: r => (readBound r).map fun (d, r) => (compares .atLeast key d, r)
  | (_, .tilde) :: r => (readRegex r).map fun ((s, f), r) => (matching key s f, r)
  | (_, .word ['i', 'n']) :: r => (readName r).map fun (s, r) => (isIn key s, r)
  | (_, .word ['n', 'o', 't']) :: (_, .word ['i', 'n']) :: r =>
    (readName r).map fun (s, r) => (notIn key s, r)
  | _ => .ok (defined key, ts)

/-! ### Clauses -/

mutual
def readAny : Nat → Tokens → Except Error (Clause × Tokens)
  | 0, _ => .error .unexpectedEnd
  | fuel + 1, ts => do
    let (cs, r) ← readDisjuncts fuel ts
    .ok (joinAny cs, r)

def readDisjuncts : Nat → Tokens → Except Error (List Clause × Tokens)
  | 0, _ => .error .unexpectedEnd
  | fuel + 1, ts => do
    let (c, r) ← readAll fuel ts
    match r with
    | (_, .or) :: r =>
      let (cs, r) ← readDisjuncts fuel r
      .ok (c :: cs, r)
    | _ => .ok ([c], r)

def readAll : Nat → Tokens → Except Error (Clause × Tokens)
  | 0, _ => .error .unexpectedEnd
  | fuel + 1, ts => do
    let (cs, r) ← readConjuncts fuel ts
    .ok (joinAll cs, r)

def readConjuncts : Nat → Tokens → Except Error (List Clause × Tokens)
  | 0, _ => .error .unexpectedEnd
  | fuel + 1, ts => do
    let (c, r) ← readUnary fuel ts
    match r with
    | (_, .and) :: r =>
      let (cs, r) ← readConjuncts fuel r
      .ok (c :: cs, r)
    | _ => .ok ([c], r)

def readUnary : Nat → Tokens → Except Error (Clause × Tokens)
  | 0, _ => .error .unexpectedEnd
  | fuel + 1, ts =>
    match ts with
    | [] => .error .unexpectedEnd
    | (_, .not) :: r => do
      let (c, r) ← readUnary fuel r
      .ok (not c, r)
    | (_, .opening) :: r => do
      let (c, r) ← readAny fuel r
      match r with
      | [] => .error .unexpectedEnd
      | (_, .closing) :: r => .ok (c, r)
      | p :: _ => unexpected p
    | (_, .word ['t', 'r', 'u', 'e']) :: r => .ok (always, r)
    | (_, .word ['f', 'a', 'l', 's', 'e']) :: r => .ok (never, r)
    | (_, .word w) :: r => readOperation (String.ofList w) r
    | p :: _ => unexpected p
end

/-- Reads a clause that fills the whole list of tokens. -/
def ofTokens (ts : Tokens) : Except Error Clause := do
  let (c, r) ← readAny (5 * ts.length + 5) ts
  match r with
  | [] => .ok c
  | p :: _ => unexpected p

/-- Reads a when-clause; a blank text holds none. -/
def ofText (s : String) : Except Error (Option Clause) := do
  match ← lex s.toList with
  | [] => .ok none
  | ts => (ofTokens ts).map some

end Shortcuts.Clause
