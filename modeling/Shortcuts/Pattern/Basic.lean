import Shortcuts.Pattern.CharSet

/-!
Regular expressions and whether one occurs in a text. A pattern moves a set of positions of the
text to the set of positions where a match that starts at one of them can end.
-/

namespace Shortcuts

/-- A condition on the characters before and behind a position. -/
inductive Look where
  | textStart
  | textEnd
  | lineStart
  | lineEnd
  /-- Line ends where a carriage return and a line feed count as one. -/
  | lineStartCrlf
  | lineEndCrlf
  | wordEdge (word : CharSet)
  | notWordEdge (word : CharSet)
  | wordStart (word : CharSet)
  | wordEnd (word : CharSet)
  | noWordBefore (word : CharSet)
  | noWordBehind (word : CharSet)
deriving Inhabited

inductive Pattern where
  | empty
  | set (s : CharSet)
  | look (l : Look)
  | seq (p q : Pattern)
  | alt (p q : Pattern)
  | repeated (p : Pattern) (least : Nat) (most : Option Nat)
deriving Inhabited

def isIn (s : CharSet) : Option Char → Bool
  | some c => s.contains c
  | none => false

namespace Look

/-- Whether the condition holds between two neighbours, absent at the ends of the text. -/
def holds : Look → Option Char → Option Char → Bool
  | textStart, before, _ => before.isNone
  | textEnd, _, behind => behind.isNone
  | lineStart, before, _ => before.isNone || before == some '\n'
  | lineEnd, _, behind => behind.isNone || behind == some '\n'
  | lineStartCrlf, before, behind =>
    before.isNone || before == some '\n' || (before == some '\r' && behind != some '\n')
  | lineEndCrlf, before, behind =>
    behind.isNone || behind == some '\r' || (behind == some '\n' && before != some '\r')
  | wordEdge w, before, behind => isIn w before != isIn w behind
  | notWordEdge w, before, behind => isIn w before == isIn w behind
  | wordStart w, before, behind => !isIn w before && isIn w behind
  | wordEnd w, before, behind => isIn w before && !isIn w behind
  | noWordBefore w, before, _ => !isIn w before
  | noWordBehind w, _, behind => !isIn w behind

end Look

/-- A set of positions: one mark for each position of a text, its end included. -/
abbrev Marks := List Bool

namespace Marks

def isEmpty (m : Marks) : Bool := !m.any id

def union (a b : Marks) : Marks := List.zipWith (· || ·) a b

/-- The positions one further on, where the character between is in the set. -/
def advance (s : CharSet) (text : List Char) (m : Marks) : Marks :=
  false :: List.zipWith (fun c b => b && s.contains c) text m

/-- The positions where a condition holds. -/
def restrict (l : Look) (text : List Char) (m : Marks) : Marks :=
  List.zipWith (fun b (p : Option Char × Option Char) => b && l.holds p.1 p.2) m
    ((none :: text.map some).zip (text.map some ++ [none]))

/-- Moves the positions `n` times, or until none is left. -/
def iterate (f : Marks → Marks) : Nat → Marks → Marks
  | 0, m => m
  | n + 1, m => if m.isEmpty then m else iterate f n (f m)

/-- Adds the moved positions `n` times, or until no new one comes. -/
def widen (f : Marks → Marks) : Nat → Marks → Marks
  | 0, m => m
  | n + 1, m =>
    let wider := m.union (f m)
    if wider == m then m else widen f n wider

end Marks

namespace Pattern

/-- Where a match that starts at a marked position can end. -/
def reach (text : List Char) : Pattern → Marks → Marks
  | empty, m => m
  | set s, m => m.advance s text
  | look l, m => m.restrict l text
  | seq p q, m => reach text q (reach text p m)
  | alt p q, m => (reach text p m).union (reach text q m)
  | repeated p least most, m =>
    let start := Marks.iterate (reach text p) least m
    match most with
    | none => Marks.widen (reach text p) (text.length + 1) start
    | some n => Marks.widen (reach text p) (min (n - least) (text.length + 1)) start

/-- Whether the pattern matches some part of the text. -/
def occursIn (p : Pattern) (text : List Char) : Bool :=
  !(reach text p (List.replicate (text.length + 1) true)).isEmpty

def ofList : List Pattern → Pattern
  | [] => empty
  | [p] => p
  | p :: q :: rest => seq p (ofList (q :: rest))

/-- The alternatives of a list; without any, nothing is asked. -/
def ofAlternatives : List Pattern → Pattern
  | [] => empty
  | [p] => p
  | p :: q :: rest => alt p (ofAlternatives (q :: rest))

/-- A rough size in bytes of an automaton for the pattern. -/
def weight : Pattern → Nat
  | empty => 32
  | set s => s.weight
  | look _ => 32
  | seq p q => p.weight + q.weight
  | alt p q => 40 + p.weight + q.weight
  | repeated p least none => 64 + p.weight * max 1 least
  | repeated p least (some most) => 32 + p.weight * most + 40 * (most - least)

/-- Patterns whose automaton would take more than ten mebibytes are refused. -/
def maxWeight : Nat := 10 * 1024 * 1024

end Pattern

end Shortcuts
