import Shortcuts.Text.Blank
import Shortcuts.Text.Case
import Shortcuts.Text.Category
import Shortcuts.Text.Property
import Shortcuts.Text.Script

/-! Sets of characters, built from ranges and properties. -/

namespace Shortcuts

inductive CharSet where
  | empty
  | range (low high : Nat)
  | blank
  | property (runs : Text.Runs)
  | categories (names : List String)
  | script (code : String)
  | compl (a : CharSet)
  | union (a b : CharSet)
  | inter (a b : CharSet)
  | diff (a b : CharSet)
  | symmDiff (a b : CharSet)
  /-- The characters equal to a member when case does not matter. -/
  | folded (a : CharSet)
  /-- The same, for ASCII letters only. -/
  | foldedAscii (a : CharSet)
deriving Inhabited

namespace CharSet

def contains : CharSet → Char → Bool
  | empty, _ => false
  | range low high, c => low ≤ c.toNat && c.toNat ≤ high
  | blank, c => Text.isBlank c
  | property runs, c => runs.contains c
  | categories names, c => names.contains (Text.Category.of c)
  | script code, c => Text.Script.of c == code
  | compl a, c => !a.contains c
  | union a b, c => a.contains c || b.contains c
  | inter a b, c => a.contains c && b.contains c
  | diff a b, c => a.contains c && !b.contains c
  | symmDiff a b, c => a.contains c != b.contains c
  | folded a, c => (Text.caseOrbit c.toNat).any fun d => a.contains (Char.ofNat d)
  | foldedAscii a, c => a.contains c || a.contains c.toLower || a.contains c.toUpper

def char (c : Char) : CharSet := range c.toNat c.toNat

def ofRanges (rs : List (Nat × Nat)) : CharSet :=
  rs.foldr (fun r a => union (range r.1 r.2) a) empty

def any : CharSet := range 0 0x10FFFF

def asciiDigit : CharSet := range 48 57

def asciiWord : CharSet := ofRanges [(48, 57), (65, 90), (95, 95), (97, 122)]

def asciiBlank : CharSet := ofRanges [(9, 13), (32, 32)]

def digit : CharSet := categories ["Nd"]

/-- Letters, marks, digits, connectors and the two joiners. -/
def word : CharSet :=
  union (property Text.Property.alphabetic)
    (union (categories ["Mn", "Mc", "Me", "Nd", "Pc"]) (range 0x200C 0x200D))

/-- The classes of ASCII characters that have names. -/
def asciiNamed : List (String × CharSet) :=
  [("alnum", ofRanges [(48, 57), (65, 90), (97, 122)]), ("alpha", ofRanges [(65, 90), (97, 122)]),
   ("ascii", range 0 127), ("blank", ofRanges [(9, 9), (32, 32)]),
   ("cntrl", ofRanges [(0, 31), (127, 127)]), ("digit", asciiDigit), ("graph", range 33 126),
   ("lower", range 97 122), ("print", range 32 126),
   ("punct", ofRanges [(33, 47), (58, 64), (91, 96), (123, 126)]), ("space", asciiBlank),
   ("upper", range 65 90), ("word", asciiWord),
   ("xdigit", ofRanges [(48, 57), (65, 70), (97, 102)])]

/-- A rough size in bytes of an automaton for the set. -/
def weight : CharSet → Nat
  | empty => 32
  | range low high => if high < 128 then (if low = high then 32 else 72) else 120
  | blank => 600
  | property runs => 40 * runs.lengths.length
  | categories names => if names == ["Nd"] then 6000 else 24000
  | script _ => 1600
  | compl a => a.weight + 600
  | union a b => a.weight + b.weight
  | inter a b => max a.weight b.weight
  | diff a b => max a.weight b.weight
  | symmDiff a b => a.weight + b.weight
  | folded a => 2 * a.weight
  | foldedAscii a => 2 * a.weight

end CharSet

end Shortcuts
