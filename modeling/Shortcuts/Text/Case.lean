import Shortcuts.Text.CaseTable
import Shortcuts.Text.FoldTable
import Shortcuts.Text.Property

/-!
Case mapping of texts. A letter may map to several characters, and a capital sigma maps to the
final sigma at the end of a word.
-/

namespace Shortcuts.Text

def CaseRow.covers (r : CaseRow) (c : Nat) : Bool :=
  r.low ≤ c && c ≤ r.high && (c - r.low) % r.step == 0

def CaseRow.map (r : CaseRow) (c : Nat) : Nat := (c + r.shift).toNat

/-- The image of a code point under the first row that covers it. -/
def mapThrough (rows : List CaseRow) (c : Nat) : Nat :=
  match rows.find? (·.covers c) with
  | some r => r.map c
  | none => c

def lowerChar (c : Char) : List Char :=
  if c.toNat < 128 then [c.toLower]
  else match lowerSpecial.lookup c.toNat with
    | some cs => cs.map Char.ofNat
    | none => [Char.ofNat (mapThrough lowerRows c.toNat)]

def upperChar (c : Char) : List Char :=
  if c.toNat < 128 then [c.toUpper]
  else match upperSpecial.lookup c.toNat with
    | some cs => cs.map Char.ofNat
    | none => [Char.ofNat (mapThrough upperRows c.toNat)]

/-- Whether a cased letter comes next, after characters that casing ignores. -/
def meetsCased (s : List Char) : Bool :=
  match s.dropWhile Property.caseIgnorable.contains with
  | [] => false
  | c :: _ => Property.cased.contains c

/-- Lower case of a text; `before` holds what stands in front of it, nearest first. -/
def lowerAfter (before : List Char) : List Char → List Char
  | [] => []
  | c :: s =>
    (if c = 'Σ' then
      [if meetsCased before && !meetsCased s then 'ς' else 'σ']
    else lowerChar c) ++ lowerAfter (c :: before) s

def lower (s : List Char) : List Char := lowerAfter [] s

def upper (s : List Char) : List Char := s.flatMap upperChar

/-- The code point that a letter is compared as when case does not matter. -/
def foldCase (c : Nat) : Nat := mapThrough foldRows c

/-- All code points compared as equal to `c` when case does not matter. -/
def caseOrbit (c : Nat) : List Nat :=
  let f := foldCase c
  f :: foldRows.filterMap fun r =>
    let d := ((f : Int) - r.shift).toNat
    if r.covers d && r.map d == f then some d else none

end Shortcuts.Text
