/-!
Sets and partitions of the code points, written as the lengths of their runs. Lengths are numbers
in base 36, set apart by single blanks.
-/

namespace Shortcuts.Text

/-- The lengths of the runs of a set, first the run outside it. -/
structure Runs where
  lengths : List Nat

/-- A label and a length for each run of a partition. -/
structure LabelledRuns where
  entries : List (String × Nat)

def base36 (s : List Char) : Nat :=
  s.foldl (fun n c => 36 * n + (if c.isDigit then c.toNat - 48 else c.toNat - 87)) 0

namespace Runs

def ofLines (lines : List String) : Runs :=
  ⟨lines.flatMap fun s => (s.splitOn " ").map fun w => base36 w.toList⟩

def inside (current : Bool) : List Nat → Nat → Bool
  | [], _ => false
  | n :: rest, c => if c < n then current else inside (!current) rest (c - n)

def contains (r : Runs) (c : Char) : Bool := inside false r.lengths c.toNat

end Runs

namespace LabelledRuns

/-- Reads words of a label of the given width and a length. -/
def ofLines (width : Nat) (lines : List String) : LabelledRuns :=
  ⟨lines.flatMap fun s => (s.splitOn " ").map fun w =>
    (String.ofList (w.toList.take width), base36 (w.toList.drop width))⟩

def labelFrom : List (String × Nat) → Nat → String
  | [], _ => ""
  | (a, n) :: rest, c => if c < n then a else labelFrom rest (c - n)

def label (r : LabelledRuns) (c : Nat) : String := labelFrom r.entries c

end LabelledRuns

end Shortcuts.Text
