import Shortcuts.Layout.Basic

/-!
Scoring of layouts by what keys are seen to produce. Every new observation gives a point to the
layouts that explain it. An observation that contradicts an earlier one shows that the layout was
switched, so everything starts over with it.
-/

namespace Shortcuts

/-- A key that was seen to produce something. -/
structure Observation where
  code : String
  character : String
  shift : Bool := false
  alt : Bool := false
deriving DecidableEq, Inhabited, Repr

namespace Observation

def level (o : Observation) : Level := .ofHeld o.shift o.alt

/-- The key and the level as one text. -/
def place (o : Observation) : String := o.code ++ "." ++ o.level.name

def isExplainedBy (o : Observation) (l : Layout) : Bool :=
  l.character? o.code o.level == some o.character

end Observation

/-- What is kept of scores between runs, by layout identifiers. -/
structure ScoreRecord where
  scores : Fields Nat := []
  top : Nat := 0
  seen : Fields String := []
deriving DecidableEq, Inhabited, Repr

namespace ScoreRecord

/-- Reads a whole number of 32 bits. -/
def readCount? : Json.Written → Option Nat
  | .num (some (.int i)) => if 0 ≤ i ∧ i < Nat.pow 2 32 then some i.toNat else none
  | _ => none

def ofWritten? (w : Json.Written) : Option ScoreRecord :=
  match w.record? .refused ["scores", "topScore", "testedInputs"] with
  | some [scores, top, seen] => do
    let scores ← Json.Written.defaulted [] (·.map? readCount?) scores
    let top ← Json.Written.defaulted 0 readCount? top
    let seen ← Json.Written.defaulted [] (·.map? (·.text?)) seen
    return ⟨scores, top, seen⟩
  | _ => none

def toJson (r : ScoreRecord) : Json :=
  .obj [("scores", .obj (r.scores.map fun (id, n) => (id, .ofNat n))),
    ("testedInputs", .obj (r.seen.map fun (k, c) => (k, .str c))), ("topScore", .ofNat r.top)]

end ScoreRecord

/-- The candidates with their scores, the highest score there was, and what was seen. -/
structure Scores where
  entries : List (Layout × Nat)
  top : Nat := 0
  seen : Fields String := []
deriving Inhabited

namespace Scores

def ofLayouts (layouts : List Layout) : Scores := { entries := layouts.map fun l => (l, 0) }

def candidates (s : Scores) : List Layout := s.entries.map Prod.fst

def reset (s : Scores) : Scores := ofLayouts s.candidates

/-- Counts an observation for a layout. Scores have 32 bits. -/
def credit (o : Observation) (e : Layout × Nat) : Layout × Nat :=
  if o.isExplainedBy e.1 then (e.1, (e.2 + 1) % Nat.pow 2 32) else e

/-- Takes in what was not seen before. -/
def record (s : Scores) (o : Observation) : Scores :=
  let entries := s.entries.map (credit o)
  { entries, top := entries.foldl (fun top e => max top e.2) s.top
    seen := Fields.insert o.place o.character s.seen }

/-- Takes in an observation and tells whether it was new. -/
def observe (s : Scores) (o : Observation) : Scores × Bool :=
  match s.seen.lookup o.place with
  | some c => if c = o.character then (s, false) else (s.reset.record o, true)
  | none => (s.record o, true)

/-- The candidates that have the highest score. -/
def leaders (s : Scores) : List Layout :=
  (s.entries.filter fun e => e.2 = s.top).map Prod.fst

def toRecord (s : Scores) : ScoreRecord :=
  ⟨Fields.ofList (s.entries.map fun (l, n) => (l.id, n)), s.top, s.seen⟩

/-- The scores of the same candidates as they were kept. -/
def restore (s : Scores) (r : ScoreRecord) : Scores :=
  { entries := s.candidates.map fun l => (l, (r.scores.lookup l.id).getD 0)
    top := r.top, seen := r.seen }

end Scores

end Shortcuts
