import Shortcuts.Accelerator
import Shortcuts.Chord.Reader
import Shortcuts.Describe.Error

/-! What a text comes to as a sequence of chords, and how two sequences stand to each other. -/

namespace Shortcuts

namespace Chord

/-- Whether a sequence is read back from its own text. -/
def readsBack (p : Platform) (cs : List Chord) : Bool :=
  match sequenceOfText p (sequenceText cs) with
  | .ok ds => ds == cs
  | .error _ => false

/-- A text with the sequence that it is read as. -/
def describeText (p : Platform) (text : String) : Json :=
  let count := ("count", Json.ofNat (countIn text))
  match sequenceOfText p text with
  | .error e => .record [count, ("fail", e.describe)]
  | .ok cs =>
    .record [count, ("len", .ofNat cs.length), ("chords", describeAll cs),
      ("text", .str (sequenceText cs)), ("distinct", .ofNat cs.eraseDups.length),
      ("roundTrip", .bool (readsBack p cs))]

/-- How one sequence stands to another. -/
def beside (a b : List Chord) : List (String × Json) :=
  [("result", .str (compare a b).name), ("same", .bool true), ("equal", .bool (a == b)),
    ("startsWith", .bool (startsWith a b)), ("prefixOf", .bool (isPrefixOf a b))]

end Chord

/-- The labels of a sequence, and those of the modifiers of each chord. -/
def Accelerator.describeOf (a : Accelerator) (characterOf : Key → String) (cs : List Chord) :
    Json :=
  .record [("labels", .ofStrings (a.labels characterOf cs)),
    ("modifiers", .ofList (fun c => .ofStrings ((a.modifiers c).map a.modifierLabel)) cs),
    ("separator", .str a.separator)]

end Shortcuts
