import Shortcuts.Text.Blank
import Shortcuts.Chord.Basic

/-!
Chord texts. A chord is written as modifiers and one key with `+` between them, in any order and
any case; a sequence is written as chords with blanks between them.
-/

namespace Shortcuts

/-- Why a chord text is refused. -/
inductive ChordError where
  | empty
  | unknownModifier (token : String)
  | unknownKey (token : String)
  | missingKey (chord : String)
  | duplicateModifier (token : String)
  | multipleKeys (chord : String)
deriving DecidableEq, Inhabited, Repr

def ChordError.message : ChordError → String
  | empty => "empty key notation"
  | unknownModifier t => "unknown modifier: " ++ t
  | unknownKey t => "unknown key: " ++ t
  | missingKey t => "missing key in chord: " ++ t
  | duplicateModifier t => "duplicate modifier: " ++ t
  | multipleKeys t => "more than one key in chord: " ++ t

/-- A name for the kind of the error. -/
def ChordError.kind : ChordError → String
  | empty => "Empty"
  | unknownModifier _ => "UnknownModifier"
  | unknownKey _ => "UnknownKey"
  | missingKey _ => "MissingKey"
  | duplicateModifier _ => "DuplicateModifier"
  | multipleKeys _ => "MultipleKeys"

namespace Modifier

/-- The modifier that a lower-case word denotes. -/
def ofWord? (p : Platform) (word : String) : Option Modifier :=
  if word ∈ ["ctrl", "control"] then some .ctrl
  else if word ∈ ["alt", "option", "opt"] then some .alt
  else if word = "shift" then some .shift
  else if word ∈ ["meta", "cmd", "command", "super", "win"] then some .metaKey
  else if word = "ctrlcmd" then some p.primary
  else none

end Modifier

namespace Chord

/-- Adds one piece of the text `whole` to a chord; `last` says that no piece follows. -/
def addPiece (p : Platform) (whole : String) (c : Chord) (last : Bool) (piece : List Char) :
    Except ChordError Chord :=
  if piece.isEmpty then .error (.missingKey whole)
  else
    let token := String.ofList (Text.lower piece)
    match Modifier.ofWord? p token with
    | some m => if c.holds m then .error (.duplicateModifier token) else .ok (c.hold m)
    | none =>
      match Key.ofToken? token with
      | some k =>
        if c.key.isSome then .error (.multipleKeys whole) else .ok { c with key := some k }
      | none => .error (if last then .unknownKey token else .unknownModifier token)

def addPieces (p : Platform) (whole : String) : Chord → List (List Char) → Except ChordError Chord
  | c, [] => .ok c
  | c, piece :: rest =>
    match addPiece p whole c rest.isEmpty piece with
    | .ok c => addPieces p whole c rest
    | .error e => .error e

/-- The pieces between the `+` signs, without the blanks around them. -/
def pieces (s : List Char) : List (List Char) := (Text.splitBy (· = '+') s).map Text.trim

/-- Reads one chord. -/
def read (p : Platform) (s : List Char) : Except ChordError Chord :=
  let trimmed := Text.trim s
  if trimmed.isEmpty then .error .empty
  else
    let whole := String.ofList trimmed
    match addPieces p whole {} (pieces trimmed) with
    | .error e => .error e
    | .ok c => if c.key.isNone then .error (.missingKey whole) else .ok c

def ofText (p : Platform) (text : String) : Except ChordError Chord := read p text.toList

/-- Reads a sequence of at least one chord. -/
def sequenceOfText (p : Platform) (text : String) : Except ChordError (List Chord) :=
  match (Text.words text.toList).mapM (read p) with
  | .error e => .error e
  | .ok [] => .error .empty
  | .ok (c :: cs) => .ok (c :: cs)

/-- The number of chords that a text seems to hold. -/
def countIn (text : String) : Nat := (Text.words text.toList).length

end Chord

end Shortcuts
