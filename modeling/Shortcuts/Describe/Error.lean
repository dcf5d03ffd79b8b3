import Shortcuts.Clause.Reader
import Shortcuts.Command
import Shortcuts.Context.Arena
import Shortcuts.Describe.Chord
import Shortcuts.Keymap.File
import Shortcuts.Layout.Basic
import Shortcuts.Storage

/-! Errors as structured values: the kind, and the message where there is one to rely on. -/

namespace Shortcuts

/-- A failure of a kind. -/
def Json.failure (kind : String) (message : Option String) : Json :=
  .record (("error", .str kind) :: (message.map fun m => ("message", .str m)).toList)

def ChordError.describe (e : ChordError) : Json := .failure e.kind (some e.message)

/-- A pattern that cannot be read is told by its source. -/
def Clause.Error.describe : Clause.Error → Json
  | .invalidRegex p =>
    .record [("error", .str (Clause.Error.invalidRegex p).kind), ("pattern", .str p)]
  | e => .failure e.kind (some e.message)

def ContextError.describe (e : ContextError) : Json := .failure e.kind (some e.message)

def CommandError.describe (e : CommandError) : Json := .failure e.kind (some e.message)

def LayoutError.describe (e : LayoutError) : Json := .failure e.kind (some e.message)

def FileError.describe (e : FileError) : Json := .failure e.kind none

def StorageError.describe : StorageError → Json
  | .malformed => .failure StorageError.malformed.kind none
  | .noDataDir => .failure StorageError.noDataDir.kind (some StorageError.noDataDir.message)

end Shortcuts
