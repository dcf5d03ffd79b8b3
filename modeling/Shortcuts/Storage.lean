import Shortcuts.Json.Reader
import Shortcuts.Json.Writer

/-! Keyed storage of structured values, in memory or in the text of a file. -/

namespace Shortcuts

inductive StorageError where
  /-- The file does not hold an object. -/
  | malformed
  /-- There is no place to store anything. -/
  | noDataDir
deriving DecidableEq, Inhabited, Repr

def StorageError.message : StorageError → String
  | malformed => "JSON error"
  | noDataDir => "no data directory available"

/-- A name for the kind of the error. -/
def StorageError.kind : StorageError → String
  | malformed => "Json"
  | noDataDir => "NoDataDir"

inductive Storage where
  | memory (data : Fields Json)
  /-- A file and its text, absent as long as the file is. -/
  | file (text : Option String)
  | broken
deriving Inhabited

namespace Storage

/-- All that is stored. -/
def contents : Storage → Except StorageError (Fields Json)
  | memory data => .ok data
  | file none => .ok []
  | file (some text) =>
    match Json.read? text with
    | some (.obj fields) => .ok fields
    | _ => .error .malformed
  | broken => .error .noDataDir

def get (s : Storage) (k : String) : Except StorageError (Option Json) :=
  s.contents.map fun data => data.lookup k

/-- Stores a value. A file is read and written as a whole, so nothing else in it is lost. -/
def put (s : Storage) (k : String) (v : Json) : Except StorageError Storage :=
  s.contents.map fun data =>
    let data := Fields.insert k v data
    match s with
    | file _ => file (some ((Json.obj data).pretty ""))
    | _ => memory data

end Storage

end Shortcuts
