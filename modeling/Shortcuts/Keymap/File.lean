import Shortcuts.Keymap.Binding
import Shortcuts.Text.Case
import Shortcuts.Toml.Reader

/-! Files that hold bindings: a list of objects, or a document of `keybinding` tables. -/

namespace Shortcuts

/-- Why a file could not be used. -/
inductive FileError where
  | missing
  | notJson
  | notToml
deriving DecidableEq, Inhabited, Repr

/-- A name for the kind of the error. -/
def FileError.kind : FileError → String
  | missing => "Io"
  | notJson => "Json"
  | notToml => "Toml"

namespace Keymap

/-- The extension of a file name: what stands behind its last dot, unless that dot is the first
character. -/
def extension? (name : String) : Option String :=
  let behind := name.toList.reverse.takeWhile (· ≠ '.')
  let before := name.toList.length - behind.length
  if before ≤ 1 then none else some (String.ofList behind.reverse)

def isDocumentName (name : String) : Bool :=
  match extension? name with
  | some ext => ext.toList.map Char.toLower = "toml".toList
  | none => false

/-- Reads a list of objects. -/
def ofJsonText? (text : String) : Option (List Binding) :=
  Json.readWritten text >>= Json.Written.list? (Binding.ofWritten? .refused (Json.maxDepth - 2))

/-- Reads a document of tables. -/
def ofTomlText? (text : String) : Option (List Binding) := do
  let document ← Toml.read? text
  match document.written.record? .skipped ["keybinding"] with
  | some [list] =>
    Json.Written.defaulted [] (·.list? (Binding.ofWritten? .skipped Json.maxDepth)) list
  | _ => none

/-- Reads a file by its name and its text, absent if there is no such file. -/
def ofFile (name : String) (text : Option String) : Except FileError (List Binding) :=
  match text with
  | none => .error .missing
  | some text =>
    if isDocumentName name then
      match ofTomlText? text with
      | some bs => .ok bs
      | none => .error .notToml
    else
      match ofJsonText? text with
      | some bs => .ok bs
      | none => .error .notJson

end Keymap

end Shortcuts
