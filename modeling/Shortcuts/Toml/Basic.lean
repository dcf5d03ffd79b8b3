import Shortcuts.Json.Reader

/-! Documents of nested tables. -/

namespace Shortcuts

inductive Toml where
  | str (s : String)
  | int (i : Int)
  | float (d : Double)
  | bool (b : Bool)
  | datetime (text : String)
  | arr (items : List Toml)
  | table (entries : List (String × Toml))
deriving Inhabited

namespace Toml

/-- The field under which a date is kept in a structured value. -/
def datetimeKey : String := "$__toml_private_datetime"

mutual
/-- The same document as if it were spelled as a structured value. -/
def written : Toml → Json.Written
  | str s => .str (some s)
  | int i => .num (some (.ofInt i))
  | float d => .num (some (.float d))
  | bool b => .bool b
  | datetime text => .obj [(some datetimeKey, .str (some text))]
  | arr items => .arr (writtenItems items)
  | table entries => .obj (writtenEntries entries)

def writtenItems : List Toml → List Json.Written
  | [] => []
  | t :: ts => written t :: writtenItems ts

def writtenEntries : List (String × Toml) → List (Option String × Json.Written)
  | [] => []
  | (k, t) :: rest => (some k, written t) :: writtenEntries rest
end

end Toml

end Shortcuts
