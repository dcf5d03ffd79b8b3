import Shortcuts.Text.Blank

/-! The tokens of when-clauses and what is wrong with a text that has none. -/

namespace Shortcuts.Clause

inductive Token where
  | opening
  | closing
  | not
  | and
  | or
  | equal
  | notEqual
  | less
  | atMost
  | greater
  | atLeast
  | tilde
  | regex (source flags : List Char)
  | quoted (s : List Char)
  | word (w : List Char)
deriving DecidableEq, Inhabited, Repr

/-- Why a when-clause is refused. Offsets count the bytes of the text in UTF-8. -/
inductive Error where
  | unexpectedEnd
  | unexpectedToken (found : String) (offset : Nat)
  | unexpectedChar (found : Char) (offset : Nat)
  | unterminatedString (offset : Nat)
  | unterminatedRegex (offset : Nat)
  | invalidRegex (source : String)
  | invalidNumber (found : String)
deriving DecidableEq, Inhabited, Repr

def Error.message : Error → String
  | unexpectedEnd => "unexpected end of expression"
  | unexpectedToken t n => "unexpected '" ++ t ++ "' at offset " ++ toString n
  | unexpectedChar c n => "unexpected character '" ++ c.toString ++ "' at offset " ++ toString n
  | unterminatedString n => "unterminated string starting at offset " ++ toString n
  | unterminatedRegex n => "unterminated regular expression starting at offset " ++ toString n
  | invalidRegex p => "invalid regular expression /" ++ p ++ "/"
  | invalidNumber t => "expected a number, found '" ++ t ++ "'"

/-- A name for the kind of the error. -/
def Error.kind : Error → String
  | unexpectedEnd => "UnexpectedEnd"
  | unexpectedToken _ _ => "UnexpectedToken"
  | unexpectedChar _ _ => "UnexpectedChar"
  | unterminatedString _ => "UnterminatedString"
  | unterminatedRegex _ => "UnterminatedRegex"
  | invalidRegex _ => "InvalidRegex"
  | invalidNumber _ => "InvalidNumber"

/-- The characters that end a word, beside blanks. -/
def isStop (c : Char) : Bool :=
  ['(', ')', '!', '&', '|', '=', '<', '>', '\'', '"'].contains c

def isWordChar (c : Char) : Bool := !Text.isBlank c && !isStop c

namespace Token

def chars : Token → List Char
  | .opening => ['(']
  | .closing => [')']
  | .not => ['!']
  | .and => ['&', '&']
  | .or => ['|', '|']
  | .equal => ['=', '=']
  | .notEqual => ['!', '=']
  | .less => ['<']
  | .atMost => ['<', '=']
  | .greater => ['>']
  | .atLeast => ['>', '=']
  | .tilde => ['=', '~']
  | .regex source flags => '/' :: (source ++ '/' :: flags)
  | .quoted s => '\'' :: (s ++ ['\''])
  | .word w => w

def text (t : Token) : String := String.ofList t.chars

end Token

end Shortcuts.Clause
