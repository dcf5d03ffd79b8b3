import Shortcuts.Text.Blank

/-! Language tags, and what the environment says about them. -/

namespace Shortcuts.Locale

/-- The language tag of a locale name: what stands before its encoding or variant, with hyphens
for underscores. The neutral locales have none. -/
def ofName? (name : String) : Option String :=
  let tag := Text.trim (name.toList.takeWhile fun c => c ≠ '.' && c ≠ '@')
  let s := String.ofList tag
  if tag.isEmpty || s = "C" || s = "POSIX" then none
  else some (String.ofList (tag.map fun c => if c = '_' then '-' else c))

/-- The variables of the environment that name a locale, the strongest first. -/
structure Environment where
  all : Option String := none
  messages : Option String := none
  lang : Option String := none

/-- The first variable that is set and names a language decides. -/
def Environment.locale? (e : Environment) : Option String :=
  [e.all, e.messages, e.lang].findSome? fun v => v.bind ofName?

end Shortcuts.Locale
