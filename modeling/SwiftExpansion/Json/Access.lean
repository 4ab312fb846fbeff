import SwiftExpansion.Fault
import SwiftExpansion.Json.Equality
import SwiftExpansion.Text.Search

/-!
# Operations on values of any kind

Loosely typed data is used as it comes: every operation is defined on the kinds that support it and
is a malfunction on the others. A text is a container of its substrings and a sequence of its
characters, an object a container and a sequence of its keys.
-/
namespace SwiftExpansion.Json

def misused (j : Json) (how : Misuse) : Fault :=
  .misuse j.kind how

/-- The text itself, for an operation that only texts have. -/
def textFor (operation : String) : Json → Except Fault String
  | .text s => .ok s
  | j => .error (j.misused (.operation operation))

def entriesFor (operation : String) : Json → Except Fault (List (String × Json))
  | .object entries => .ok entries
  | j => .error (j.misused (.operation operation))

def get? (j : Json) (key : String) : Except Fault (Option Json) := do
  return (← j.entriesFor "get").lookup key

/-- The value under a key, where an absent key and a null are the same. -/
def getNonNull? (j : Json) (key : String) : Except Fault (Option Json) := do
  return (← j.get? key).bind nonNull?

def getD (j : Json) (key : String) (default : Json) : Except Fault Json := do
  return (← j.get? key).getD default

/-- Lists and objects cannot be looked up by. -/
def isContainer : Json → Bool
  | .list _ | .object _ => true
  | _ => false

def holds (j item : Json) : Except Fault Bool :=
  match j with
  | .text s =>
    match item with
    | .text t => .ok (Text.occursIn t.toList s.toList)
    | _ => .error (item.misused .substring)
  | .list items => .ok (items.any (·.sameItem item))
  | .object entries =>
    if item.isContainer then .error (item.misused .hashing)
    else .ok (entries.any fun e => item.isText e.1)
  | _ => .error (j.misused .membership)

def contains (j : Json) (key : String) : Except Fault Bool :=
  j.holds (.text key)

def elements : Json → Except Fault (List Json)
  | .text s => .ok (s.toList.map fun c => .text (String.singleton c))
  | .list items => .ok items
  | .object entries => .ok (entries.map fun e => .text e.1)
  | j => .error (j.misused .iteration)

/-- The value under a key that the container is known to hold; `part` names what the data should
describe. -/
def require (data : Json) (key part : String) : Except Fault Json := do
  if ← data.contains key then
    match data with
    | .object entries => return (entries.lookup key).getD .null
    | j => .error (j.misused .keyAccess)
  else
    .error (.missing part key data)

end SwiftExpansion.Json
