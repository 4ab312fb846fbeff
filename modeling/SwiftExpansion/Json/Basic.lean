import SwiftExpansion.Json.Fault
import SwiftExpansion.Number.Shortest
import SwiftExpansion.Text.Quoted

/-!
# Loosely typed host data

Requests and settings arrive as JSON documents whose values may have any type. Objects keep their
keys in the order of the document. Besides the type itself this module holds what every consumer
needs of it: the name of a value's kind, its truth value, and its text in messages, if it can be
written at all.
-/
namespace SwiftExpansion

inductive Json
  | null
  | bool (b : Bool)
  | int (n : Int)
  | real (x : Binary64)
  | text (s : String)
  | list (items : List Json)
  | object (entries : List (String × Json))
  deriving Repr, BEq, Inhabited

namespace Json

def kind : Json → String
  | .null => "NoneType"
  | .bool _ => "bool"
  | .int _ => "int"
  | .real _ => "float"
  | .text _ => "str"
  | .list _ => "list"
  | .object _ => "dict"

/-- Null, zero and everything empty count as false. -/
def isTruthy : Json → Bool
  | .null => false
  | .bool b => b
  | .int n => n != 0
  | .real x => !x.isZero
  | .text s => !s.isEmpty
  | .list items => !items.isEmpty
  | .object entries => !entries.isEmpty

def isText (s : String) : Json → Bool
  | .text t => t == s
  | _ => false

def nonNull? : Json → Option Json
  | .null => none
  | j => some j

/-- Puts a value under a key: in place if the key is there, at the end otherwise. -/
def insertEntry (entries : List (String × Json)) (key : String) (value : Json) :
    List (String × Json) :=
  if entries.any (·.1 == key) then
    entries.map fun e => if e.1 == key then (key, value) else e
  else
    entries ++ [(key, value)]

mutual

/-- The text of a value inside another one: texts are quoted. -/
def quoted : Json → String
  | .null => "None"
  | .bool b => if b then "True" else "False"
  | .int n => toString n
  | .real x => x.text
  | .text s => Text.quoted s
  | .list items => "[" ++ ", ".intercalate (quotedItems items) ++ "]"
  | .object entries => "\x7b" ++ ", ".intercalate (quotedEntries entries) ++ "\x7d"

def quotedItems : List Json → List String
  | [] => []
  | j :: items => quoted j :: quotedItems items

def quotedEntries : List (String × Json) → List String
  | [] => []
  | (key, j) :: entries => (Text.quoted key ++ ": " ++ quoted j) :: quotedEntries entries

end

def display : Json → String
  | .text s => s
  | j => j.quoted

mutual

/-- Whether every whole number in a value has no more digits than can be written. Values that are
not short have no text. -/
def isShort : Json → Bool
  | .int n => n.natAbs < Nat.pow 10 maxDigits
  | .list items => areShort items
  | .object entries => entriesAreShort entries
  | _ => true

def areShort : List Json → Bool
  | [] => true
  | j :: items => isShort j && areShort items

def entriesAreShort : List (String × Json) → Bool
  | [] => true
  | (_, j) :: entries => isShort j && entriesAreShort entries

end

end Json

end SwiftExpansion
