import SwiftExpansion.Json.Access
import SwiftExpansion.Template.Catalogue

/-!
# What a placeholder can reach

A placeholder starts at its argument and goes on to attributes and items: to the parts of a number,
to the kind of a value and what the kind holds, to methods and operators with or without the value
they are bound to, and from each of these to its name, its summary and its kind.
-/
namespace SwiftExpansion.Template

/-- Data, a kind, a tuple of values, a feature of a kind, the same bound to a value or a kind, a
kind applied to an argument, or the contents of a kind. -/
inductive Value
  | data (j : Json)
  | kind (k : Kind)
  | tuple (items : List Value)
  | feature (owner : Kind) (f : Feature)
  | bound (receiver : Value) (owner : Kind) (f : Feature)
  | applied (origin : Kind) (argument : Json)
  | contents (owner : Kind)
  deriving Repr

def FeatureSort.kind : FeatureSort → Kind
  | .method => .method
  | .operator => .operator
  | .attribute => .property
  | .field => .field
  | .classMethod => .classMethod
  | .staticMethod | .function => .bound

def FeatureSort.title : FeatureSort → String
  | .operator => "slot wrapper"
  | .attribute => "attribute"
  | .field => "member"
  | .method | .classMethod | .staticMethod | .function => "method"

namespace Value

def kindOf : Value → Kind
  | .data j => .ofJson j
  | .kind _ => .kind
  | .tuple _ => .tuple
  | .feature _ f => f.sort.kind
  | .bound _ _ f => if f.sort == .operator then .boundOperator else .bound
  | .applied _ _ => .applied
  | .contents _ => .contents

def kindName (v : Value) : String :=
  v.kindOf.name

def kindText (k : Kind) : String :=
  "<class '" ++ k.fullName ++ "'>"

def featureText (owner : Kind) (f : Feature) : String :=
  "<" ++ f.sort.title ++ " '" ++ f.name ++ "' of '" ++ owner.fullName ++ "' objects>"

/-- A bound feature is shown with the kind of its receiver. -/
def boundText (receiver : Kind) (f : Feature) : String :=
  let title := if f.sort == .operator then "<method-wrapper " ++ Text.quoted f.name
    else "<built-in method " ++ f.name
  title ++ " of " ++ receiver.fullName ++ " object>"

/-- A tuple of one item keeps its comma. -/
def tupleText : List String → String
  | [item] => "(" ++ item ++ ",)"
  | items => "(" ++ ", ".intercalate items ++ ")"

/-- An entry among the contents of a kind. A function is bound to the kind that holds it. -/
def entryText : Kind.Entry → String
  | .text s => (s.map Text.quoted).getD Json.null.quoted
  | .feature owner f =>
    match f.sort with
    | .function | .staticMethod => boundText .kind f
    | _ => featureText owner f

def contentsText (owner : Kind) : String :=
  "\x7b" ++ ", ".intercalate (owner.names.filterMap fun name =>
    (owner.own? name).map fun entry => Text.quoted name ++ ": " ++ entryText entry) ++ "\x7d"

mutual

def quoted : Value → String
  | .data j => j.quoted
  | .kind k => kindText k
  | .tuple items => tupleText (quotedAll items)
  | .feature owner f => featureText owner f
  | .bound receiver _ f => boundText receiver.kindOf f
  | .applied origin argument => origin.fullName ++ "[" ++ argument.quoted ++ "]"
  | .contents owner => "mappingproxy(" ++ contentsText owner ++ ")"

def quotedAll : List Value → List String
  | [] => []
  | v :: vs => v.quoted :: quotedAll vs

end

def display : Value → String
  | .data j => j.display
  | .contents owner => contentsText owner
  | v => v.quoted

def isShort : Value → Bool
  | .data j => j.isShort
  | _ => true

def shown (text : Value → String) (v : Value) : Except Fault String :=
  if v.isShort then .ok (text v) else .error .digitLimit

def ofText (s : String) : Value :=
  .data (.text s)

def ofText? (s : Option String) : Value :=
  .data ((s.map Json.text).getD .null)

/-- A whole number is its own numerator over one. -/
def wholePart? (n : Int) : String → Option Json
  | "real" | "numerator" => some (.int n)
  | "imag" => some (.int 0)
  | "denominator" => some (.int 1)
  | _ => none

def dataPart? (name : String) : Json → Option Json
  | .int n => wholePart? n name
  | .bool b => wholePart? b.toInt name
  | .real x =>
    match name with
    | "real" => some (.real x)
    | "imag" => some (.real (.finite false 0))
    | _ => none
  | _ => none

def featurePart? (owner : Kind) (f : Feature) : String → Option Value
  | "__name__" => some (ofText f.name)
  | "__qualname__" => some (ofText (owner.name ++ "." ++ f.name))
  | "__objclass__" => some (.kind owner)
  | "__doc__" => some (ofText? f.summary)
  | "__text_signature__" => some (ofText? f.signature)
  | _ => none

/-- The kind that the full name of a bound method starts with. -/
def receiverKind : Value → Kind
  | .kind k => k
  | v => v.kindOf

def boundPart? (receiver : Value) (owner : Kind) (f : Feature) : String → Option Value
  | "__self__" => some (if f.sort == .staticMethod then .data .null else receiver)
  | "__module__" => some (.data .null)
  | "__qualname__" =>
    some (ofText ((if f.sort == .operator then owner else receiver.receiverKind).name ++ "." ++ f.name))
  | name => featurePart? owner f name

def appliedPart? (origin : Kind) (argument : Json) : String → Option Value
  | "__origin__" => some (.kind origin)
  | "__args__" => some (.tuple [.data argument])
  | "__parameters__" => some (.tuple [])
  | "__unpacked__" => some (.data (.bool false))
  | "__typing_unpacked_tuple_args__" => some (.data .null)
  | _ => none

def part? (v : Value) (name : String) : Option Value :=
  if name == "__class__" then some (.kind v.kindOf)
  else
    match v with
    | .data j => (dataPart? name j).map .data
    | .feature owner f => featurePart? owner f name
    | .bound receiver owner f => boundPart? receiver owner f name
    | .applied origin argument => appliedPart? origin argument name
    | .kind _ | .tuple _ | .contents _ => none

/-- The summary of a kind; a kind without one has the feature of that name, if it holds it. -/
def summaryOf (k : Kind) : Value :=
  match k.summary, k.own? "__doc__" with
  | none, some (.feature owner f) => .feature owner f
  | summary, _ => ofText? summary

def kindPart? (k : Kind) : String → Option Value
  | "__class__" => some (.kind .kind)
  | "__name__" | "__qualname__" => some (ofText k.name)
  | "__module__" => some (ofText k.home)
  | "__mro__" => some (.tuple (k.lineage.map .kind))
  | "__bases__" => some (.tuple (k.parent?.map .kind).toList)
  | "__base__" => some ((k.parent?.map .kind).getD (.data .null))
  | "__dict__" => some (.contents k)
  | "__doc__" => some (summaryOf k)
  | "__text_signature__" => some (ofText? k.signature)
  | "__basicsize__" => some (.data (.int k.measures.size))
  | "__itemsize__" => some (.data (.int k.measures.itemSize))
  | "__flags__" => some (.data (.int k.measures.flags))
  | "__weakrefoffset__" => some (.data (.int k.measures.weakOffset))
  | "__dictoffset__" => some (.data (.int k.measures.contentsOffset))
  | _ => none

def isKindPart (name : String) : Bool :=
  match Kind.kind.lookup? name with
  | some (.feature _ f) => f.sort == .attribute || f.sort == .field
  | _ => false

/-- An entry of its kind, as a value has it. -/
def held? (v : Value) : Kind.Entry → Option Value
  | .text s => some (ofText? s)
  | .feature owner f =>
    match f.sort with
    | .attribute | .field => v.part? f.name
    | .method | .operator => some (.bound v owner f)
    | .classMethod => some (.bound (.kind v.kindOf) owner f)
    | .staticMethod | .function => some (.bound (.kind owner) owner f)

def heldByKind (k : Kind) : Kind.Entry → Value
  | .text s => ofText? s
  | .feature owner f =>
    match f.sort with
    | .classMethod => .bound (.kind k) owner f
    | .staticMethod | .function => .bound (.kind owner) owner f
    | _ => .feature owner f

/-- The attribute of a kind: what all kinds have comes first, then what the kind and its ancestors
hold, then what kinds can do. -/
def kindGet? (k : Kind) (name : String) : Option Value :=
  if isKindPart name then kindPart? k name
  else
    match k.lookup? name with
    | some entry => some (heldByKind k entry)
    | none => (Kind.kind.lookup? name).bind (held? (.kind k))

/-- The attributes that an applied kind does not leave to its origin. -/
def appliedNames : List String :=
  ["__class__", "__origin__", "__args__", "__unpacked__", "__parameters__",
    "__typing_unpacked_tuple_args__", "__mro_entries__", "__reduce_ex__", "__reduce__", "__copy__",
    "__deepcopy__"]

/-- The attribute of a value that is no kind. -/
def valueGet? (v : Value) (name : String) : Option Value :=
  (v.kindOf.lookup? name).bind v.held?

def get? (v : Value) (name : String) : Option Value :=
  match v with
  | .kind k => kindGet? k name
  | .applied origin _ => if appliedNames.contains name then v.valueGet? name else kindGet? origin name
  | v => v.valueGet? name

def get (v : Value) (name : String) : Except Fault Value :=
  (v.get? name).elim (.error (.misuse v.kindName (.operation name))) .ok

def apply (k : Kind) (argument : Json) : Except Fault Value :=
  if k.isGeneric then .ok (.applied k argument) else .error (.misuse Kind.kind.name .subscript)

/-- The item at a number: an element of a list or a tuple, or a character of a text. -/
def itemAt (v : Value) (n : Nat) : Except Fault Value :=
  let found (x : Option Value) : Except Fault Value := x.elim (.error (.absentItem v.kindName)) .ok
  match v with
  | .data (.list items) => found (items[n]?.map .data)
  | .data (.text s) => found (s.toList[n]?.map fun c => ofText (String.singleton c))
  | .tuple items => found items[n]?
  | .data (.object _) | .contents _ => .error (.absentKey (toString n))
  | .kind k => apply k (.int n)
  | v => .error (.misuse v.kindName .subscript)

def contentsItem : Kind.Entry → Value
  | .text s => ofText? s
  | .feature owner f =>
    match f.sort with
    | .staticMethod | .function => .bound (.kind owner) owner f
    | _ => .feature owner f

/-- The item under a key of an object or among the contents of a kind. -/
def itemFor (v : Value) (key : String) : Except Fault Value :=
  let found (x : Option Value) : Except Fault Value := x.elim (.error (.absentKey key)) .ok
  match v with
  | .data (.object entries) => found ((entries.lookup key).map .data)
  | .contents owner => found ((owner.own? key).map contentsItem)
  | .data (.list _) | .data (.text _) | .tuple _ => .error (.misuse v.kindName .keyAccess)
  | .kind k => apply k (.text key)
  | v => .error (.misuse v.kindName .subscript)

end Value

end SwiftExpansion.Template
