/-!
# Kinds

Every value that a placeholder reaches has a kind. A kind has a name, a home, and the kinds it
descends from, and it holds features under names: methods, operators, attributes and fields of its
values, methods of the kind itself or of nothing, and functions.
-/
namespace SwiftExpansion.Template

inductive FeatureSort
  | method
  | operator
  | attribute
  | field
  | classMethod
  | staticMethod
  | function
  deriving Repr, DecidableEq

/-- A feature with what is said about it: how it is called, and what it is for. -/
structure Feature where
  name : String
  sort : FeatureSort
  signature : Option String
  summary : Option String
  deriving Repr, DecidableEq

def lines (texts : List String) : Option String :=
  some ("\n".intercalate texts)

structure Measures where
  size : Nat
  itemSize : Nat
  flags : Nat
  weakOffset : Nat
  contentsOffset : Nat
  deriving Repr, DecidableEq

/-- A kind names its ancestors from the nearest on. Operators are held by name only, and the names
under `nulls` hold nothing. A generic kind can be applied to an argument. -/
structure Kind where
  name : String
  home : String := "builtins"
  ancestors : List String := ["object"]
  signature : Option String := none
  summary : Option String := none
  measures : Measures
  isGeneric : Bool := false
  nulls : List String := []
  operators : List String
  features : List Feature
  deriving Repr, DecidableEq

def Kind.fullName (k : Kind) : String :=
  if k.home == "builtins" then k.name else k.home ++ "." ++ k.name

end SwiftExpansion.Template
