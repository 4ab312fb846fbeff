import SwiftExpansion.Json.Basic
import SwiftExpansion.Template.Catalogue.Access
import SwiftExpansion.Template.Catalogue.Container
import SwiftExpansion.Template.Catalogue.Number
import SwiftExpansion.Template.Catalogue.Operator
import SwiftExpansion.Template.Catalogue.Root
import SwiftExpansion.Template.Catalogue.Text

/-!
# The catalogue of kinds

All kinds, and what is found in them under a name. A name is looked up in a kind first and then in
its ancestors, the nearest first.
-/
namespace SwiftExpansion.Template.Kind

def ancestral : List Kind :=
  [root, int]

def ofJson : Json → Kind
  | .null => null
  | .bool _ => bool
  | .int _ => int
  | .real _ => real
  | .text _ => text
  | .list _ => list
  | .object _ => object

/-- The kind itself and its ancestors. -/
def lineage (k : Kind) : List Kind :=
  k :: k.ancestors.filterMap fun name => ancestral.find? (·.name == name)

def parent? (k : Kind) : Option Kind :=
  k.lineage[1]?

/-- What stands under a name in a kind. -/
inductive Entry
  | feature (owner : Kind) (f : Feature)
  | text (s : Option String)
  deriving Repr

def feature? (k : Kind) (name : String) : Option Feature :=
  k.features.find? (·.name == name) <|>
    (if k.operators.contains name then Template.operators.find? (·.name == name) else none)

/-- What a kind itself holds. Its summary is held unless a feature has the name of summaries. -/
def own? (k : Kind) (name : String) : Option Entry :=
  match k.feature? name with
  | some f => some (.feature k f)
  | none =>
    if k.nulls.contains name then some (.text none)
    else if name == "__doc__" then some (.text k.summary)
    else none

def names (k : Kind) : List String :=
  (k.operators ++ k.nulls ++ k.features.map (·.name) ++ ["__doc__"]).eraseDups

def lookup? (k : Kind) (name : String) : Option Entry :=
  k.lineage.findSome? (·.own? name)

end SwiftExpansion.Template.Kind
