import SwiftExpansion.Declaration.Inheritance
import SwiftExpansion.Proofs.Fault
import SwiftExpansion.Proofs.Text

/-!
# Inheritance by path components

The entries of an inheritance clause are dotted paths. An entry names a type when its path ends in
the components of the type's name. For a name without a dot this is the last component alone, so
that neither a qualification nor a longer identifier that ends in the name leads the search astray.
-/
namespace SwiftExpansion

namespace Text

/-- The last pieces of a text are those of another exactly when it is that text, or ends in it
behind a separator. -/
theorem splitOn_suffix_iff {sep : Char} {part cs : List Char} :
    part.splitOn sep <:+ cs.splitOn sep ↔ cs = part ∨ sep :: part <:+ cs := by
  constructor
  · rintro ⟨before, hpieces⟩
    -- Joined again the pieces are the texts, and any piece before those of `part` has a separator
    -- behind it.
    have hjoined := congrArg [sep].intercalate hpieces
    rw [List.intercalate_splitOn] at hjoined
    cases before with
    | nil =>
      rw [List.nil_append, List.intercalate_splitOn] at hjoined
      exact .inl hjoined.symm
    | cons piece before =>
      rw [intercalate_append (List.cons_ne_nil piece before) (List.splitOn_ne_nil sep part),
        List.intercalate_splitOn, List.append_assoc] at hjoined
      exact .inr ⟨_, hjoined⟩
  · rintro (rfl | ⟨before, rfl⟩)
    · exact List.suffix_refl _
    · rw [List.splitOn_append_cons_self]
      exact List.suffix_append _ _

def components (path : String) : List (List Char) :=
  path.toList.splitOn '.'

theorem components_suffix_iff {name path : String} : components name <:+ components path ↔
    path = name ∨ '.' :: name.toList <:+ path.toList := by
  rw [components, components, splitOn_suffix_iff, String.toList_inj]

theorem components_qualified (qualification path : String) :
    components (qualification ++ "." ++ path) = components qualification ++ components path := by
  rw [components, String.toList_append, String.toList_append, List.append_assoc]
  exact List.splitOn_append_cons_self qualification.toList path.toList

theorem getLast?_components_qualified (qualification path : String) :
    (components (qualification ++ "." ++ path)).getLast? = (components path).getLast? := by
  rw [components_qualified]
  exact List.getLast?_append_of_ne_nil _ (List.splitOn_ne_nil '.' path.toList)

theorem components_suffix_iff_getLast? {name : String} (hname : '.' ∉ name.toList)
    (path : String) :
    components name <:+ components path ↔ (components path).getLast? = some name.toList := by
  have hsingle : components name = [name.toList] := List.splitOn_eq_singleton hname
  rw [hsingle, List.getLast?_eq_some_iff]
  exact exists_congr fun _ => eq_comm

theorem not_components_suffix_push {c : Char} (hc : c ≠ '.') (front name : String) :
    ¬ components name <:+ components (front.push c ++ name) := by
  rw [components_suffix_iff, ← String.toList_inj, String.toList_append, String.toList_push]
  rintro (hwhole | hbehind)
  · have hlength := congrArg List.length hwhole
    simp only [List.length_append, List.length_singleton] at hlength
    omega
  · rw [← List.singleton_append, List.suffix_append_self_iff] at hbehind
    have hlast := hbehind.getLast (List.cons_ne_nil '.' [])
    simp [Ne.symm hc] at hlast

end Text

theorem Json.namesType_text (name entry : String) : (Json.text name).namesType (.text entry) =
    .ok (entry == name || ('.' :: name.toList).isSuffixOf entry.toList) := by
  cases hname : entry == name <;>
    simp [namesType, same, sameScalar, textFor, display, hname]

namespace Declaration

open Text (components)

def inheriting (d : Declaration Json) (entries : List String) : Declaration Json :=
  { d with inherits := entries.map .text }

/-- The search never fails on texts, and finds the entries whose paths end as the name does. -/
theorem inheritsFrom_inheriting (d : Declaration Json) (entries : List String) (name : String) :
    (d.inheriting entries).inheritsFrom (.text name) =
      .ok (entries.any fun entry => decide (components name <:+ components entry)) := by
  refine Except.anyM_map_eq_ok fun entry _ => ?_
  rw [Json.namesType_text, Except.ok.injEq, Bool.eq_iff_iff, Bool.or_eq_true, beq_iff_eq,
    List.isSuffixOf_iff_suffix, decide_eq_true_iff, Text.components_suffix_iff]

/-- A declaration inherits from a plain name exactly when the last component of one of its entries
is that name. An entry that ends in the name as part of a longer identifier does not count, and a
qualification in front of an entry changes nothing. -/
theorem inheritsFrom_last_component (d : Declaration Json) {name : String}
    (hname : '.' ∉ name.toList) :
    (∀ entries : List String, (d.inheriting entries).inheritsFrom (.text name) =
      .ok (decide (∃ entry ∈ entries, (components entry).getLast? = some name.toList))) ∧
    (∀ (before after : List String) (front : String) (c : Char), c ≠ '.' →
      (d.inheriting (before ++ (front.push c ++ name) :: after)).inheritsFrom (.text name) =
        (d.inheriting (before ++ after)).inheritsFrom (.text name)) ∧
    ∀ (before after : List String) (qualification entry : String),
      (d.inheriting (before ++ (qualification ++ "." ++ entry) :: after)).inheritsFrom
          (.text name) =
        (d.inheriting (before ++ entry :: after)).inheritsFrom (.text name) := by
  refine ⟨fun entries => ?_, fun before after front c hc => ?_,
    fun before after qualification entry => ?_⟩
  · rw [inheritsFrom_inheriting, Except.ok.injEq, Bool.eq_iff_iff, List.any_eq_true]
    simp only [decide_eq_true_iff, Text.components_suffix_iff_getLast? hname]
  · have hentry := Text.not_components_suffix_push hc front name
    rw [inheritsFrom_inheriting, inheritsFrom_inheriting, List.any_append, List.any_cons,
      List.any_append, decide_eq_false hentry, Bool.false_or]
  · have hentry : components name <:+ components (qualification ++ "." ++ entry) ↔
        components name <:+ components entry := by
      rw [Text.components_suffix_iff_getLast? hname, Text.components_suffix_iff_getLast? hname,
        Text.getLast?_components_qualified]
    rw [inheritsFrom_inheriting, inheritsFrom_inheriting, List.any_append, List.any_cons,
      List.any_append, List.any_cons, decide_eq_decide.mpr hentry]

/-- The name stands at the end of an identifier, before the last dot, and behind an empty
component. -/
theorem inheritsFrom_last_component_mixedClause :
    let d : Declaration Json := ⟨.referenceType, .text "Model", [], []⟩
    ('.' ∉ "Mappable".toList ∧ 't' ≠ '.') ∧
      (d.inheriting ["Core.NotMappable", "Mappable."]).inheritsFrom (.text "Mappable") =
        .ok false ∧
      (d.inheriting ["Core.NotMappable", "Mappable.", "Core..Mappable"]).inheritsFrom
        (.text "Mappable") = .ok true := by
  intro d
  have hname : '.' ∉ "Mappable".toList := by decide
  have hletter : 't' ≠ '.' := by decide
  obtain ⟨hlast, hlonger, hqualified⟩ := inheritsFrom_last_component d hname
  have hdropped := hlonger [] ["Mappable."] "Core.No" 't' hletter
  have hdropped' := hlonger [] ["Mappable.", "Core..Mappable"] "Core.No" 't' hletter
  have hplain := hqualified ["Mappable."] [] "Core." "Mappable"
  refine ⟨⟨hname, hletter⟩, ?_, ?_⟩
  · exact hdropped.trans ((hlast _).trans rfl)
  · exact hdropped'.trans (hplain.trans ((hlast _).trans rfl))

end Declaration

end SwiftExpansion
