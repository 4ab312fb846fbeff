import SwiftExpansion.Proofs.Text.Case
import SwiftExpansion.Render

/-!
# Names in camel case

A snake-case text is cut at its underscores, the first word is written in lower case and the others
are capitalised, each for itself. So the name of a text follows from its parts on both sides of any
underscore, and an empty word leaves no trace in it. The underscores are gone, and what is left of
blanks and letters is decided by the text alone. Within ASCII the case of the letters in the text is
of no effect.
-/
namespace SwiftExpansion

namespace Text

/-- The words of a text are its characters without the separators. -/
theorem exists_mem_splitOn {sep : Char} {P : Char → Prop} (cs : List Char) :
    (∃ word ∈ cs.splitOn sep, ∃ c ∈ word, P c) ↔ ∃ c ∈ cs, c ≠ sep ∧ P c := by
  induction cs with
  | nil => simp
  | cons c cs ih =>
    rw [List.splitOn_cons_eq_if_modifyHead]
    by_cases hc : c = sep
    · simp [hc, ih]
    · obtain ⟨word, words, hsplit⟩ := List.exists_cons_of_ne_nil (List.splitOn_ne_nil sep cs)
      rw [hsplit] at ih ⊢
      simp only [beq_iff_eq, hc, if_false, List.modifyHead_cons, List.mem_cons, or_and_right,
        exists_or, exists_eq_left, ne_eq, not_false_eq_true, true_and] at ih ⊢
      rw [or_assoc, ih]

theorem Recased.splitOn {cs ds : List Char} (h : Recased cs ds) :
    List.Forall₂ Recased (cs.splitOn '_') (ds.splitOn '_') := by
  induction h with
  | nil => exact .cons .nil .nil
  | @cons c d cs ds hcd _ ih =>
    have hsep := (hcd.2.ascii hcd.1).2.2.2
    rw [List.splitOn_cons_eq_if_modifyHead, List.splitOn_cons_eq_if_modifyHead]
    by_cases hc : c = '_'
    · rw [if_pos (by simpa using hc), if_pos (by simpa using hsep.mpr hc)]
      exact .cons .nil ih
    · rw [if_neg (by simpa using hc), if_neg (by simpa [hsep] using hc)]
      generalize cs.splitOn '_' = words at ih ⊢
      generalize ds.splitOn '_' = words' at ih ⊢
      cases ih with
      | nil => exact .nil
      | cons hword hwords => exact .cons (.cons hcd hword) hwords

end Text

namespace Render

def capitalWords (s : String) : String :=
  String.ofList ((s.toList.splitOn '_').flatMap Text.capitalize)

theorem camelWords_append {words : List (List Char)} (h : words ≠ []) (more : List (List Char)) :
    camelWords (words ++ more) = camelWords words ++ more.flatMap Text.capitalize := by
  cases words with
  | nil => exact absurd rfl h
  | cons word words => simp [camelWords]

theorem splitOn_underscore (a b : String) :
    (a ++ "_" ++ b).toList.splitOn '_' = a.toList.splitOn '_' ++ b.toList.splitOn '_' := by
  rw [String.toList_append, String.toList_append, List.append_assoc]
  exact List.splitOn_append_cons_self a.toList b.toList

/-- An underscore cuts a name in two, and the words behind it are capitalised. -/
theorem camelCase_underscore (a b : String) :
    camelCase (a ++ "_" ++ b) = camelCase a ++ capitalWords b := by
  rw [camelCase, splitOn_underscore, camelWords_append (List.splitOn_ne_nil _ _),
    String.ofList_append, camelCase, capitalWords]

theorem capitalWords_underscore (b : String) : capitalWords ("_" ++ b) = capitalWords b := by
  have hsplit : ("_" ++ b).toList.splitOn '_' = [] :: b.toList.splitOn '_' := by
    simpa using splitOn_underscore "" b
  rw [capitalWords, hsplit, capitalWords]
  rfl

theorem capitalWords_intercalate {words : List String} (hne : words ≠ [])
    (h : ∀ w ∈ words, '_' ∉ w.toList) : capitalWords ("_".intercalate words) =
      String.join (words.map fun w => String.ofList (Text.capitalize w.toList)) := by
  have hsplit : ("_".intercalate words).toList.splitOn '_' = words.map String.toList := by
    rw [String.toList_intercalate]
    apply List.splitOn_intercalate '_' _ (by simpa using hne)
    simpa using h
  apply String.toList_inj.mp
  rw [capitalWords, hsplit]
  simp [List.flatMap_map, String.toList_join]

theorem camelCase_replicate_underscore (a : String) (n : Nat) :
    camelCase (a ++ String.ofList (List.replicate n '_')) = camelCase a := by
  induction n generalizing a with
  | zero => simp
  | succ n ih =>
    have hfirst : a ++ String.ofList (List.replicate (n + 1) '_') =
        a ++ "_" ++ String.ofList (List.replicate n '_') := by
      apply String.toList_inj.mp
      simp [List.replicate_succ]
    have hnothing : capitalWords "" = "" := rfl
    have hlast : camelCase (a ++ "_") = camelCase a := by
      simpa [hnothing] using camelCase_underscore a ""
    rw [hfirst, ih (a ++ "_"), hlast]

/-- Of the characters of a text a name has all but the underscores, as far as blanks and underscores
are concerned. -/
theorem exists_mem_camelCase {P : Char → Prop} (hP : Text.IsSpacingProperty P) (s : String) :
    (∃ d ∈ (camelCase s).toList, P d) ↔ ∃ c ∈ s.toList, c ≠ '_' ∧ P c := by
  rw [← Text.exists_mem_splitOn, camelCase, String.toList_ofList]
  cases s.toList.splitOn '_' with
  | nil => simp [camelWords]
  | cons word words =>
    have hrest : (∃ d ∈ words.flatMap Text.capitalize, P d) ↔ ∃ w ∈ words, ∃ c ∈ w, P c := by
      induction words with
      | nil => simp
      | cons next words ih =>
        simp only [List.flatMap_cons, List.mem_append, List.mem_cons, or_and_right, exists_or,
          exists_eq_left, Text.exists_mem_capitalize hP, ih]
    simp only [camelWords, List.mem_append, List.mem_cons, or_and_right, exists_or, exists_eq_left,
      Text.lower, Text.exists_mem_lowerFrom hP, hrest]

theorem underscore_not_mem_camelCase (s : String) : '_' ∉ (camelCase s).toList := by
  have hspacing : Text.IsSpacingProperty (· = '_') := fun c d h => h.underscore
  intro hmem
  obtain ⟨c, -, hne, heq⟩ := (exists_mem_camelCase hspacing s).mp ⟨'_', hmem, rfl⟩
  exact hne heq

theorem camelWords_eq_of_recased {words words' : List (List Char)}
    (h : List.Forall₂ Text.Recased words words') : camelWords words' = camelWords words := by
  cases h with
  | nil => rfl
  | cons hword hrest =>
    rw [camelWords, camelWords, Text.lower, Text.lower, hword.lowerFrom_eq [] []]
    congr 1
    induction hrest with
    | nil => rfl
    | cons hnext _ ih => rw [List.flatMap_cons, List.flatMap_cons, hnext.capitalize_eq, ih]

/-- A name is put together from the words of its text. Behind any underscore follow the capitalised
words of the rest; so an underscore that is doubled or put at the end changes nothing, and there is
none in a name. In an ASCII text the case of any letters may be changed. -/
theorem camelCase_segmentwise :
    (∀ a b, camelCase (a ++ "_" ++ b) = camelCase a ++ capitalWords b) ∧
    (∀ words : List String, words ≠ [] → (∀ w ∈ words, '_' ∉ w.toList) →
      capitalWords ("_".intercalate words) =
        String.join (words.map fun w => String.ofList (Text.capitalize w.toList))) ∧
    (∀ a b, camelCase (a ++ "__" ++ b) = camelCase (a ++ "_" ++ b)) ∧
    (∀ a n, camelCase (a ++ String.ofList (List.replicate n '_')) = camelCase a) ∧
    (∀ a, '_' ∉ (camelCase a).toList) ∧
    (∀ a b : String, (∀ c ∈ a.toList, c.toNat < 128) →
      List.Forall₂ (fun c d => d = c ∨ d = c.toLower ∨ d = c.toUpper) a.toList b.toList →
        camelCase b = camelCase a) := by
  refine ⟨camelCase_underscore, fun _ => capitalWords_intercalate, ?_,
    camelCase_replicate_underscore, underscore_not_mem_camelCase, ?_⟩
  · intro a b
    have hdoubled : a ++ "__" ++ b = a ++ "_" ++ ("_" ++ b) := by
      apply String.toList_inj.mp
      simp
    rw [hdoubled, camelCase_underscore, capitalWords_underscore, camelCase_underscore]
  · intro a b hascii hletters
    have hrecased : Text.Recased a.toList b.toList :=
      (List.forall₂_and_left _ _).mpr ⟨hascii, hletters⟩
    rw [camelCase, camelWords_eq_of_recased hrecased.splitOn, camelCase]

theorem camelCase_segmentwise_errorTip :
    capitalWords ("_".intercalate ["", "TIP", "ok"]) = "TipOk" ∧
      camelCase "eRROR__tip_OK_" = camelCase "Error__TIP_ok_" := by
  obtain ⟨-, hwords, -, -, -, hcase⟩ := camelCase_segmentwise
  constructor
  · rw [hwords ["", "TIP", "ok"] (by simp) (by simp)]
    simp [Text.capitalize, Text.lowerFrom, Text.titleChar_ascii, Text.lowerChar_ascii]
  · exact hcase "Error__TIP_ok_" "eRROR__tip_OK_" (by simp) (by simp)

end Render

end SwiftExpansion
