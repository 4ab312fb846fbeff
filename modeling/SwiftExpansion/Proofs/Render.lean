import SwiftExpansion.Render
import SwiftExpansion.Text.Blank

/-!
# The lines of generated code

A block is the join of its lines, so that splitting its text gives them back as long as none of them
holds a line end of its own.
-/
namespace SwiftExpansion

namespace Text

def lines (s : String) : List String :=
  (s.toList.splitOn '\n').map String.ofList

/-- Whether a text has no line end in it. -/
def IsLine (s : String) : Prop :=
  '\n' ∉ s.toList

instance (s : String) : Decidable (IsLine s) :=
  inferInstanceAs (Decidable ('\n' ∉ s.toList))

@[simp] theorem isLine_append {s t : String} : IsLine (s ++ t) ↔ IsLine s ∧ IsLine t := by
  simp [IsLine]

theorem isLine_intercalate {sep : String} (hsep : IsLine sep) {ss : List String}
    (h : ∀ s ∈ ss, IsLine s) : IsLine (sep.intercalate ss) := by
  induction ss with
  | nil => simp [IsLine]
  | cons s ss ih =>
    obtain ⟨hs, hss⟩ := List.forall_mem_cons.mp h
    cases ss with
    | nil => simpa using hs
    | cons next ss => simpa [hs, hsep] using ih hss

/-- Trimming only takes characters away. -/
theorem isLine_trimmed {s : String} (h : IsLine s) : IsLine (trimmed s) := by
  rw [IsLine, trimmed, String.toList_ofList, trim, trimRight, List.mem_reverse]
  intro hmem
  have hleft := (List.dropWhile_sublist _).subset hmem
  exact h ((List.dropWhile_sublist _).subset (List.mem_reverse.mp hleft))

theorem lines_intercalate {ss : List String} (hss : ss ≠ []) (hlines : ∀ s ∈ ss, IsLine s) :
    lines ("\n".intercalate ss) = ss := by
  have hsplit : ("\n".intercalate ss).toList.splitOn '\n' = ss.map String.toList := by
    rw [String.toList_intercalate]
    refine List.splitOn_intercalate '\n' (fun l hl => ?_) (by simpa using hss)
    obtain ⟨s, hs, rfl⟩ := List.mem_map.mp hl
    exact hlines s hs
  rw [lines, hsplit]
  simp

theorem lines_of_isLine {s : String} (h : IsLine s) : lines s = [s] := by
  simpa using lines_intercalate (List.cons_ne_nil s []) (by simpa using h)

end Text

theorem isLine_spaces (n : Nat) : Text.IsLine (String.ofList (List.replicate n ' ')) := by
  rw [Text.IsLine, String.toList_ofList]
  intro h
  exact absurd (List.eq_of_mem_replicate h) (by decide)

namespace Render

/-- A header and its statements in braces, as lines. -/
def blockLines (header : String) (statements : List String) (indent : String) : List String :=
  if statements.isEmpty then [header ++ " \x7b\x7d"]
  else (header ++ " \x7b") :: statements.map (indent ++ ·) ++ ["\x7d"]

theorem block_eq_append (header : String) (statements : List String) (indent : String) :
    ∃ rest, block header statements indent = header ++ rest := by
  unfold block
  split
  · exact ⟨_, rfl⟩
  · exact ⟨_, by rw [String.append_assoc, String.append_assoc]⟩

/-- A header with a body in braces falls into its lines. -/
theorem lines_braced {header : String} {body : List String} (hne : body ≠ [])
    (hheader : Text.IsLine header) (hbody : ∀ s ∈ body, Text.IsLine s) :
    Text.lines (header ++ " \x7b\n" ++ "\n".intercalate body ++ "\n\x7d") =
      (header ++ " \x7b") :: body ++ ["\x7d"] := by
  have hjoined : "\n".intercalate ((header ++ " \x7b") :: body ++ ["\x7d"]) =
      header ++ " \x7b\n" ++ "\n".intercalate body ++ "\n\x7d" := by
    rw [List.cons_append, String.intercalate_cons_of_ne_nil (by simp),
      String.intercalate_append_of_ne_nil hne (by simp), String.intercalate_singleton]
    apply String.toList_inj.mp
    simp
  rw [← hjoined]
  apply Text.lines_intercalate (by simp)
  rw [List.cons_append, List.forall_mem_cons, List.forall_mem_append, List.forall_mem_singleton]
  exact ⟨by simp +decide [hheader], hbody, by decide⟩

theorem lines_block {header indent : String} {statements : List String}
    (hheader : Text.IsLine header) (hindent : Text.IsLine indent)
    (hstatements : ∀ s ∈ statements, Text.IsLine s) :
    Text.lines (block header statements indent) = blockLines header statements indent := by
  cases statements with
  | nil =>
    have hline : Text.IsLine (header ++ " \x7b\x7d") := by simp +decide [hheader]
    exact Text.lines_of_isLine hline
  | cons s statements =>
    rw [block, blockLines, if_neg (by simp), if_neg (by simp)]
    apply lines_braced (by simp) hheader
    rw [List.forall_mem_map]
    exact fun t ht => Text.isLine_append.mpr ⟨hindent, hstatements t ht⟩

end Render

end SwiftExpansion
