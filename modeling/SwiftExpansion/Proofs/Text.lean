import Mathlib.Data.List.TakeWhile
import SwiftExpansion.Text.Blank
import SwiftExpansion.Text.ControlSequence
import SwiftExpansion.Text.Search

/-!
# Laws of texts

What searching, cutting and trimming do to texts of a known shape. Runs of one character are
measured by `leadingRun`, and a run of a given length at the front is the same as a prefix. A text
without an escape character has no control sequences that could be taken out of it.
-/
namespace SwiftExpansion.Text

@[simp] theorem leadingRun_nil (c : Char) : leadingRun c [] = 0 := rfl

theorem leadingRun_cons (c d : Char) (cs : List Char) :
    leadingRun c (d :: cs) = if d = c then leadingRun c cs + 1 else 0 := by
  by_cases h : d = c <;> simp [leadingRun, h]

theorem leadingRun_cons_of_ne {c d : Char} (h : d ≠ c) (cs : List Char) :
    leadingRun c (d :: cs) = 0 := by
  rw [leadingRun_cons, if_neg h]

theorem leadingRun_replicate_append (c : Char) (k : Nat) (cs : List Char) :
    leadingRun c (List.replicate k c ++ cs) = k + leadingRun c cs := by
  induction k with
  | zero => simp
  | succ k ih =>
    rw [List.replicate_succ, List.cons_append, leadingRun_cons, if_pos rfl, ih]
    omega

/-- A run ends at the first other character, whatever follows it. -/
theorem leadingRun_append_cons {c d : Char} (h : d ≠ c) (cs rest : List Char) :
    leadingRun c (cs ++ d :: rest) = leadingRun c cs := by
  induction cs with
  | nil => simp [leadingRun_cons_of_ne h]
  | cons e cs ih => rw [List.cons_append, leadingRun_cons, leadingRun_cons, ih]

/-- A text starts with `k` characters `c` exactly when its leading run is that long. -/
theorem isPrefixOf_replicate (c : Char) (k : Nat) (cs : List Char) :
    (List.replicate k c).isPrefixOf cs = decide (k ≤ leadingRun c cs) := by
  induction k generalizing cs with
  | zero => simp
  | succ k ih =>
    cases cs with
    | nil => simp [List.replicate_succ]
    | cons d cs =>
      rw [List.replicate_succ, List.isPrefixOf_cons_cons, ih, leadingRun_cons]
      by_cases h : d = c
      · simp [h]
      · simp [h, Ne.symm h]

@[simp] theorem dropFront?_append (pattern cs : List Char) :
    dropFront? pattern (pattern ++ cs) = some cs := by
  simp [dropFront?]

@[simp] theorem dropBack?_append (pattern cs : List Char) :
    dropBack? pattern (cs ++ pattern) = some cs := by
  simp [dropBack?]

theorem dropFront?_eq_none {pattern cs : List Char} (h : ¬ pattern <+: cs) :
    dropFront? pattern cs = none := by
  simp [dropFront?, h]

theorem dropFront?_eq_some {pattern cs rest : List Char} :
    dropFront? pattern cs = some rest ↔ cs = pattern ++ rest := by
  constructor
  · intro h
    by_cases hpattern : pattern <+: cs
    · obtain ⟨tail, rfl⟩ := hpattern
      rw [dropFront?_append, Option.some.injEq] at h
      rw [h]
    · simp [dropFront?_eq_none hpattern] at h
  · rintro rfl
    exact dropFront?_append pattern rest

theorem dropBack?_eq_some {pattern cs front : List Char} :
    dropBack? pattern cs = some front ↔ cs = front ++ pattern := by
  constructor
  · intro h
    by_cases hpattern : pattern <:+ cs
    · obtain ⟨head, rfl⟩ := hpattern
      rw [dropBack?_append, Option.some.injEq] at h
      rw [h]
    · simp [dropBack?, hpattern] at h
  · rintro rfl
    exact dropBack?_append pattern front

/-- A text occurs in another where it is cut out of it. -/
theorem occursIn_iff {needle cs : List Char} : occursIn needle cs = true ↔ needle <:+: cs := by
  induction cs with
  | nil => simp [occursIn]
  | cons c cs ih =>
    rw [occursIn, Bool.or_eq_true, ih, List.isPrefixOf_iff_prefix, List.infix_cons_iff]

theorem replaceFrom_eq (pattern replacement : List Char) (skip : Nat) (cs : List Char) :
    replaceFrom pattern replacement skip cs = replaceAll pattern replacement (cs.drop skip) := by
  induction cs generalizing skip with
  | nil => simp [replaceAll, replaceFrom]
  | cons c cs ih =>
    cases skip with
    | zero => rfl
    | succ skip => simpa [replaceFrom] using ih skip

/-- No occurrence starts in a text without the first character of the pattern. -/
theorem replaceAll_append_of_not_mem {p : Char} {pattern cs : List Char} (h : p ∉ cs)
    (replacement rest : List Char) :
    replaceAll (p :: pattern) replacement (cs ++ rest) =
      cs ++ replaceAll (p :: pattern) replacement rest := by
  induction cs with
  | nil => rfl
  | cons c cs ih =>
    obtain ⟨hc, hcs⟩ := not_or.mp (mt List.mem_cons.mpr h)
    have hrest := ih hcs
    unfold replaceAll at hrest ⊢
    simp [replaceFrom, hc, hrest]

theorem replaceAll_pattern_append {pattern : List Char} (h : pattern ≠ [])
    (replacement rest : List Char) :
    replaceAll pattern replacement (pattern ++ rest) =
      replacement ++ replaceAll pattern replacement rest := by
  obtain ⟨p, tail, rfl⟩ := List.exists_cons_of_ne_nil h
  have hskip : replaceFrom (p :: tail) replacement tail.length (tail ++ rest) =
      replaceAll (p :: tail) replacement rest := by
    rw [replaceFrom_eq, List.drop_left]
  have hpattern : (p :: tail).isPrefixOf (p :: (tail ++ rest)) = true := by
    simp
  rw [List.cons_append, replaceAll, replaceFrom, if_pos hpattern, List.length_cons,
    Nat.add_sub_cancel, hskip]

theorem replaceAll_cons {pattern : List Char} {c : Char} {cs : List Char}
    (h : ¬ pattern <+: c :: cs) (replacement : List Char) :
    replaceAll pattern replacement (c :: cs) = c :: replaceAll pattern replacement cs := by
  have hpattern : ¬ pattern.isPrefixOf (c :: cs) = true := mt List.isPrefixOf_iff_prefix.mp h
  rw [replaceAll, replaceFrom, if_neg hpattern, replaceAll]

theorem intercalate_append {before after : List (List Char)} (hbefore : before ≠ [])
    (hafter : after ≠ []) (sep : List Char) :
    sep.intercalate (before ++ after) = sep.intercalate before ++ sep ++ sep.intercalate after := by
  induction before with
  | nil => exact absurd rfl hbefore
  | cons piece before ih =>
    cases before with
    | nil => simp [List.intercalate_cons_of_ne_nil hafter]
    | cons next before => simpa using ih (List.cons_ne_nil next before)

/-- A text falls into pieces between the occurrences of a pattern. -/
theorem exists_pieces {pattern : List Char} (hpattern : pattern ≠ []) (cs : List Char) :
    ∃ pieces : List (List Char), pieces ≠ [] ∧ pattern.intercalate pieces = cs ∧
      ∀ p ∈ pieces, ¬ pattern <:+: p := by
  induction hn : cs.length using Nat.strong_induction_on generalizing cs with
  | _ n ih =>
    subst hn
    by_cases hwhere : pattern <:+: cs
    · obtain ⟨front, back, rfl⟩ := hwhere
      have hlength : (front ++ pattern ++ back).length =
          front.length + pattern.length + back.length := by
        simp [Nat.add_assoc]
      have hpos := List.length_pos_iff.mpr hpattern
      obtain ⟨before, hbefore, hfront, hplain⟩ := ih front.length (by omega) front rfl
      obtain ⟨after, hafter, hback, hplain'⟩ := ih back.length (by omega) back rfl
      refine ⟨before ++ after, by simp [hbefore], ?_, ?_⟩
      · rw [intercalate_append hbefore hafter, hfront, hback]
      · exact List.forall_mem_append.mpr ⟨hplain, hplain'⟩
    · exact ⟨[cs], by simp, by simp, by simpa using hwhere⟩

/-- Before a pattern whose first character does not come again in it, no occurrence can start in a
piece and end behind it. -/
theorem replaceAll_append_of_plain {p : Char} {tail : List Char} (hp : p ∉ tail)
    {piece rest : List Char} (hpiece : ¬ p :: tail <:+: piece)
    (hrest : rest = [] ∨ p :: tail <+: rest) (replacement : List Char) :
    replaceAll (p :: tail) replacement (piece ++ rest) =
      piece ++ replaceAll (p :: tail) replacement rest := by
  induction piece with
  | nil => rfl
  | cons c piece ih =>
    have hfront : ¬ p :: tail <+: c :: (piece ++ rest) := by
      intro h
      rcases List.prefix_or_prefix_of_prefix h (List.prefix_append (c :: piece) rest) with
        hinside | ⟨more, hmore⟩
      · exact hpiece hinside.isInfix
      · rw [← hmore] at h
        have hbehind : more <+: rest := (List.prefix_append_right_inj (c :: piece)).mp h
        cases more with
        | nil => exact hpiece (hmore ▸ by simp)
        | cons d more =>
          obtain ⟨-, rfl⟩ := List.cons.inj hmore
          rcases hrest with rfl | ⟨back, rfl⟩
          · simp at hbehind
          · have hd : d = p := (List.cons_prefix_cons.mp hbehind).1
            exact hp (by simp [hd])
    have hinfix : ¬ p :: tail <:+: piece := fun h =>
      hpiece (h.trans (List.suffix_cons c piece).isInfix)
    rw [List.cons_append, replaceAll_cons hfront, ih hinfix, List.cons_append]

/-- Replacing such a pattern joins the pieces around it by the replacement. -/
theorem replaceAll_intercalate {p : Char} {tail : List Char} (hp : p ∉ tail)
    {pieces : List (List Char)} (hpieces : ∀ piece ∈ pieces, ¬ p :: tail <:+: piece)
    (replacement : List Char) :
    replaceAll (p :: tail) replacement ((p :: tail).intercalate pieces) =
      replacement.intercalate pieces := by
  induction pieces with
  | nil => rfl
  | cons piece pieces ih =>
    obtain ⟨hpiece, hrest⟩ := List.forall_mem_cons.mp hpieces
    cases pieces with
    | nil =>
      have hlast := replaceAll_append_of_plain hp hpiece (.inl rfl) replacement
      simpa [replaceAll, replaceFrom] using hlast
    | cons next pieces =>
      rw [List.intercalate_cons_cons, List.intercalate_cons_cons, List.append_assoc,
        replaceAll_append_of_plain hp hpiece (.inr (List.prefix_append _ _)),
        replaceAll_pattern_append (List.cons_ne_nil p tail), ih hrest, List.append_assoc]

theorem append_cons_inj {sep : Char} {before before' : List Char} (h : sep ∉ before)
    (h' : sep ∉ before') {after after' : List Char} :
    before ++ sep :: after = before' ++ sep :: after' ↔ before = before' ∧ after = after' := by
  constructor
  · intro heq
    have hsplit := congrArg (List.splitOn sep) heq
    rw [List.splitOn_append_cons_self_of_not_mem h,
      List.splitOn_append_cons_self_of_not_mem h'] at hsplit
    obtain rfl : before = before' := (List.cons.inj hsplit).1
    simpa using heq
  · rintro ⟨rfl, rfl⟩
    rfl

theorem splitLast?_eq_none {sep : Char} {cs : List Char} : splitLast? sep cs = none ↔ sep ∉ cs := by
  induction cs with
  | nil => simp [splitLast?]
  | cons c cs ih =>
    rw [splitLast?]
    cases hrest : splitLast? sep cs with
    | none =>
      have hcs := ih.mp hrest
      by_cases hc : c = sep
      · simp [hc]
      · simp [hc, hcs, Ne.symm hc]
    | some parts =>
      have hcs : sep ∈ cs := by
        by_contra h
        rw [ih.mpr h] at hrest
        cases hrest
      simp [hcs]

/-- The cut is at the last separator: there is none behind it. -/
theorem splitLast?_append {sep : Char} {after : List Char} (h : sep ∉ after)
    (before : List Char) : splitLast? sep (before ++ sep :: after) = some (before, after) := by
  induction before with
  | nil => simp [splitLast?, splitLast?_eq_none.mpr h]
  | cons c before ih => rw [List.cons_append, splitLast?, ih]

theorem exists_last_of_mem {sep : Char} {cs : List Char} (h : sep ∈ cs) :
    ∃ before after, cs = before ++ sep :: after ∧ sep ∉ after := by
  obtain ⟨back, front, hcs, hback⟩ := List.eq_append_cons_of_mem (List.mem_reverse.mpr h)
  refine ⟨front.reverse, back.reverse, ?_, by simpa using hback⟩
  rw [← List.reverse_reverse cs, hcs]
  simp

theorem trimLeft_cons {c : Char} (h : isBlank c = false) (cs : List Char) :
    trimLeft (c :: cs) = c :: cs := by
  simp [trimLeft, h]

theorem trimRight_append_singleton {c : Char} (h : isBlank c = false) (cs : List Char) :
    trimRight (cs ++ [c]) = cs ++ [c] := by
  simp [trimRight, h]

/-- A text between marks that hold no blanks is trimmed already. -/
theorem trim_between {opening closing : List Char} (hopening : ∀ c ∈ opening, isBlank c = false)
    (hclosing : ∀ c ∈ closing, isBlank c = false) (ho : opening ≠ []) (hc : closing ≠ [])
    (cs : List Char) : trim (opening ++ cs ++ closing) = opening ++ cs ++ closing := by
  have hleft : trimLeft (opening ++ cs ++ closing) = opening ++ cs ++ closing := by
    obtain ⟨c, rest, rfl⟩ := List.exists_cons_of_ne_nil ho
    exact trimLeft_cons (hopening c (by simp)) (rest ++ cs ++ closing)
  have hlast := hclosing (closing.getLast hc) (List.getLast_mem hc)
  rw [trim, hleft, ← List.dropLast_concat_getLast hc, ← List.append_assoc,
    trimRight_append_singleton hlast]

/-- Blanks around a text do not show in what is left of it. -/
theorem trim_padded {before after : List Char} (hbefore : isBlankText before = true)
    (hafter : isBlankText after = true) (cs : List Char) :
    trim (before ++ cs ++ after) = trim cs := by
  have hnil {blanks : List Char} (h : isBlankText blanks = true) :
      blanks.dropWhile isBlank = [] := by
    simpa [isBlankText] using h
  have hback : after.reverse.dropWhile isBlank = [] := hnil (by simpa [isBlankText] using hafter)
  unfold trim trimRight trimLeft
  rw [List.append_assoc, List.dropWhile_append, hnil hbefore, List.isEmpty_nil, if_pos rfl,
    List.dropWhile_append]
  by_cases hblank : (cs.dropWhile isBlank).isEmpty = true
  · rw [if_pos hblank, hnil hafter, List.isEmpty_iff.mp hblank]
  · rw [if_neg hblank, List.reverse_append, List.dropWhile_append, hback, List.isEmpty_nil,
      if_pos rfl]

theorem trimmed_padded {u v : String} (hu : isBlankText u.toList = true)
    (hv : isBlankText v.toList = true) (s : String) : trimmed (u ++ s ++ v) = trimmed s := by
  rw [trimmed, String.toList_append, String.toList_append, trim_padded hu hv, trimmed]

theorem not_mem_of_isBlankText {c : Char} (hc : isBlank c = false) {cs : List Char}
    (h : isBlankText cs = true) : c ∉ cs := by
  intro hmem
  rw [List.all_eq_true.mp h c hmem] at hc
  cases hc

theorem withoutControls_eq_self {s : String} (h : '\x1b' ∉ s.toList) : withoutControls s = s := by
  have hchars (cs : List Char) (hcs : '\x1b' ∉ cs) : withoutControlsFrom 0 cs = cs := by
    induction cs with
    | nil => rfl
    | cons c cs ih =>
      obtain ⟨hc, hrest⟩ := not_or.mp (mt List.mem_cons.mpr hcs)
      have hlength : controlLength? (c :: cs) = none := by
        unfold controlLength?
        split
        · rename_i heq
          exact absurd (List.cons.inj heq).1.symm hc
        · rfl
      rw [withoutControlsFrom, hlength, ih hrest]
  rw [withoutControls, hchars _ h, String.ofList_toList]

end SwiftExpansion.Text
