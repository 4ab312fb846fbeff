import Mathlib.Data.List.Forall2
import SwiftExpansion.Text.Blank
import SwiftExpansion.Text.Case

/-!
# Laws of case

Blanks and underscores have no case: no table moves a character away from them or onto them, so that
a text has as many of them after a change of case as before. A letter may become several characters,
and none of them is a blank or an underscore. Within ASCII every letter has one lower and one upper
form, whatever stands around it.
-/
namespace SwiftExpansion.Text

/-- Whether two characters count alike between words: as a blank, as an underscore or as neither. -/
structure SameSpacing (c d : Char) : Prop where
  blank : isBlank d = isBlank c
  underscore : d = '_' ↔ c = '_'

/-- The code points of the underscore and of the blanks, as closed ranges. -/
def spacingRanges : List (Nat × Nat) :=
  [(0x5F, 0x5F), (9, 13), (28, 32), (0x85, 0x85), (0xA0, 0xA0), (0x1680, 0x1680),
    (0x2000, 0x200A), (0x2028, 0x2029), (0x202F, 0x202F), (0x205F, 0x205F), (0x3000, 0x3000)]

def Within (range : Nat × Nat) (n : Nat) : Prop :=
  range.1 ≤ n ∧ n ≤ range.2

instance (range : Nat × Nat) (n : Nat) : Decidable (Within range n) :=
  inferInstanceAs (Decidable (_ ∧ _))

theorem eq_underscore_iff (c : Char) : c = '_' ↔ Within (0x5F, 0x5F) c.toNat := by
  have hcode : '_'.toNat = 0x5F := rfl
  constructor
  · rintro rfl
    decide
  · intro h
    apply Char.toNat_inj.mp
    rw [hcode]
    exact Nat.le_antisymm h.2 h.1

theorem isBlank_iff (c : Char) :
    isBlank c = true ↔ ∃ range ∈ spacingRanges.tail, Within range c.toNat := by
  simp only [isBlank, spacingRanges, List.tail_cons, List.mem_cons, List.not_mem_nil, or_false,
    Within, exists_eq_or_imp, exists_eq_left, Bool.or_eq_true, Bool.and_eq_true,
    decide_eq_true_eq, beq_iff_eq]
  omega

theorem sameSpacing_of_ranges {c d : Char}
    (h : ∀ range ∈ spacingRanges, Within range d.toNat ↔ Within range c.toNat) :
    SameSpacing c d where
  underscore := by
    rw [eq_underscore_iff, eq_underscore_iff]
    exact h _ (by decide)
  blank := by
    rw [Bool.eq_iff_iff, isBlank_iff, isBlank_iff]
    exact exists_congr fun range => and_congr_right fun hrange =>
      h range (List.mem_of_mem_tail hrange)

/-- Whether a run moves no character from the range and none into it. -/
def CaseRun.isClearOf (r : CaseRun) (range : Nat × Nat) : Bool :=
  (r.last < range.1 || range.2 < r.first) &&
    (r.last + r.shift < range.1 || range.2 < r.first + r.shift)

theorem CaseRun.within_iff {r : CaseRun} {range : Nat × Nat} (hclear : r.isClearOf range = true)
    (hpos : 0 < range.1) {c : Char} (hc : r.holds c.toNat = true) :
    Within range (Char.ofNat (c.toNat + r.shift).toNat).toNat ↔ Within range c.toNat := by
  -- A number that is no code point stands for the character zero, which is in no range either.
  have hcode (n : Nat) : (Char.ofNat n).toNat = n ∨ (Char.ofNat n).toNat = 0 := by
    by_cases hn : n.isValidChar
    · left
      rw [Char.ofNat, dif_pos hn]
      rfl
    · right
      rw [Char.ofNat, dif_neg hn]
      rfl
  have hmoved := hcode (c.toNat + r.shift).toNat
  simp only [isClearOf, holds, Bool.and_eq_true, Bool.or_eq_true, decide_eq_true_eq] at hclear hc
  simp only [Within]
  omega

/-- A table that is clear of the blanks and of the underscore leaves them alone. -/
theorem sameSpacing_mapCase {runs : Array CaseRun}
    (hruns : runs.toList.all (fun r => spacingRanges.all r.isClearOf) = true) (c : Char) :
    SameSpacing c (mapCase runs c) := by
  unfold mapCase
  split
  · rename_i r hr
    apply sameSpacing_of_ranges
    intro range hrange
    have hclear := List.all_eq_true.mp hruns r (Array.mem_of_find?_eq_some hr).val
    have hpos : ∀ range ∈ spacingRanges, 0 < range.1 := by decide
    have hheld : r.holds c.toNat = true := by simpa using Array.find?_some hr
    exact CaseRun.within_iff (List.all_eq_true.mp hclear range hrange) (hpos range hrange) hheld
  · exact ⟨rfl, Iff.rfl⟩

theorem lowerRuns_clear : lowerRuns.toList.all (fun r => spacingRanges.all r.isClearOf) = true := by
  decide +kernel

theorem titleRuns_clear : titleRuns.toList.all (fun r => spacingRanges.all r.isClearOf) = true := by
  decide +kernel

/-- Whether a piece of text can stand for a character: it is not empty, and all of it counts between
words as the character does. -/
structure StandsFor (piece : List Char) (c : Char) : Prop where
  nonempty : piece ≠ []
  spacing : ∀ d ∈ piece, SameSpacing c d

/-- Whether a property of characters is a matter of blanks and underscores alone. -/
def IsSpacingProperty (P : Char → Prop) : Prop :=
  ∀ c d, SameSpacing c d → (P d ↔ P c)

theorem StandsFor.exists_mem {piece : List Char} {c : Char} (h : StandsFor piece c)
    {P : Char → Prop} (hP : IsSpacingProperty P) : (∃ d ∈ piece, P d) ↔ P c := by
  constructor
  · rintro ⟨d, hd, hPd⟩
    exact (hP c d (h.spacing d hd)).mp hPd
  · intro hPc
    have hhead := List.head_mem h.nonempty
    exact ⟨_, hhead, (hP c _ (h.spacing _ hhead)).mpr hPc⟩

def isWordChar (c : Char) : Bool :=
  !isBlank c && c != '_'

theorem standsFor_of_isWordChar {piece : List Char} {c : Char} (hne : piece ≠ [])
    (hc : isWordChar c = true) (hpiece : piece.all isWordChar = true) : StandsFor piece c := by
  have hparts {d : Char} (h : isWordChar d = true) : isBlank d = false ∧ d ≠ '_' := by
    simpa [isWordChar] using h
  refine ⟨hne, fun d hd => ?_⟩
  have hd' := hparts (List.all_eq_true.mp hpiece d hd)
  exact ⟨hd'.1.trans (hparts hc).1.symm, iff_of_false hd'.2 (hparts hc).2⟩

theorem standsFor_lowerChar (before : List Char) (c : Char) (after : List Char) :
    StandsFor (lowerChar before c after) c := by
  unfold lowerChar
  split
  · rename_i hsigma
    rw [beq_iff_eq.mp hsigma]
    apply standsFor_of_isWordChar (by simp) (by decide)
    split <;> decide
  · split
    · rename_i hdotted
      rw [beq_iff_eq.mp hdotted]
      exact standsFor_of_isWordChar (by simp) (by decide) (by decide)
    · exact ⟨by simp, by simpa using sameSpacing_mapCase lowerRuns_clear c⟩

theorem longTitles_clear : longTitles.toList.all (fun entry => !entry.2.isEmpty &&
    isWordChar (Char.ofNat entry.1) && (entry.2.map Char.ofNat).all isWordChar) = true := by
  decide +kernel

theorem standsFor_titleChar (c : Char) : StandsFor (titleChar c) c := by
  unfold titleChar
  split
  · rename_i n codes hfound
    have hcode : n = c.toNat := by simpa using Array.find?_some hfound
    have hclear := List.all_eq_true.mp longTitles_clear _ (Array.mem_of_find?_eq_some hfound).val
    simp only [Bool.and_eq_true, hcode, Char.ofNat_toNat] at hclear
    exact standsFor_of_isWordChar (by simpa using hclear.1.1) hclear.1.2 hclear.2
  · exact ⟨by simp, by simpa using sameSpacing_mapCase titleRuns_clear c⟩

/-- A change to lower case keeps what is a matter of blanks and underscores. -/
theorem exists_mem_lowerFrom {P : Char → Prop} (hP : IsSpacingProperty P) (before cs : List Char) :
    (∃ d ∈ lowerFrom before cs, P d) ↔ ∃ c ∈ cs, P c := by
  induction cs generalizing before with
  | nil => simp [lowerFrom]
  | cons c cs ih =>
    simp only [lowerFrom, List.mem_append, List.mem_cons, or_and_right, exists_or, exists_eq_left,
      (standsFor_lowerChar before c cs).exists_mem hP, ih]

theorem exists_mem_capitalize {P : Char → Prop} (hP : IsSpacingProperty P) (cs : List Char) :
    (∃ d ∈ capitalize cs, P d) ↔ ∃ c ∈ cs, P c := by
  cases cs with
  | nil => simp [capitalize]
  | cons c cs =>
    simp only [capitalize, List.mem_append, List.mem_cons, or_and_right, exists_or, exists_eq_left,
      (standsFor_titleChar c).exists_mem hP, exists_mem_lowerFrom hP]

/-! Case within ASCII. -/

/-- What holds of the first 128 code points holds of every ASCII character. -/
theorem ascii_forall {P : Char → Prop} (h : ∀ n < 128, P (Char.ofNat n)) {c : Char}
    (hc : c.toNat < 128) : P c := by
  have hchar := h c.toNat hc
  rwa [Char.ofNat_toNat] at hchar

def CaseRun.image (r : CaseRun) (c : Char) : Char :=
  if r.holds c.toNat then Char.ofNat (c.toNat + r.shift).toNat else c

def asciiCapitals : CaseRun := ⟨0x41, 0x5A, 1, 32⟩

def asciiSmalls : CaseRun := ⟨0x61, 0x7A, 1, -32⟩

/-- Only the first run of a table is about ASCII. -/
theorem mapCase_ascii {runs : Array CaseRun} {r : CaseRun} {rest : List CaseRun}
    (hruns : runs.toList = r :: rest) (hrest : rest.all (fun r => 128 ≤ r.first) = true) {c : Char}
    (hc : c.toNat < 128) : mapCase runs c = r.image c := by
  have hbeyond : rest.find? (·.holds c.toNat) = none := by
    rw [List.find?_eq_none]
    intro q hq hheld
    have hfirst : 128 ≤ q.first := by simpa using List.all_eq_true.mp hrest q hq
    simp only [CaseRun.holds, Bool.and_eq_true, decide_eq_true_eq] at hheld
    omega
  unfold mapCase CaseRun.image
  rw [← Array.find?_toList, hruns, List.find?_cons, hbeyond]
  cases r.holds c.toNat <;> rfl

theorem lowerChar_ascii {c : Char} (hc : c.toNat < 128) (before after : List Char) :
    lowerChar before c after = [c.toLower] := by
  have hfirst : lowerRuns.toList = asciiCapitals :: lowerRuns.toList.tail := rfl
  have hplain : c ≠ 'Σ' ∧ c ≠ 'İ' ∧ asciiCapitals.image c = c.toLower :=
    ascii_forall (P := fun c => c ≠ 'Σ' ∧ c ≠ 'İ' ∧ asciiCapitals.image c = c.toLower)
      (by decide +kernel) hc
  rw [← mapCase_ascii hfirst (by decide +kernel) hc] at hplain
  simp [lowerChar, hplain]

theorem titleChar_ascii {c : Char} (hc : c.toNat < 128) : titleChar c = [c.toUpper] := by
  have hfirst : titleRuns.toList = asciiSmalls :: titleRuns.toList.tail := rfl
  have hlong : longTitles.toList.all (fun entry => 128 ≤ entry.1) = true := by decide +kernel
  have hshort : longTitles.find? (·.1 == c.toNat) = none := by
    rw [Array.find?_eq_none]
    intro entry hentry hcode
    have hbeyond : 128 ≤ entry.1 := by simpa using List.all_eq_true.mp hlong entry hentry.val
    have heq : entry.1 = c.toNat := by simpa using hcode
    omega
  have hupper : asciiSmalls.image c = c.toUpper :=
    ascii_forall (P := fun c => asciiSmalls.image c = c.toUpper) (by decide +kernel) hc
  rw [titleChar, hshort, mapCase_ascii hfirst (by decide +kernel) hc, hupper]

/-- Two ways to write a letter; what is no letter has one. -/
def SameLetter (c d : Char) : Prop :=
  d = c ∨ d = c.toLower ∨ d = c.toUpper

theorem SameLetter.ascii {c d : Char} (h : SameLetter c d) (hc : c.toNat < 128) :
    d.toNat < 128 ∧ d.toLower = c.toLower ∧ d.toUpper = c.toUpper ∧ (d = '_' ↔ c = '_') := by
  rcases h with rfl | rfl | rfl
  · exact ⟨hc, rfl, rfl, Iff.rfl⟩
  · exact ascii_forall (P := fun c => c.toLower.toNat < 128 ∧ c.toLower.toLower = c.toLower ∧
      c.toLower.toUpper = c.toUpper ∧ (c.toLower = '_' ↔ c = '_')) (by decide +kernel) hc
  · exact ascii_forall (P := fun c => c.toUpper.toNat < 128 ∧ c.toUpper.toLower = c.toLower ∧
      c.toUpper.toUpper = c.toUpper ∧ (c.toUpper = '_' ↔ c = '_')) (by decide +kernel) hc

/-- An ASCII text and one that differs from it by the case of letters. -/
def Recased (cs ds : List Char) : Prop :=
  List.Forall₂ (fun c d => c.toNat < 128 ∧ SameLetter c d) cs ds

theorem Recased.lowerFrom_eq {cs ds : List Char} (h : Recased cs ds) (before before' : List Char) :
    lowerFrom before' ds = lowerFrom before cs := by
  induction h generalizing before before' with
  | nil => rfl
  | cons hcd _ ih =>
    have hd := hcd.2.ascii hcd.1
    rw [lowerFrom, lowerFrom, lowerChar_ascii hd.1, lowerChar_ascii hcd.1, hd.2.1, ih]

theorem Recased.capitalize_eq {cs ds : List Char} (h : Recased cs ds) :
    capitalize ds = capitalize cs := by
  cases h with
  | nil => rfl
  | cons hcd hrest =>
    have hd := hcd.2.ascii hcd.1
    have hlower := Recased.lowerFrom_eq hrest
    rw [capitalize, capitalize, titleChar_ascii hd.1, titleChar_ascii hcd.1, hd.2.2.1, hlower]

end SwiftExpansion.Text
