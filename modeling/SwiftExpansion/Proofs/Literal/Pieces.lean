import SwiftExpansion.Proofs.Literal.Delimiters

/-!
# The pieces of a body

A body is cut into pieces from left to right, without a look at what was cut before. `Cut` says so
as a grammar: a character stands for itself, an escape mark takes the character behind it along, or
a number in braces, and a mark with nothing behind it ends the body as it is. Every body has one
such cut, so that what holds of the pieces of all bodies is shown one piece after the other.
-/
namespace SwiftExpansion.Literal

structure IsNumeral (ds : List Char) : Prop where
  one_le : 1 ≤ ds.length
  le_eight : ds.length ≤ 8
  isHexDigit : ∀ d ∈ ds, isHexDigit d = true

theorem takeWhile_numeral {ds : List Char} (h : ∀ d ∈ ds, isHexDigit d = true) (cs : List Char) :
    (ds ++ '\x7d' :: cs).takeWhile isHexDigit = ds := by
  induction ds with
  | nil => rfl
  | cons d ds ih =>
    rw [List.forall_mem_cons] at h
    rw [List.cons_append, List.takeWhile_cons_of_pos h.1, ih h.2]

theorem bracedNumber?_numeral {ds : List Char} (h : IsNumeral ds) (cs : List Char) :
    bracedNumber? ('\x7b' :: (ds ++ '\x7d' :: cs)) = some (hexValue ds, ds.length + 2) := by
  simp [bracedNumber?, takeWhile_numeral h.isHexDigit, h.one_le, h.le_eight]

theorem eq_of_bracedNumber? {cs : List Char} {n length : Nat}
    (h : bracedNumber? cs = some (n, length)) :
    ∃ ds rest, IsNumeral ds ∧ cs = '\x7b' :: (ds ++ '\x7d' :: rest) ∧ n = hexValue ds := by
  unfold bracedNumber? at h
  split at h
  · rename_i cs
    simp only [Option.ite_none_right_eq_some, Bool.and_eq_true, decide_eq_true_eq, beq_iff_eq,
      Option.some.injEq, Prod.mk.injEq] at h
    obtain ⟨⟨⟨hone, height⟩, hclose⟩, hvalue, -⟩ := h
    obtain ⟨rest, hrest⟩ := List.head?_eq_some_iff.mp hclose
    have hsplit := List.prefix_iff_eq_append.mp (List.takeWhile_prefix (l := cs) isHexDigit)
    rw [hrest] at hsplit
    exact ⟨_, rest, ⟨hone, height, fun d hd => List.mem_takeWhile_imp hd⟩,
      congrArg _ hsplit.symm, hvalue.symm⟩
  · cases h

/-! ## One piece at a time -/

/-- What is passed over leaves no pieces. -/
theorem piecesFrom_eq (k skip : Nat) (cs : List Char) :
    piecesFrom k skip cs = pieces k (cs.drop skip) := by
  induction cs generalizing skip with
  | nil => simp [pieces, piecesFrom]
  | cons c cs ih =>
    cases skip with
    | zero => rfl
    | succ skip => simpa [piecesFrom] using ih skip

theorem pieces_plain {k : Nat} {c : Char} {cs : List Char}
    (h : c = '\\' → Text.leadingRun '#' cs < k) :
    pieces k (c :: cs) = .plain c :: pieces k cs := by
  have hmark : (c == '\\' && (pounds k).isPrefixOf cs) = false := by
    by_cases hc : c = '\\'
    · simp [hc, isPrefixOf_pounds, h hc]
    · simp [hc]
  simp [pieces, piecesFrom, hmark]

theorem piecesFrom_mark (k : Nat) (e : Char) (cs : List Char) (length : Nat) :
    piecesFrom k (k + 1 + length) (pounds k ++ e :: cs) = pieces k (cs.drop length) := by
  rw [piecesFrom_eq, Nat.add_assoc, ← List.drop_drop, drop_pounds_append, Nat.add_comm,
    List.drop_succ_cons]

/-- An escape mark takes the next character along. -/
theorem pieces_escaped {k : Nat} {e : Char} {cs : List Char}
    (h : e = 'u' → bracedNumber? cs = none) :
    pieces k (escapeMark k ++ e :: cs) = .escaped e :: pieces k cs := by
  have hnumber : (if e = 'u' then bracedNumber? cs else none) = none := by
    by_cases he : e = 'u' <;> simp [he, h]
  have hskip := piecesFrom_mark k e cs 0
  simp only [Nat.add_zero, List.drop_zero] at hskip
  simp [pieces, escapeMark, piecesFrom, hnumber, hskip]

/-- An escape mark in front of a number in braces takes all of it along. -/
theorem pieces_scalar {k : Nat} {ds : List Char} (h : IsNumeral ds) (cs : List Char) :
    pieces k (escapeMark k ++ 'u' :: '\x7b' :: (ds ++ '\x7d' :: cs)) =
      .scalar (hexValue ds) :: pieces k cs := by
  have hskip := piecesFrom_mark k 'u' ('\x7b' :: (ds ++ '\x7d' :: cs)) (ds.length + 2)
  simp only [List.drop_succ_cons, List.drop_length_add_append] at hskip
  simp [pieces, escapeMark, piecesFrom, bracedNumber?_numeral h, hskip]

/-- Without an escape mark every character stands for itself. -/
theorem pieces_eq_map_plain {k : Nat} {cs : List Char} (h : ¬ escapeMark k <:+: cs) :
    pieces k cs = cs.map .plain := by
  induction cs with
  | nil => rfl
  | cons c cs ih =>
    have hmark : c = '\\' → Text.leadingRun '#' cs < k := by
      rintro rfl
      by_contra hrun
      have hpounds := (pounds_prefix_iff k cs).mpr (Nat.not_lt.mp hrun)
      exact h (List.cons_prefix_cons.mpr ⟨rfl, hpounds⟩).isInfix
    rw [pieces_plain hmark, ih fun hcs => h (hcs.trans (List.suffix_cons c cs).isInfix),
      List.map_cons]

theorem pieces_escapeMark (k : Nat) : pieces k (escapeMark k) = (escapeMark k).map .plain := by
  have hpounds : ¬ escapeMark k <:+: pounds k := by
    intro h
    exact not_mem_pounds (by decide) k (h.subset (List.mem_cons_self (a := '\\')))
  have hfirst : pieces k (escapeMark k) = .plain '\\' :: pieces k (pounds k) := by
    have hdrop : (pounds k).drop k = [] := List.drop_eq_nil_of_le (by simp)
    simp [pieces, escapeMark, piecesFrom, hdrop]
  rw [hfirst, pieces_eq_map_plain hpounds]
  rfl

theorem mapM_content_plain (multiline : Bool) (cs : List Char) :
    (cs.map .plain).mapM (Piece.content multiline) = .ok (cs.map ([·])) := by
  induction cs with
  | nil => rfl
  | cons c cs ih =>
    rw [List.map_cons, List.mapM_cons, ih]
    rfl

theorem unescape_of_interpolation {k : Nat} {body : List Char}
    (h : (pieces k body).any Piece.isInterpolation = true) (multiline : Bool) :
    unescape k multiline body = .ok none := by
  simp only [unescape, h, if_true]

theorem unescape_of_no_interpolation {k : Nat} {body : List Char}
    (h : (pieces k body).any Piece.isInterpolation = false) (multiline : Bool) :
    unescape k multiline body =
      (fun parts => some parts.flatten) <$> (pieces k body).mapM (Piece.content multiline) := by
  simp only [unescape, h, Bool.false_eq_true, if_false]
  cases (pieces k body).mapM (Piece.content multiline) <;> rfl

theorem unescape_eq_of_content {k : Nat} {multiline : Bool} {body content : List Char}
    (hany : (pieces k body).any Piece.isInterpolation = false)
    (hcontent : (pieces k body).mapM (Piece.content multiline) = .ok (content.map ([·]))) :
    unescape k multiline body = .ok (some content) := by
  have hflat : (content.map ([·])).flatten = content := by
    simp [← List.flatMap_def]
  rw [unescape_of_no_interpolation hany, hcontent]
  exact congrArg (Except.ok ∘ some) hflat

/-! ## The cut of a body -/

/-- How a body is cut into pieces. -/
inductive Cut (k : Nat) : List Char → List Piece → Prop
  | nil : Cut k [] []
  | plain {c : Char} {body : List Char} {ps : List Piece}
      (hmark : c = '\\' → Text.leadingRun '#' body < k) (hrest : Cut k body ps) :
      Cut k (c :: body) (.plain c :: ps)
  | escaped {e : Char} {body : List Char} {ps : List Piece}
      (hnumber : e = 'u' → bracedNumber? body = none) (hrest : Cut k body ps) :
      Cut k (escapeMark k ++ e :: body) (.escaped e :: ps)
  | scalar {ds body : List Char} {ps : List Piece} (hds : IsNumeral ds) (hrest : Cut k body ps) :
      Cut k (escapeMark k ++ 'u' :: '\x7b' :: (ds ++ '\x7d' :: body)) (.scalar (hexValue ds) :: ps)
  | bare : Cut k (escapeMark k) ((escapeMark k).map .plain)

theorem cut_mark {k : Nat} (e : Char) (rest : List Char)
    (ih : ∀ cs : List Char, cs.length ≤ rest.length → Cut k cs (pieces k cs)) :
    Cut k (escapeMark k ++ e :: rest) (pieces k (escapeMark k ++ e :: rest)) := by
  cases hnumber : if e == 'u' then bracedNumber? rest else none with
  | none =>
    have hplain : e = 'u' → bracedNumber? rest = none := by
      rintro rfl
      exact hnumber
    rw [pieces_escaped hplain]
    exact .escaped hplain (ih rest (Nat.le_refl _))
  | some number =>
    obtain ⟨he, hbraced⟩ := Option.ite_none_right_eq_some.mp hnumber
    obtain ⟨ds, tail, hds, rfl, -⟩ := eq_of_bracedNumber? hbraced
    rw [beq_iff_eq.mp he, pieces_scalar hds]
    apply Cut.scalar hds
    apply ih
    simp only [List.length_cons, List.length_append]
    omega

theorem cut_pieces (k : Nat) (body : List Char) : Cut k body (pieces k body) := by
  -- An escape takes several characters at once, so the induction is on the length.
  induction hlength : body.length using Nat.strong_induction_on generalizing body with
  | _ n ih =>
    cases body with
    | nil => exact .nil
    | cons c cs =>
      by_cases hmark : c = '\\' ∧ pounds k <+: cs
      · obtain ⟨rfl, tail, rfl⟩ := hmark
        cases tail with
        | nil =>
          rw [List.append_nil]
          exact pieces_escapeMark k ▸ .bare
        | cons e rest =>
          apply cut_mark e rest
          intro rest' hrest
          apply ih _ _ rest' rfl
          simp at hlength
          omega
      · have hrun : c = '\\' → Text.leadingRun '#' cs < k := by
          intro hc
          by_contra hrun
          exact hmark ⟨hc, (pounds_prefix_iff k cs).mpr (Nat.not_lt.mp hrun)⟩
        rw [pieces_plain hrun]
        apply Cut.plain hrun
        apply ih _ _ cs rfl
        simp at hlength
        omega

end SwiftExpansion.Literal
