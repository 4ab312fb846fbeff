import SwiftExpansion.Proofs.Fault
import SwiftExpansion.Proofs.Literal.Isolation

/-!
# Where an accepted literal ends

The reader takes the delimiters off both ends of a literal and does not look for them in between, so
that a scan from left to right may end elsewhere: early, at a quote of the body with the pounds of
the delimiter behind it, or never, where the body ends in an escape mark that takes the closing
quote along. These are the only two ways in which reader and scan part, and both show in the content
that is read. A literal with none of them is scanned to its end.
-/
namespace SwiftExpansion.Literal

/-- Whether a scan passes over a body, by its pieces: no quote that stands for itself has the pounds
of the delimiter behind it, and no escape mark is left open at the end. -/
structure IsSealed (k : Nat) (ps : List Piece) : Prop where
  not_closed : ¬ ('"' :: pounds k).map .plain <:+: ps
  not_open : ¬ (escapeMark k).map .plain <:+ ps

theorem Cut.map_pounds_prefix_iff {k : Nat} {body : List Char} {ps : List Piece} (h : Cut k body ps)
    (n : Nat) : (pounds n).map .plain <+: ps ↔ pounds n <+: body := by
  induction n generalizing body ps with
  | zero => simp [pounds]
  | succ n ih =>
    have hpounds : pounds (n + 1) = '#' :: pounds n := List.replicate_succ
    rw [hpounds, List.map_cons]
    cases h with
    | nil => simp
    | plain hmark hrest => simp [List.cons_prefix_cons, ih hrest]
    | escaped hnumber hrest => simp [escapeMark, List.cons_prefix_cons]
    | scalar hds hrest => simp [escapeMark, List.cons_prefix_cons]
    | bare => simp [escapeMark, List.cons_prefix_cons]

/-- A piece in front matters only if a delimiter starts with it, or an open mark. -/
theorem isSealed_cons_iff {k : Nat} {p : Piece} {ps : List Piece}
    (hclosed : ¬ ('"' :: pounds k).map .plain <+: p :: ps)
    (hopen : (escapeMark k).map .plain ≠ p :: ps) : IsSealed k (p :: ps) ↔ IsSealed k ps := by
  have hinfix : ('"' :: pounds k).map .plain <:+: p :: ps ↔
      ('"' :: pounds k).map .plain <:+: ps := by
    rw [List.infix_cons_iff, or_iff_right hclosed]
  have hback : (escapeMark k).map .plain <:+ p :: ps ↔ (escapeMark k).map .plain <:+ ps := by
    rw [List.suffix_cons_iff, or_iff_right hopen]
  constructor
  · intro h
    exact ⟨mt hinfix.mpr h.not_closed, mt hback.mpr h.not_open⟩
  · intro h
    exact ⟨mt hinfix.mp h.not_closed, mt hback.mp h.not_open⟩

/-! ## The scan of a body -/

def IsScanned (k : Nat) (body : List Char) : Prop :=
  scanBody k 0 (body ++ '"' :: pounds k) = some (body.length + (k + 1))

theorem map_add_eq_some_iff {x : Option Nat} {m n : Nat} :
    x.map (· + n) = some (m + n) ↔ x = some m := by
  cases x <;> simp

theorem leadingRun_append_close (k : Nat) (body : List Char) :
    Text.leadingRun '#' (body ++ '"' :: pounds k) = Text.leadingRun '#' body :=
  Text.leadingRun_append_cons (by decide) body (pounds k)

theorem isScanned_nil (k : Nat) : IsScanned k [] := by
  simpa [IsScanned] using scanBody_close k []

theorem isScanned_cons_iff {k : Nat} {c : Char} {body : List Char}
    (h : isDelicate c → Text.leadingRun '#' body < k) :
    IsScanned k (c :: body) ↔ IsScanned k body := by
  rw [← leadingRun_append_close k] at h
  rw [IsScanned, List.cons_append, scanBody_plain h, List.length_cons, Nat.add_right_comm,
    map_add_eq_some_iff, IsScanned]

theorem isScanned_append_iff {k : Nat} {cs : List Char} (h : ∀ c ∈ cs, isDelicate c = false)
    (body : List Char) : IsScanned k (cs ++ body) ↔ IsScanned k body := by
  induction cs with
  | nil => rfl
  | cons c cs ih =>
    rw [List.forall_mem_cons] at h
    rw [List.cons_append, isScanned_cons_iff (by simp [h.1]), ih h.2]

theorem isScanned_escaped_iff (k : Nat) (e : Char) (body : List Char) :
    IsScanned k (escapeMark k ++ e :: body) ↔ IsScanned k body := by
  have hlength : (escapeMark k ++ e :: body).length + (k + 1) =
      body.length + (k + 1) + (k + 2) := by
    simp only [escapeMark, List.length_append, List.length_cons, length_pounds]
    omega
  rw [IsScanned, hlength, List.append_assoc, List.cons_append, scanBody_escaped,
    map_add_eq_some_iff, IsScanned]

theorem not_isScanned_quote {k : Nat} {body : List Char} (h : k ≤ Text.leadingRun '#' body) :
    ¬ IsScanned k ('"' :: body) := by
  rw [← leadingRun_append_close k, ← pounds_prefix_iff] at h
  have hstop : scanBody k 0 ('"' :: (body ++ '"' :: pounds k)) = some (k + 1) := by
    rw [scanBody, if_neg (by simp), if_pos ⟨rfl, h⟩]
  rw [IsScanned, List.cons_append, hstop, Option.some.injEq, List.length_cons]
  omega

/-- A mark at the end takes the closing quote along, and nothing closes the literal. -/
theorem not_isScanned_escapeMark (k : Nat) : ¬ IsScanned k (escapeMark k) := by
  have hpounds (n : Nat) : scanBody k 0 (pounds n) = none := by
    induction n with
    | zero => rfl
    | succ n ih =>
      have hcons : pounds (n + 1) = '#' :: pounds n := List.replicate_succ
      rw [hcons, scanBody_plain (by simp [isDelicate]), ih]
      rfl
  rw [IsScanned, scanBody_escaped, hpounds]
  simp

theorem isDelicate_of_isHexDigit {c : Char} (h : isHexDigit c = true) : isDelicate c = false := by
  by_contra hnot
  simp only [Bool.not_eq_false, isDelicate, Bool.or_eq_true, beq_iff_eq] at hnot
  rcases hnot with rfl | rfl <;> revert h <;> decide

theorem isScanned_scalar_iff {ds : List Char} (h : IsNumeral ds) (k : Nat) (body : List Char) :
    IsScanned k (escapeMark k ++ 'u' :: '\x7b' :: (ds ++ '\x7d' :: body)) ↔ IsScanned k body := by
  have hbraces : ∀ c ∈ '\x7b' :: (ds ++ ['\x7d']), isDelicate c = false := by
    intro c hc
    simp only [List.mem_cons, List.mem_append, List.not_mem_nil, or_false] at hc
    rcases hc with rfl | hc | rfl
    · rfl
    · exact isDelicate_of_isHexDigit (h.isHexDigit c hc)
    · rfl
  rw [isScanned_escaped_iff]
  simpa using isScanned_append_iff hbraces body

/-- The scan passes over a body exactly if it is sealed. -/
theorem Cut.isScanned_iff {k : Nat} {body : List Char} {ps : List Piece} (h : Cut k body ps) :
    IsScanned k body ↔ IsSealed k ps := by
  induction h with
  | nil => exact iff_of_true (isScanned_nil k) ⟨by simp, by simp [escapeMark]⟩
  | @plain c body ps hmark hrest ih =>
    have hpounds := hrest.map_pounds_prefix_iff k
    rw [pounds_prefix_iff] at hpounds
    by_cases hclosed : c = '"' ∧ k ≤ Text.leadingRun '#' body
    · obtain ⟨rfl, hlong⟩ := hclosed
      apply iff_of_false (not_isScanned_quote hlong)
      intro hsealed
      exact hsealed.not_closed (List.cons_prefix_cons.mpr ⟨rfl, hpounds.mpr hlong⟩).isInfix
    · have hplain : isDelicate c → Text.leadingRun '#' body < k := by
        intro hc
        simp only [isDelicate, Bool.or_eq_true, beq_iff_eq] at hc
        rcases hc with hc | hc
        · exact Nat.not_le.mp fun hlong => hclosed ⟨hc, hlong⟩
        · exact hmark hc
      rw [isScanned_cons_iff hplain, ih, isSealed_cons_iff]
      · intro hstart
        obtain ⟨hc, hps⟩ := List.cons_prefix_cons.mp hstart
        exact hclosed ⟨(Piece.plain.inj hc).symm, hpounds.mp hps⟩
      · intro hopen
        obtain ⟨hc, hps⟩ := List.cons.inj hopen
        have hlong := hpounds.mp (hps ▸ List.prefix_rfl)
        exact Nat.not_lt.mpr hlong (hmark (Piece.plain.inj hc).symm)
  | escaped hnumber hrest ih =>
    rw [isScanned_escaped_iff, ih, isSealed_cons_iff]
    · simp [List.cons_prefix_cons]
    · simp [escapeMark]
  | scalar hds hrest ih =>
    rw [isScanned_scalar_iff hds, ih, isSealed_cons_iff]
    · simp [List.cons_prefix_cons]
    · simp [escapeMark]
  | bare =>
    apply iff_of_false (not_isScanned_escapeMark k)
    intro hsealed
    exact hsealed.not_open List.suffix_rfl

theorem scan_enclosed_iff (k : Nat) (body : List Char) :
    scan k (enclosed k ['"'] body) = some (enclosed k ['"'] body).length ↔
      IsSealed k (pieces k body) := by
  have hopen : enclosed k ['"'] body = (pounds k ++ ['"']) ++ (body ++ '"' :: pounds k) := by
    simp [enclosed]
  have hlength : (enclosed k ['"'] body).length = body.length + (k + 1) + (k + 1) := by
    simp only [enclosed, List.length_append, List.length_cons, List.length_nil, length_pounds]
    omega
  rw [← (cut_pieces k body).isScanned_iff, hlength, hopen, scan, Text.dropFront?_append,
    Option.bind_some, map_add_eq_some_iff, IsScanned]

/-! ## What shows in the content -/

theorem content_split {multiline : Bool} {before after : List Piece} {cs : List Char}
    {parts : List (List Char)}
    (h : (before ++ cs.map Piece.plain ++ after).mapM (Piece.content multiline) = .ok parts) :
    ∃ front back, parts.flatten = front ++ cs ++ back ∧ (after = [] → back = []) := by
  simp only [List.mapM_append, Except.bind_eq_ok, Except.pure_eq_ok, mapM_content_plain] at h
  obtain ⟨front, ⟨start, hstart, middle, hmiddle, rfl⟩, back, hback, rfl⟩ := h
  cases hmiddle
  refine ⟨start.flatten, back.flatten, ?_, ?_⟩
  · simp [← List.flatMap_def]
  · rintro rfl
    cases hback
    rfl

/-- If neither a delimiter nor a mark at the end shows in what was read, the body is sealed. -/
theorem isSealed_of_content {k : Nat} {multiline : Bool} {ps : List Piece}
    {parts : List (List Char)} (h : ps.mapM (Piece.content multiline) = .ok parts)
    (hclosed : ¬ '"' :: pounds k <:+: parts.flatten) (hopen : ¬ escapeMark k <:+ parts.flatten) :
    IsSealed k ps where
  not_closed := by
    rintro ⟨before, after, rfl⟩
    obtain ⟨front, back, hparts, -⟩ := content_split h
    exact hclosed ⟨front, back, hparts.symm⟩
  not_open := by
    rintro ⟨before, rfl⟩
    rw [← List.append_nil (before ++ _)] at h
    obtain ⟨front, back, hparts, hback⟩ := content_split h
    rw [hback rfl, List.append_nil] at hparts
    exact hopen ⟨front, hparts.symm⟩

theorem exists_parts_of_read {source content : String} {k : Nat} {body : List Char}
    (htext : Text.trim source.toList = enclosed k ['"'] body)
    (htriple : ∀ inner, enclosed k ['"'] body ≠ enclosed k tripleQuote inner)
    (hread : read source = .ok (some content)) :
    ∃ parts, (pieces k body).mapM (Piece.content false) = .ok parts ∧
      content.toList = parts.flatten := by
  have hdelimited : delimited? (Text.trim source.toList) = some ⟨k, false, body⟩ := by
    rw [htext, delimited?_single htriple]
  rw [read_eq_some_iff, decode_of_delimited? hdelimited, Except.bind_eq_ok] at hread
  obtain ⟨text, htext, hread⟩ := hread
  rw [Delimited.eq_of_text htext] at hread
  cases hany : (pieces k body).any Piece.isInterpolation with
  | true =>
    rw [unescape_of_interpolation hany] at hread
    cases hread
  | false =>
    rw [unescape_of_no_interpolation hany, Except.map_eq_ok] at hread
    obtain ⟨parts, hparts, hcontent⟩ := hread
    exact ⟨parts, hparts, (Option.some.inj hcontent).symm⟩

/-- An accepted literal between single quotes is scanned to its end exactly if its body is sealed:
no quote closes it early, and no open mark takes the closing quote along. If the content shows
neither of them, then the literal is such a one. -/
theorem scan_eq_length_iff_of_read {source content : String} {k : Nat} {body : List Char}
    (htext : Text.trim source.toList = enclosed k ['"'] body)
    (htriple : ∀ inner, enclosed k ['"'] body ≠ enclosed k tripleQuote inner)
    (hread : read source = .ok (some content)) :
    (scan k (Text.trim source.toList) = some (Text.trim source.toList).length ↔
      IsSealed k (pieces k body)) ∧
    (¬ '"' :: pounds k <:+: content.toList → ¬ escapeMark k <:+ content.toList →
      scan k (Text.trim source.toList) = some (Text.trim source.toList).length) := by
  rw [htext, scan_enclosed_iff]
  refine ⟨Iff.rfl, fun hclosed hopen => ?_⟩
  obtain ⟨parts, hparts, hcontent⟩ := exists_parts_of_read htext htriple hread
  rw [hcontent] at hclosed hopen
  exact isSealed_of_content hparts hclosed hopen

theorem scan_eq_length_iff_of_read_rawQuote :
    read " #\"a\"b\\#n\"#" = .ok (some "a\"b\n") ∧
      scan 1 "#\"a\"b\\#n\"#".toList = some 10 ∧ IsSealed 1 (pieces 1 "a\"b\\#n".toList) := by
  have hread : read " #\"a\"b\\#n\"#" = .ok (some "a\"b\n") := by
    rw [read_eq_some_iff]
    decide
  have htext : Text.trim " #\"a\"b\\#n\"#".toList = enclosed 1 ['"'] "a\"b\\#n".toList := by decide
  have hboth := scan_eq_length_iff_of_read htext (enclosed_ne_triple (by decide)) hread
  have hscan := hboth.2 (by decide) (by decide)
  exact ⟨hread, hscan, hboth.1.mp hscan⟩

/-- A quote that closes the literal early, and a mark that leaves it open: both are accepted. -/
theorem scan_ne_length_innerQuote :
    (Text.trim "\"a\"b\"".toList = enclosed 0 ['"'] ['a', '"', 'b'] ∧
      ¬ tripleQuote <+: "\"a\"b\"".toList ∧ read "\"a\"b\"" = .ok (some "a\"b") ∧
      scan 0 "\"a\"b\"".toList = some 3) ∧
    (Text.trim "\"a\\\"".toList = enclosed 0 ['"'] ['a', '\\'] ∧
      ¬ tripleQuote <+: "\"a\\\"".toList ∧ read "\"a\\\"" = .ok (some "a\\") ∧
      scan 0 "\"a\\\"".toList = none) := by
  simp only [read_eq_some_iff]
  decide

end SwiftExpansion.Literal
