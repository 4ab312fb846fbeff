import SwiftExpansion.Proofs.Literal.Pieces

/-!
# Written literals read back

The grammar of a body on one line, `Spells`, stands between the writer and the reader: what the
writer puts between its delimiters spells the text, and the reader finds in any body the text that
it spells. The delimiters are found again because a body never starts with a quote and the pounds
around it are counted at the front. Line ends are covered as escapes only; multi-line literals are
never written.
-/
namespace SwiftExpansion.Literal

/-- How a body on one line spells a text between `k` pounds: character by character, each either as
it is or escaped. -/
inductive Spells (k : Nat) : List Char → List Char → Prop
  | nil : Spells k [] []
  | plain {c : Char} {body content : List Char} (hline : c ≠ '\r' ∧ c ≠ '\n')
      (hrun : isDelicate c → Text.leadingRun '#' body < k) (h : Spells k body content) :
      Spells k (c :: body) (c :: content)
  | escaped {e c : Char} {body content : List Char} (he : escapedChar? e = some c)
      (h : Spells k body content) : Spells k (escapeMark k ++ e :: body) (c :: content)

/-! ## The pieces of what spells a text -/

theorem ne_of_escapedChar? {e c d : Char} (h : escapedChar? e = some c)
    (hd : escapedChar? d = none) : e ≠ d := by
  rintro rfl
  rw [hd] at h
  cases h

/-- No piece of a body that spells a text is an interpolation, and each stands for one character. -/
theorem Spells.pieces_content {k : Nat} {body content : List Char} (h : Spells k body content)
    (multiline : Bool) :
    (pieces k body).any Piece.isInterpolation = false ∧
      (pieces k body).mapM (Piece.content multiline) = .ok (content.map ([·])) := by
  induction h with
  | nil => exact ⟨rfl, rfl⟩
  | @plain c body content hline hrun h ih =>
    have hc : c = '\\' → Text.leadingRun '#' body < k := by
      rintro rfl
      exact hrun rfl
    obtain ⟨hany, hcontent⟩ := ih
    rw [pieces_plain hc, List.any_cons, List.mapM_cons, hcontent, hany]
    exact ⟨rfl, rfl⟩
  | @escaped e c body content he h ih =>
    obtain ⟨hany, hcontent⟩ := ih
    have hnumber : e = 'u' → bracedNumber? body = none :=
      fun hu => absurd hu (ne_of_escapedChar? he rfl)
    rw [pieces_escaped hnumber, List.any_cons, List.mapM_cons, hcontent, hany]
    refine ⟨?_, ?_⟩
    · simp [Piece.isInterpolation, ne_of_escapedChar? he (d := '(') rfl]
    · simp only [Piece.content, he]
      rfl

theorem Spells.unescape_eq {k : Nat} {body content : List Char} (h : Spells k body content)
    (multiline : Bool) : unescape k multiline body = .ok (some content) := by
  obtain ⟨hany, hcontent⟩ := h.pieces_content multiline
  exact unescape_eq_of_content hany hcontent

theorem Spells.single_line {k : Nat} {body content : List Char} (h : Spells k body content) :
    '\r' ∉ body ∧ '\n' ∉ body := by
  induction h with
  | nil => simp
  | plain hline hrun h ih => simp [hline.1.symm, hline.2.symm, ih]
  | @escaped e c body content he h ih =>
    have hr : e ≠ '\r' := ne_of_escapedChar? he rfl
    have hn : e ≠ '\n' := ne_of_escapedChar? he rfl
    simp [escapeMark, not_mem_pounds, hr.symm, hn.symm, ih]

/-! ## What is written spells the text -/

theorem poundCount_cons_le {c : Char} {cs : List Char} {k : Nat} (h : poundCount (c :: cs) ≤ k) :
    (isDelicate c → Text.leadingRun '#' cs < k) ∧ poundCount cs ≤ k := by
  rw [poundCount] at h
  split at h
  · exact ⟨fun _ => by omega, by omega⟩
  · exact ⟨fun hc => absurd hc ‹_›, h⟩

/-- Writing a text does not change the run of pounds at its front: an escape starts with a
backslash. -/
theorem leadingRun_flatMap_writtenChar (k : Nat) (cs : List Char) :
    Text.leadingRun '#' (cs.flatMap (writtenChar k)) = Text.leadingRun '#' cs := by
  induction cs with
  | nil => rfl
  | cons c cs ih =>
    rw [List.flatMap_cons, writtenChar]
    by_cases hr : c = '\r'
    · subst hr
      rfl
    · by_cases hn : c = '\n'
      · subst hn
        rfl
      · simp [hr, hn, Text.leadingRun_cons, ih]

theorem spells_flatMap_writtenChar {k : Nat} {cs : List Char} (h : poundCount cs ≤ k) :
    Spells k (cs.flatMap (writtenChar k)) cs := by
  induction cs with
  | nil => exact .nil
  | cons c cs ih =>
    obtain ⟨hrun, htail⟩ := poundCount_cons_le h
    rw [List.flatMap_cons, writtenChar]
    by_cases hr : c = '\r'
    · subst hr
      simpa using Spells.escaped (e := 'r') rfl (ih htail)
    · by_cases hn : c = '\n'
      · subst hn
        simpa using Spells.escaped (e := 'n') rfl (ih htail)
      · rw [← leadingRun_flatMap_writtenChar k] at hrun
        simpa [hr, hn] using Spells.plain ⟨hr, hn⟩ hrun (ih htail)

theorem spells_writtenBody (cs : List Char) :
    Spells (poundCount cs) (writtenBody (poundCount cs) cs) cs := by
  by_cases hq : cs.head? = some '"'
  · obtain ⟨rest, rfl⟩ := List.head?_eq_some_iff.mp hq
    have hcount := (poundCount_cons_le (Nat.le_refl (poundCount ('"' :: rest)))).2
    have hrest := spells_flatMap_writtenChar hcount
    simpa [writtenBody, writtenChar] using Spells.escaped (e := '"') rfl hrest
  · simpa [writtenBody, hq] using spells_flatMap_writtenChar (Nat.le_refl (poundCount cs))

/-! ## The delimiters -/

theorem encode_eq_enclosed (cs : List Char) :
    encode cs = enclosed (poundCount cs) ['"'] (writtenBody (poundCount cs) cs) := by
  simp [encode, enclosed]

theorem leadingRun_encode (cs : List Char) :
    Text.leadingRun '#' (encode cs) = poundCount cs := by
  rw [encode_eq_enclosed, leadingRun_enclosed _ _ rfl]

/-- A body never starts with a quote: a quote at the front is escaped. -/
theorem writtenBody_cons (k : Nat) (c : Char) (cs : List Char) :
    ∃ d rest, d ≠ '"' ∧ writtenBody k (c :: cs) = d :: rest := by
  by_cases hq : c = '"'
  · subst hq
    exact ⟨'\\', _, by decide, rfl⟩
  · by_cases hr : c = '\r'
    · subst hr
      exact ⟨'\\', _, by decide, rfl⟩
    · by_cases hn : c = '\n'
      · subst hn
        exact ⟨'\\', _, by decide, rfl⟩
      · exact ⟨c, cs.flatMap (writtenChar k), hq, by simp [writtenBody, writtenChar, hq, hr, hn]⟩

/-- Triple quotes never open what is written. The first quote is followed by the body, and where
that is empty, there are no pounds either and the closing quote ends the literal. -/
theorem tripleQuote_not_opening (cs : List Char) :
    ¬ tripleQuote <+: (encode cs).drop (poundCount cs) := by
  cases cs with
  | nil => decide
  | cons c cs =>
    obtain ⟨d, rest, hd, hbody⟩ := writtenBody_cons (poundCount (c :: cs)) c cs
    rw [encode_eq_enclosed, drop_enclosed, hbody]
    intro h
    have htail := (List.cons_prefix_cons.mp h).2
    exact hd (List.cons_prefix_cons.mp htail).1.symm

theorem delimited?_encode (cs : List Char) :
    delimited? (encode cs) = some ⟨poundCount cs, false, writtenBody (poundCount cs) cs⟩ := by
  have hopening := tripleQuote_not_opening cs
  rw [encode_eq_enclosed, drop_enclosed] at hopening
  rw [encode_eq_enclosed]
  exact delimited?_single (enclosed_ne_triple hopening)

theorem decode_encode (cs : List Char) : decode (encode cs) = .ok (some cs) := by
  have hspells := spells_writtenBody cs
  have htrim : Text.trim (encode cs) = encode cs := by
    rw [encode_eq_enclosed]
    exact trim_enclosed _ _ (by simp) (by simp)
  have hdelimited : delimited? (Text.trim (encode cs)) =
      some ⟨poundCount cs, false, writtenBody (poundCount cs) cs⟩ := by
    rw [htrim, delimited?_encode]
  rw [decode_eq_unescape hdelimited (Delimited.text_of_single_line hspells.single_line _),
    hspells.unescape_eq]

theorem read_encode (cs : List Char) :
    read (String.ofList (encode cs)) = .ok (some (String.ofList cs)) := by
  simp [read, decode_encode]

/-- Reading the literal of a text gives the text: it is never refused, and it never passes for an
interpolation. -/
theorem read_write (s : String) : read (write s) = .ok (some s) := by
  rw [write, read_encode, String.ofList_toList]

end SwiftExpansion.Literal
