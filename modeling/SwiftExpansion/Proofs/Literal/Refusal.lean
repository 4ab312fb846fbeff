import SwiftExpansion.Proofs.Literal.Pieces
import SwiftExpansion.Proofs.Wire.Entries

/-!
# How literals are refused

A text that is no literal is refused, and so is the expression that it is given for. The reasons are
its delimiters, its lines, an unknown escape, or a number past the last character. There is one way
out of this: a number beyond 31 bits cannot even be compared with the last character, and where it
is the first fault to be met, the reader malfunctions. Interpolations are looked for before, so that
a literal with one of them has no content and no fault either.
-/
namespace SwiftExpansion

namespace Literal

/-- Whether the first piece that stands for nothing is a number beyond 31 bits, in a body without
interpolations. -/
structure Overflows (multiline : Bool) (ps : List Piece) : Prop where
  no_interpolation : ps.any Piece.isInterpolation = false
  first : ∃ before n after, ps = before ++ .scalar n :: after ∧
    (∀ p ∈ before, ∃ part, p.content multiline = .ok part) ∧ 0x80000000 ≤ n

/-- Whether a literal has delimiters and lines as it should, but an overflow in its body. -/
def IsOverflowing (source : String) : Prop :=
  ∃ d body, delimited? (Text.trim source.toList) = some d ∧ d.text = .ok body ∧
    Overflows d.multiline (pieces d.pounds body)

/-! ## The faults of a body -/

theorem content_eq_scalarTooLarge_iff {multiline : Bool} {p : Piece} :
    p.content multiline = .error .scalarTooLarge ↔ ∃ n, p = .scalar n ∧ 0x80000000 ≤ n := by
  cases p with
  | plain c => simp [Piece.content]
  | escaped c =>
    have hnot : (Piece.escaped c).content multiline ≠ .error .scalarTooLarge := by
      simp only [Piece.content]
      cases escapedChar? c with
      | some e => simp
      | none => cases multiline && c == '\n' <;> simp
    simp [hnot]
  | scalar n =>
    by_cases hlast : n < 0x110000
    · have hsmall : ¬ 0x80000000 ≤ n := by omega
      simp [Piece.content, scalarContent, hlast, hsmall]
    · by_cases hlarge : n < 0x80000000
      · simp [Piece.content, scalarContent, hlast, hlarge]
      · simp [Piece.content, scalarContent, hlast, hlarge, Nat.not_lt.mp hlarge]

theorem unescape_eq_scalarTooLarge_iff {k : Nat} {multiline : Bool} {body : List Char} :
    unescape k multiline body = .error .scalarTooLarge ↔ Overflows multiline (pieces k body) := by
  cases hany : (pieces k body).any Piece.isInterpolation with
  | true =>
    rw [unescape_of_interpolation hany]
    apply iff_of_false (by simp)
    intro h
    rw [h.no_interpolation] at hany
    cases hany
  | false =>
    rw [unescape_of_no_interpolation hany, Except.map_eq_error, Except.mapM_eq_error]
    constructor
    · rintro ⟨before, p, after, hps, hbefore, hp⟩
      obtain ⟨n, rfl, hn⟩ := content_eq_scalarTooLarge_iff.mp hp
      exact ⟨hany, before, n, after, hps, hbefore, hn⟩
    · rintro ⟨-, before, n, after, hps, hbefore, hn⟩
      exact ⟨before, .scalar n, after, hps, hbefore, content_eq_scalarTooLarge_iff.mpr ⟨n, rfl, hn⟩⟩

/-! ## The faults of lines and delimiters -/

theorem dedent_ne_scalarTooLarge (body : List Char) : dedent body ≠ .error .scalarTooLarge := by
  have hline (indent line : List Char) : dedentLine indent line ≠ .error .scalarTooLarge := by
    unfold dedentLine
    split
    · simp
    · split <;> simp
  unfold dedent
  split
  · dsimp only
    split
    · split
      · simp
      · rename_i f hlines
        intro hf
        cases hf
        obtain ⟨_, line, _, -, -, hfault⟩ := Except.mapM_eq_error.mp hlines
        exact hline _ line hfault
    · simp
  · simp

theorem Delimited.text_ne_scalarTooLarge (d : Delimited) : d.text ≠ .error .scalarTooLarge := by
  unfold Delimited.text
  split
  · exact dedent_ne_scalarTooLarge d.body
  · split <;> simp

theorem decode_eq_scalarTooLarge_iff {cs : List Char} :
    decode cs = .error .scalarTooLarge ↔ ∃ d body, delimited? (Text.trim cs) = some d ∧
      d.text = .ok body ∧ Overflows d.multiline (pieces d.pounds body) := by
  cases hdelimited : delimited? (Text.trim cs) with
  | none => simp [decode, hdelimited]
  | some d =>
    rw [decode_of_delimited? hdelimited, Except.bind_eq_error,
      or_iff_right d.text_ne_scalarTooLarge]
    simp [unescape_eq_scalarTooLarge_iff]

theorem read_eq_scalarTooLarge_iff {source : String} :
    read source = .error .scalarTooLarge ↔ IsOverflowing source := by
  rw [IsOverflowing, ← decode_eq_scalarTooLarge_iff, read]
  cases decode source.toList with
  | ok content => simp
  | error f => cases f <;> simp [ReadFault.toFault]

theorem tier_eq_of_read {source : String} {f : Fault} (h : read source = .error f) :
    f.tier = .refusal ∨ f = .scalarTooLarge := by
  unfold read at h
  split at h
  · cases h
  · rename_i g hdecode
    cases h
    cases g with
    | defect d => exact .inl rfl
    | scalarRange => exact .inl rfl
    | scalarTooLarge => exact .inr rfl

end Literal

theorem Expression.read_stringLiteral {data : Json} {source : String}
    (hkind : data.field? "kind" = some (.text ExpressionKind.stringLiteral.name))
    (htext : data.field? "text" = some (.text source)) (hvalue : data.optional? "value" = none) :
    read data = (do
      let content ← Literal.read source
      return ⟨.stringLiteral, .text source, content.map .text, data.optional? "base"⟩) := by
  obtain ⟨entries, rfl⟩ := Json.exists_object_of_field? htext
  have hlookup : entries.lookup "kind" = some (.text ExpressionKind.stringLiteral.name) := hkind
  have hentry : entries.lookup "text" = some (.text source) := htext
  have hnone : (Json.object entries).getNonNull? "value" = .ok none := congrArg Except.ok hvalue
  have hbase : (Json.object entries).getNonNull? "base" =
      .ok ((Json.object entries).optional? "base") := rfl
  have htag : ExpressionKind.ofJson? (.text ExpressionKind.stringLiteral.name) =
      some .stringLiteral := by decide
  simp only [read, Json.contains_object, Json.getD_object, hlookup, hentry, hnone, hbase, htag,
    Option.isSome_some, Option.getD_some, bind, Except.bind, if_true, complete, Json.textFor]

namespace Literal

/-- A text is read, as a literal with or without a content, or it is refused, unless it overflows;
then the reader malfunctions. An expression that takes its content from the text fares as the text
does. -/
theorem read_answered_iff (source : String) :
    (((∃ content, read source = .ok content) ∨
        ∃ f, read source = .error f ∧ f.tier = .refusal) ↔ ¬ IsOverflowing source) ∧
    (IsOverflowing source → read source = .error .scalarTooLarge) ∧
    ∀ data : Json, data.field? "kind" = some (.text ExpressionKind.stringLiteral.name) →
      data.field? "text" = some (.text source) → data.optional? "value" = none →
      ∀ f, Expression.read data = .error f ↔ read source = .error f := by
  rw [← read_eq_scalarTooLarge_iff]
  refine ⟨?_, id, ?_⟩
  · constructor
    · rintro (⟨content, hok⟩ | ⟨f, hf, htier⟩) hlarge
      · rw [hok] at hlarge
        cases hlarge
      · rw [hf] at hlarge
        cases hlarge
        cases htier
    · intro hlarge
      cases hread : read source with
      | ok content => exact .inl ⟨content, rfl⟩
      | error f =>
        refine .inr ⟨f, rfl, (tier_eq_of_read hread).resolve_right ?_⟩
        rintro rfl
        exact hlarge hread
  · intro data hkind htext hvalue f
    rw [Expression.read_stringLiteral hkind htext hvalue, Except.bind_eq_error]
    simp [pure, Except.pure]

def literalDocument (source : String) : Json :=
  .object [("kind", .text "string_literal"), ("text", .text source)]

theorem read_answered_iff_pastLast :
    read "\"\\u\x7b110000\x7d\"" = .error .scalarRange ∧ ¬ IsOverflowing "\"\\u\x7b110000\x7d\"" ∧
      Expression.read (literalDocument "\"\\u\x7b110000\x7d\"") = .error .scalarRange := by
  have hread : read "\"\\u\x7b110000\x7d\"" = .error .scalarRange := rfl
  obtain ⟨hanswered, -, hexpression⟩ := read_answered_iff "\"\\u\x7b110000\x7d\""
  exact ⟨hread, hanswered.mp (.inr ⟨_, hread, rfl⟩),
    (hexpression _ rfl rfl rfl _).mpr hread⟩

/-- A larger number is a malfunction, also in the document of a request. -/
theorem read_malfunction_largeNumber :
    read "\"\\u\x7b80000000\x7d\"" = .error .scalarTooLarge ∧
      Fault.tier .scalarTooLarge = .malfunction ∧
      Expression.read (literalDocument "\"\\u\x7b80000000\x7d\"") = .error .scalarTooLarge ∧
      Request.readDocument (.object [("macro", .text "Constant"), ("arguments",
        .list [.object [("value", literalDocument "\"\\u\x7b80000000\x7d\"")]])]) =
        .error .scalarTooLarge :=
  ⟨rfl, rfl, rfl, rfl⟩

end Literal

end SwiftExpansion
