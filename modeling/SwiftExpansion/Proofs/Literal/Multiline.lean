import SwiftExpansion.Proofs.Fault
import SwiftExpansion.Proofs.Literal.Pieces

/-!
# Literals over several lines

Between triple quotes the lines of a text are written under an indentation, which the closing line
repeats. The reader takes it off again, be the lines ended by a line feed or by a carriage return
and a line feed, and joins them by line feeds. A line with nothing on it may be written with less of
the indentation. Only escapes are kept out of the lines here: quotes, pounds and blanks may stand
anywhere in them, three quotes in a row included.
-/
namespace SwiftExpansion.Literal

inductive LineEnd
  | feed
  | returnFeed
  deriving Repr, DecidableEq

def LineEnd.text : LineEnd → List Char
  | .feed => ['\n']
  | .returnFeed => ['\r', '\n']

/-- Whether a line is written as `text` under an indentation: behind all of it, or, with nothing on
the line, as some part of its front. -/
def IsIndented (indent line text : List Char) : Prop :=
  text = indent ++ line ∨ line = [] ∧ text <+: indent

/-- What stands between the triple quotes: the end of the opening line, the lines as they are
written, and the indentation of the closing line. -/
def multilineBody (e : LineEnd) (indent : List Char) (texts : List (List Char)) : List Char :=
  e.text ++ (texts.flatMap (· ++ e.text) ++ indent)

theorem replaceAll_lineEnd (e : LineEnd) (rest : List Char) :
    Text.replaceAll ['\r', '\n'] ['\n'] (e.text ++ rest) =
      '\n' :: Text.replaceAll ['\r', '\n'] ['\n'] rest := by
  cases e with
  | feed => exact Text.replaceAll_append_of_not_mem (by decide) _ rest
  | returnFeed => exact Text.replaceAll_pattern_append (by decide) _ rest

/-- However the lines end, they end in line feeds when they are taken apart. -/
theorem replaceAll_multilineBody (e : LineEnd) {indent : List Char} {texts : List (List Char)}
    (hindent : '\r' ∉ indent) (htexts : ∀ text ∈ texts, '\r' ∉ text) :
    Text.replaceAll ['\r', '\n'] ['\n'] (multilineBody e indent texts) =
      multilineBody .feed indent texts := by
  have hlast : Text.replaceAll ['\r', '\n'] ['\n'] indent = indent := by
    have hnothing : Text.replaceAll ['\r', '\n'] ['\n'] [] = [] := rfl
    rw [← List.append_nil indent, Text.replaceAll_append_of_not_mem hindent, hnothing]
  have hlines : Text.replaceAll ['\r', '\n'] ['\n'] (texts.flatMap (· ++ e.text) ++ indent) =
      texts.flatMap (· ++ ['\n']) ++ indent := by
    induction texts with
    | nil => exact hlast
    | cons text texts ih =>
      have hrest := ih fun t ht => htexts t (by simp [ht])
      simp only [List.flatMap_cons, List.append_assoc]
      rw [Text.replaceAll_append_of_not_mem (htexts text (by simp)), replaceAll_lineEnd, hrest,
        List.singleton_append]
  rw [multilineBody, replaceAll_lineEnd, hlines]
  rfl

theorem intercalate_lines (first : List Char) (texts : List (List Char)) (last : List Char) :
    ['\n'].intercalate (first :: (texts ++ [last])) =
      first ++ '\n' :: (texts.flatMap (· ++ ['\n']) ++ last) := by
  induction texts generalizing first with
  | nil => simp [List.intercalate]
  | cons text texts ih =>
    rw [List.cons_append, List.intercalate_cons_cons, ih, List.flatMap_cons]
    simp

theorem splitOn_multilineBody {indent : List Char} {texts : List (List Char)}
    (hindent : '\n' ∉ indent) (htexts : ∀ text ∈ texts, '\n' ∉ text) :
    (multilineBody .feed indent texts).splitOn '\n' = [] :: (texts ++ [indent]) := by
  have hbody : multilineBody .feed indent texts =
      ['\n'].intercalate ([] :: (texts ++ [indent])) := by
    rw [intercalate_lines]
    rfl
  rw [hbody]
  apply List.splitOn_intercalate
  · intro line hline
    simp only [List.mem_cons, List.mem_append, List.not_mem_nil, or_false] at hline
    rcases hline with rfl | hline | rfl
    · simp
    · exact htexts line hline
    · exact hindent
  · simp

theorem dedentLine_of_isIndented {indent line text : List Char}
    (hindent : Text.isBlankText indent = true) (h : IsIndented indent line text) :
    dedentLine indent text = .ok line := by
  rcases h with rfl | ⟨rfl, hfront⟩
  · simp [dedentLine]
  · by_cases hall : indent <+: text
    · -- All of the indentation is there, so that nothing is left.
      have heq : text = indent := hfront.eq_of_length_le hall.length_le
      have hdrop := Text.dropFront?_append indent []
      rw [List.append_nil] at hdrop
      simp [dedentLine, heq, hdrop]
    · have hblank : Text.isBlankText text = true := by
        simp only [Text.isBlankText, List.all_eq_true] at hindent ⊢
        exact fun c hc => hindent c (hfront.subset hc)
      simp [dedentLine, Text.dropFront?_eq_none hall, hblank]

theorem dedent_of_lines {body indent : List Char} {texts lines : List (List Char)}
    (hbody : (Text.replaceAll ['\r', '\n'] ['\n'] body).splitOn '\n' = [] :: (texts ++ [indent]))
    (hindent : Text.isBlankText indent = true)
    (htexts : List.Forall₂ (IsIndented indent) lines texts) :
    dedent body = .ok (['\n'].intercalate lines) := by
  have hlines : texts.mapM (dedentLine indent) = .ok lines := by
    rw [Except.mapM_eq_ok]
    exact htexts.flip.imp fun text line h => dedentLine_of_isIndented hindent h
  obtain ⟨line, rest, hcons⟩ := List.exists_cons_of_ne_nil (List.append_ne_nil_of_right_ne_nil texts
    (List.cons_ne_nil indent []))
  have hlast : (line :: rest).getLast (by simp) = indent := by
    simp [← hcons]
  have hfront : (line :: rest).dropLast = texts := by
    simp [← hcons]
  rw [dedent, hbody, hcons]
  simp only [hlast, hfront, hindent, if_true, hlines]

theorem not_mem_of_isIndented {c : Char} {indent : List Char} {lines texts : List (List Char)}
    (htexts : List.Forall₂ (IsIndented indent) lines texts) (hindent : c ∉ indent)
    (hlines : ∀ line ∈ lines, c ∉ line) : ∀ text ∈ texts, c ∉ text := by
  induction htexts with
  | nil => simp
  | @cons line text lines texts h _ ih =>
    rw [List.forall_mem_cons] at hlines ⊢
    refine ⟨?_, ih hlines.2⟩
    rcases h with rfl | ⟨-, hfront⟩
    · simp [hindent, hlines.1]
    · exact fun hc => hindent (hfront.subset hc)

theorem dedent_multilineBody (e : LineEnd) {indent : List Char} {lines texts : List (List Char)}
    (hindent : ∀ c ∈ indent, Text.isBlank c = true ∧ c ≠ '\r' ∧ c ≠ '\n')
    (hlines : ∀ line ∈ lines, '\r' ∉ line ∧ '\n' ∉ line)
    (htexts : List.Forall₂ (IsIndented indent) lines texts) :
    dedent (multilineBody e indent texts) = .ok (['\n'].intercalate lines) := by
  have hblank : Text.isBlankText indent = true := by
    rw [Text.isBlankText, List.all_eq_true]
    exact fun c hc => (hindent c hc).1
  have hreturn : '\r' ∉ indent := fun hc => (hindent _ hc).2.1 rfl
  have hfeed : '\n' ∉ indent := fun hc => (hindent _ hc).2.2 rfl
  apply dedent_of_lines _ hblank htexts
  rw [replaceAll_multilineBody e hreturn, splitOn_multilineBody hfeed]
  · exact not_mem_of_isIndented htexts hfeed fun line hline => (hlines line hline).2
  · exact not_mem_of_isIndented htexts hreturn fun line hline => (hlines line hline).1

/-! ## No escapes in the lines -/

/-- A text without a separator stands on one side of it. -/
theorem not_infix_append_cons {mark before after : List Char} {x : Char} (hx : x ∉ mark)
    (hbefore : ¬ mark <:+: before) (hafter : ¬ mark <:+: after) :
    ¬ mark <:+: before ++ x :: after := by
  have hstart {part : List Char} (hpart : x ∉ part) (h : part <+: x :: after) : part = [] := by
    cases part with
    | nil => rfl
    | cons y part => simp [(List.cons_prefix_cons.mp h).1] at hpart
  rw [List.infix_append_iff, List.infix_cons_iff]
  rintro (h | (h | h) | ⟨left, right, rfl, hleft, hright⟩)
  · exact hbefore h
  · rw [hstart hx h] at hbefore
    exact hbefore List.nil_infix
  · exact hafter h
  · rw [List.mem_append, not_or] at hx
    rw [hstart hx.2 hright, List.append_nil] at hbefore
    exact hbefore hleft.isInfix

theorem not_infix_intercalate {mark : List Char} {x : Char} (hx : x ∉ mark) (hmark : mark ≠ [])
    {lines : List (List Char)} (h : ∀ line ∈ lines, ¬ mark <:+: line) :
    ¬ mark <:+: [x].intercalate lines := by
  induction lines with
  | nil => simpa using hmark
  | cons line lines ih =>
    have hrest := ih fun l hl => h l (by simp [hl])
    cases lines with
    | nil => simpa using h line (by simp)
    | cons next lines =>
      rw [List.intercalate_cons_cons, List.append_assoc, List.singleton_append]
      exact not_infix_append_cons hx (h line (by simp)) hrest

theorem unescape_of_not_infix {k : Nat} {body : List Char} (h : ¬ escapeMark k <:+: body)
    (multiline : Bool) : unescape k multiline body = .ok (some body) := by
  apply unescape_eq_of_content
  · simp [pieces_eq_map_plain h, Piece.isInterpolation]
  · rw [pieces_eq_map_plain h, mapM_content_plain]

/-- The lines of a literal between triple quotes come back, joined by line feeds, whatever the
indentation, the number of pounds and the way that lines end. -/
theorem read_multiline (k : Nat) (e : LineEnd) {indent : List Char} {lines texts : List (List Char)}
    (hindent : ∀ c ∈ indent, Text.isBlank c = true ∧ c ≠ '\r' ∧ c ≠ '\n')
    (hlines : ∀ line ∈ lines, '\r' ∉ line ∧ '\n' ∉ line ∧ ¬ escapeMark k <:+: line)
    (htexts : List.Forall₂ (IsIndented indent) lines texts) :
    read (String.ofList (enclosed k tripleQuote (multilineBody e indent texts))) =
      .ok (some (String.ofList (['\n'].intercalate lines))) := by
  have hdedent : dedent (multilineBody e indent texts) = .ok (['\n'].intercalate lines) := by
    apply dedent_multilineBody e hindent _ htexts
    exact fun line hline => ⟨(hlines line hline).1, (hlines line hline).2.1⟩
  have hmark : ¬ escapeMark k <:+: ['\n'].intercalate lines := by
    apply not_infix_intercalate
    · simp [escapeMark, not_mem_pounds]
    · simp [escapeMark]
    · exact fun line hline => (hlines line hline).2.2
  have hdelimited : delimited? (Text.trim (enclosed k tripleQuote (multilineBody e indent texts))) =
      some ⟨k, true, multilineBody e indent texts⟩ := by
    rw [trim_enclosed _ _ (by simp [tripleQuote]) (by simp [tripleQuote]), delimited?_triple]
  rw [read, String.toList_ofList, decode_eq_unescape hdelimited hdedent,
    unescape_of_not_infix hmark]
  rfl

theorem read_multiline_rawLines :
    read "#\"\"\"\r\n\t   \"\"a\\n\r\n\t\r\n\t \"b\"#\r\n\t \"\"\"#" =
      .ok (some "  \"\"a\\n\n\n\"b\"#") := by
  have htexts : List.Forall₂ (IsIndented ['\t', ' '])
      ["  \"\"a\\n".toList, [], "\"b\"#".toList]
      ["\t   \"\"a\\n".toList, ['\t'], "\t \"b\"#".toList] :=
    .cons (.inl (by decide)) (.cons (.inr ⟨rfl, by decide⟩) (.cons (.inl (by decide)) .nil))
  have hindent : ∀ c ∈ ['\t', ' '], Text.isBlank c = true ∧ c ≠ '\r' ∧ c ≠ '\n' := by
    rw [List.forall_mem_cons, List.forall_mem_singleton]
    decide
  have hlines : ∀ line ∈ ["  \"\"a\\n".toList, [], "\"b\"#".toList],
      '\r' ∉ line ∧ '\n' ∉ line ∧ ¬ escapeMark 1 <:+: line := by
    decide +kernel
  have hsource : String.ofList (enclosed 1 tripleQuote (multilineBody .returnFeed ['\t', ' ']
      ["\t   \"\"a\\n".toList, ['\t'], "\t \"b\"#".toList])) =
      "#\"\"\"\r\n\t   \"\"a\\n\r\n\t\r\n\t \"b\"#\r\n\t \"\"\"#" := by
    decide
  have hcontent : String.ofList (['\n'].intercalate
      ["  \"\"a\\n".toList, [], "\"b\"#".toList]) = "  \"\"a\\n\n\n\"b\"#" := by
    decide
  rw [← hsource, ← hcontent]
  exact read_multiline 1 .returnFeed hindent hlines htexts

end SwiftExpansion.Literal
