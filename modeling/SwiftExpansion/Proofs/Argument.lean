import SwiftExpansion.Proofs.Text
import SwiftExpansion.Proofs.Wire.Schema

/-!
# Blanks around an expression

A host that gives the kind and the source text of an expression and nothing else leaves the rest to
be derived from the text. Blanks at the ends of the text should not matter to that. They do not
matter to a literal, of a text or of a truth value, and neither to the text that a rule inserts. A
member access is cut at its last dot as it stands: blanks behind it become part of the member, so
that `Int.self` with a blank after it names no type any more, and blanks before a bare `.self` become
a base that it did not have.
-/
namespace SwiftExpansion

theorem Literal.read_eq_ok_iff_of_trim {s t : String} (h : Text.trim s.toList = Text.trim t.toList)
    {content : Option String} : read s = .ok content ↔ read t = .ok content := by
  have hdecode : decode s.toList = decode t.toList := by
    unfold decode
    rw [h]
  unfold read
  rw [hdecode]
  cases decode t.toList <;> simp

namespace Expression

/-! Expressions that keep to the format. -/

theorem stringValue_map {τ σ : Type} (f : τ → σ) (e : Expression τ) :
    (e.map f).stringValue = e.stringValue.map f := by
  by_cases h : e.kind = .stringLiteral <;> simp [stringValue, Expression.map, h]

theorem isTrueLiteral_map (e : Expression String) :
    (e.map .text).isTrueLiteral = (e.kind == .booleanLiteral && e.value == some "true") := by
  cases hv : e.value <;> simp [isTrueLiteral, Expression.map, hv, Json.isText]

theorem trimmedText_map (e : Expression String) :
    (e.map .text).trimmedText = .ok (Text.trimmed e.text) :=
  rfl

/-- A metatype is an access to the member `self` of something, which it names. -/
theorem metatypeBase_map (e : Expression String) : (e.map .text).metatypeBase =
    .ok (if e.kind = .memberAccess ∧ e.value = some "self" then
      (e.base.filter (!·.isEmpty)).map Text.trimmed else none) := by
  have hmember : (e.map Json.text).value.any (·.isText "self") = (e.value == some "self") := by
    cases hv : e.value <;> simp [Expression.map, hv, Json.isText]
  have hkind : (e.map Json.text).kind = e.kind := rfl
  unfold metatypeBase
  rw [hmember, hkind]
  by_cases hself : e.kind = .memberAccess ∧ e.value = some "self"
  · rw [if_pos (by simpa using hself), if_pos hself]
    cases hbase : e.base with
    | none => simp [Expression.map, hbase]
    | some base =>
      cases hempty : base.isEmpty <;>
        simp [Expression.map, hbase, Option.filter, Json.isTruthy, hempty, Json.textFor]
  · rw [if_neg (by simpa using hself), if_neg hself]

/-! Expressions given by their text. -/

/-- The document of an expression that leaves all else to its source text. -/
def document (kind : ExpressionKind) (text : String) : Json :=
  .object [("kind", .text kind.name), ("text", .text text)]

/-- The expression that a text is taken for, if it is no string literal. -/
def ofText (kind : ExpressionKind) (text : String) : Expression String :=
  match kind with
  | .memberAccess =>
    if '.' ∈ text.toList then
      ⟨kind, text, some (splitAccess text).2, some (splitAccess text).1⟩
    else ⟨kind, text, none, none⟩
  | .booleanLiteral => ⟨kind, text, some (Text.trimmed text), none⟩
  | .stringLiteral | .integerLiteral | .other => ⟨kind, text, none, none⟩

@[simp] theorem kind_ofText (kind : ExpressionKind) (text : String) :
    (ofText kind text).kind = kind := by
  cases kind with
  | memberAccess => by_cases h : '.' ∈ text.toList <;> simp [ofText, h]
  | _ => rfl

@[simp] theorem text_ofText (kind : ExpressionKind) (text : String) :
    (ofText kind text).text = text := by
  cases kind with
  | memberAccess => by_cases h : '.' ∈ text.toList <;> simp [ofText, h]
  | _ => rfl

theorem read_document (kind : ExpressionKind) (text : String) :
    read (document kind text) = complete kind (.text text) none none := by
  have htag : ExpressionKind.ofJson? (.text kind.name) = some kind := by
    cases kind <;> decide
  have hkind : (document kind text).getD "kind" (.text ExpressionKind.other.name) =
      .ok (.text kind.name) := rfl
  have htext : (document kind text).contains "text" = .ok true := by
    rw [document, Json.contains_object]
    rfl
  simp only [read, htext, hkind, htag, bind, Except.bind, if_true]
  rfl

theorem read_document_stringLiteral (text : String) :
    read (document .stringLiteral text) =
      (fun content => ⟨.stringLiteral, .text text, content.map .text, none⟩) <$>
        Literal.read text := by
  rw [read_document]
  simp only [complete, Json.textFor, bind, Except.bind]
  cases Literal.read text <;> rfl

theorem read_document_of_ne {kind : ExpressionKind} (h : kind ≠ .stringLiteral) (text : String) :
    read (document kind text) = .ok ((ofText kind text).map .text) := by
  rw [read_document]
  cases kind with
  | stringLiteral => exact absurd rfl h
  | memberAccess =>
    have hdot : (Json.text text).contains "." = .ok (decide ('.' ∈ text.toList)) := by
      have hoccurs : Text.occursIn ['.'] text.toList = decide ('.' ∈ text.toList) := by
        rw [Bool.eq_iff_iff, Text.occursIn_iff, decide_eq_true_eq, List.mem_iff_append]
        simp [List.IsInfix, eq_comm]
      exact congrArg Except.ok hoccurs
    simp only [complete, ofText, hdot, bind, Except.bind]
    by_cases hmem : '.' ∈ text.toList <;>
      simp [hmem, Expression.map, Json.textFor, pure, Except.pure]
  | _ => rfl

/-! Blanks around the text. -/

/-- Whether blanks `u` before a text and `v` behind it change which type it names. -/
def HidesMetatype (kind : ExpressionKind) (text u v : String) : Prop :=
  kind = .memberAccess ∧ ∃ base, text = base ++ ".self" ∧
    (base ≠ "" ∧ v ≠ "" ∨ base = "" ∧ u ≠ "" ∧ v = "")

def accessedType (before after : List Char) : Option String :=
  if after = "self".toList ∧ before ≠ [] then some (String.ofList (Text.trim before)) else none

theorem ofText_memberAccess {text : String} {before after : List Char}
    (htext : text.toList = before ++ '.' :: after) (hafter : '.' ∉ after) :
    ofText .memberAccess text =
      ⟨.memberAccess, text, some (String.ofList after), some (String.ofList before)⟩ := by
  have hsplit : splitAccess text = (String.ofList before, String.ofList after) := by
    rw [splitAccess, htext, Text.splitLast?_append hafter]
  rw [ofText, if_pos (by simp [htext]), hsplit]

theorem metatypeBase_ofText {text : String} {before after : List Char}
    (htext : text.toList = before ++ '.' :: after) (hafter : '.' ∉ after) :
    ((ofText .memberAccess text).map Json.text).metatypeBase = .ok (accessedType before after) := by
  have hself : String.ofList after = "self" ↔ after = "self".toList := by
    rw [← String.toList_inj, String.toList_ofList]
  rw [ofText_memberAccess htext hafter, metatypeBase_map]
  simp only [Option.some.injEq, true_and, hself, accessedType]
  generalize "self".toList = member
  by_cases hmember : after = member <;> by_cases hbase : before = [] <;>
    simp [hmember, hbase, Option.filter, Text.trimmed]

theorem metatypeBase_ofText_of_not_mem {text : String} (h : '.' ∉ text.toList) :
    ((ofText .memberAccess text).map Json.text).metatypeBase = .ok none := by
  rw [metatypeBase_map, ofText, if_neg h]
  simp

theorem append_blanks_eq_self {after v : List Char} (hv : Text.isBlankText v = true) :
    after ++ v = "self".toList ↔ after = "self".toList ∧ v = [] := by
  constructor
  · intro h
    rcases List.eq_nil_or_concat v with rfl | ⟨front, c, rfl⟩
    · exact ⟨by simpa using h, rfl⟩
    · have hlast : c = 'f' := by
        have hgetLast := congrArg List.getLast? h
        simpa using hgetLast
      have hblank : Text.isBlank c = true := List.all_eq_true.mp hv c (by simp)
      rw [hlast] at hblank
      exact absurd hblank (by decide)
  · rintro ⟨rfl, rfl⟩
    rfl

theorem accessedType_padded {before after u v : List Char} (hu : Text.isBlankText u = true)
    (hv : Text.isBlankText v = true) :
    accessedType (u ++ before) (after ++ v) = accessedType before after ↔
      ¬ (after = "self".toList ∧ (before ≠ [] ∧ v ≠ [] ∨ before = [] ∧ u ≠ [] ∧ v = [])) := by
  have hnone : Text.isBlankText [] = true := rfl
  have htrim : Text.trim (u ++ before) = Text.trim before := by
    simpa using Text.trim_padded hu hnone before
  simp only [accessedType, append_blanks_eq_self hv, htrim]
  generalize "self".toList = member
  by_cases hmember : after = member
  · by_cases hbase : before = [] <;> by_cases hbehind : v = [] <;> simp [hmember, hbase, hbehind]
  · simp [hmember]

/-- The type that a member access names stays the same unless the blanks hide it. -/
theorem metatypeBase_padded {u v : String} (hu : Text.isBlankText u.toList = true)
    (hv : Text.isBlankText v.toList = true) (text : String) :
    ((ofText .memberAccess (u ++ text ++ v)).map Json.text).metatypeBase =
        ((ofText .memberAccess text).map Json.text).metatypeBase ↔
      ¬ HidesMetatype .memberAccess text u v := by
  have hdotBlank : Text.isBlank '.' = false := by decide
  have hudot := Text.not_mem_of_isBlankText hdotBlank hu
  have hvdot := Text.not_mem_of_isBlankText hdotBlank hv
  by_cases hdot : '.' ∈ text.toList
  · obtain ⟨before, after, htext, hafter⟩ := Text.exists_last_of_mem hdot
    have hpadded : (u ++ text ++ v).toList =
        (u.toList ++ before) ++ '.' :: (after ++ v.toList) := by
      simp [htext]
    have hparts (base : String) :
        text = base ++ ".self" ↔ before = base.toList ∧ after = "self".toList := by
      rw [← String.toList_inj, htext, String.toList_append]
      constructor
      · intro h
        have hsplit := Text.splitLast?_append hafter before
        rw [h, show ".self".toList = '.' :: "self".toList from rfl,
          Text.splitLast?_append (by decide)] at hsplit
        cases hsplit
        exact ⟨rfl, rfl⟩
      · rintro ⟨rfl, rfl⟩
        rfl
    rw [metatypeBase_ofText htext hafter, metatypeBase_ofText hpadded (by simp [hafter, hvdot]),
      Except.ok.injEq, accessedType_padded hu hv]
    refine not_congr ⟨?_, ?_⟩
    · rintro ⟨hmember, hblanks⟩
      refine ⟨rfl, String.ofList before, (hparts _).mpr ⟨by simp, hmember⟩, ?_⟩
      simpa using hblanks
    · rintro ⟨-, base, hbase, hblanks⟩
      obtain ⟨rfl, hmember⟩ := (hparts base).mp hbase
      exact ⟨hmember, by simpa using hblanks⟩
  · have hpadded : '.' ∉ (u ++ text ++ v).toList := by simp [hdot, hudot, hvdot]
    rw [metatypeBase_ofText_of_not_mem hdot, metatypeBase_ofText_of_not_mem hpadded]
    refine iff_of_true rfl ?_
    rintro ⟨-, base, rfl, -⟩
    exact hdot (by simp)

/-- Blanks around the source text of an expression do not decide whether it can be read, and leave
alone its content, its truth value and the text that is inserted for it. They leave alone the type
that it names as well, unless it ends in `.self` and has blanks behind it, or is a bare `.self` with
blanks before it. -/
theorem read_surrounded (kind : ExpressionKind) (text : String) {u v : String}
    (hu : Text.isBlankText u.toList = true) (hv : Text.isBlankText v.toList = true) :
    (∃ f g, read (document kind text) = .error f ∧
      read (document kind (u ++ text ++ v)) = .error g) ∨
    ∃ e padded, read (document kind text) = .ok e ∧
      read (document kind (u ++ text ++ v)) = .ok padded ∧
      padded.stringValue = e.stringValue ∧ padded.isTrueLiteral = e.isTrueLiteral ∧
      padded.trimmedText = e.trimmedText ∧
      (padded.metatypeBase = e.metatypeBase ↔ ¬ HidesMetatype kind text u v) := by
  by_cases hliteral : kind = .stringLiteral
  · subst hliteral
    have htrim : Text.trim (u ++ text ++ v).toList = Text.trim text.toList := by
      rw [String.toList_append, String.toList_append, Text.trim_padded hu hv]
    simp only [read_document_stringLiteral]
    cases hread : Literal.read text with
    | ok content =>
      rw [(Literal.read_eq_ok_iff_of_trim htrim).mpr hread]
      refine .inr ⟨_, _, rfl, rfl, rfl, rfl, ?_, iff_of_true rfl ?_⟩
      · exact congrArg Except.ok (Text.trimmed_padded hu hv text)
      · rintro ⟨hkind, -⟩
        cases hkind
    | error f =>
      cases hpadded : Literal.read (u ++ text ++ v) with
      | error g => exact .inl ⟨f, g, rfl, rfl⟩
      | ok content =>
        rw [(Literal.read_eq_ok_iff_of_trim htrim).mp hpadded] at hread
        cases hread
  · rw [read_document_of_ne hliteral, read_document_of_ne hliteral]
    refine .inr ⟨_, _, rfl, rfl, ?_, ?_, ?_, ?_⟩
    · rw [stringValue_map, stringValue_map]
      simp [stringValue, hliteral]
    · rw [isTrueLiteral_map, isTrueLiteral_map, kind_ofText, kind_ofText]
      by_cases hboolean : kind = .booleanLiteral
      · simp [hboolean, ofText, Text.trimmed_padded hu hv]
      · rw [beq_false_of_ne hboolean, Bool.false_and, Bool.false_and]
    · rw [trimmedText_map, trimmedText_map, text_ofText, text_ofText, Text.trimmed_padded hu hv]
    · by_cases haccess : kind = .memberAccess
      · subst haccess
        exact metatypeBase_padded hu hv text
      · refine iff_of_true ?_ fun h => haccess h.1
        simp [metatypeBase_map, haccess]

theorem read_surrounded_blankBefore :
    Text.isBlankText " \t".toList = true ∧
      ∃ e padded, read (document .memberAccess "Core.Item.self") = .ok e ∧
        read (document .memberAccess " \tCore.Item.self") = .ok padded ∧
        e.metatypeBase = .ok (some "Core.Item") ∧ padded.metatypeBase = .ok (some "Core.Item") := by
  have hblank : Text.isBlankText " \t".toList = true := by decide
  refine ⟨hblank, ?_⟩
  rcases read_surrounded .memberAccess "Core.Item.self" hblank (v := "") rfl with
    ⟨f, -, herror, -⟩ | ⟨e, padded, he, hpadded, -, -, -, hbase⟩
  · rw [read_document_of_ne (by decide)] at herror
    cases herror
  · have hmetatype : e.metatypeBase = .ok (some "Core.Item") := by
      rw [read_document_of_ne (by decide)] at he
      cases he
      rfl
    have hshown : ¬ HidesMetatype .memberAccess "Core.Item.self" " \t" "" := by
      rintro ⟨-, base, hbase, ⟨-, hcontra⟩ | ⟨rfl, -⟩⟩
      · exact hcontra rfl
      · exact absurd hbase (by decide)
    exact ⟨e, padded, he, hpadded, hmetatype, (hbase.mpr hshown).trans hmetatype⟩

/-- Behind it they do: it names no type any more. -/
theorem metatypeBase_lost_blankBehind :
    ∃ e padded, read (document .memberAccess "Int.self") = .ok e ∧
      read (document .memberAccess "Int.self ") = .ok padded ∧
      e.metatypeBase = .ok (some "Int") ∧ padded.metatypeBase = .ok none :=
  ⟨_, _, read_document_of_ne (by decide) _, read_document_of_ne (by decide) _, rfl, rfl⟩

end Expression

end SwiftExpansion
