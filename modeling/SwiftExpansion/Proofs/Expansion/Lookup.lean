import SwiftExpansion.Proofs.Argument
import SwiftExpansion.Proofs.Config.Settings
import SwiftExpansion.Proofs.Engine.ErrorContract

/-!
# What stands in a resource lookup

The template of a lookup falls into pieces between its placeholders, and settings that were read
have at least one placeholder in it. A lookup is these pieces with the key between them, so that a
key which looks like a placeholder itself is left alone. The cast and the reported type are made
from one and the same name: the one that the second argument gives by a metatype, or the default,
with a warning if there is a second argument that gives none.
-/
namespace SwiftExpansion.Expansion

/-- The pieces that a template is cut into by its placeholders. -/
structure IsCutInto (template : String) (pieces : List String) : Prop where
  joined : Settings.placeholder.intercalate pieces = template
  plain : ∀ p ∈ pieces, ¬ Settings.placeholder.toList <:+: p.toList

theorem exists_isCutInto (template : String) : ∃ pieces, IsCutInto template pieces := by
  have hplaceholder : Settings.placeholder.toList ≠ [] := by decide
  obtain ⟨parts, -, hjoined, hplain⟩ := Text.exists_pieces hplaceholder template.toList
  refine ⟨parts.map String.ofList, ?_, ?_⟩
  · rw [← String.toList_inj, String.toList_intercalate, List.map_map]
    simpa [Function.comp_def] using hjoined
  · intro p hp
    obtain ⟨part, hpart, rfl⟩ := List.mem_map.mp hp
    rw [String.toList_ofList]
    exact hplain part hpart

/-- However the template is cut at its placeholders, a lookup joins the pieces by the key. -/
theorem IsCutInto.lookupText_eq {s : Settings} {pieces : List String}
    (h : IsCutInto s.resourceLookup pieces) (key : String) :
    lookupText s key = key.intercalate pieces := by
  have hplaceholder : Settings.placeholder.toList = '\x7b' :: ['k', 'e', 'y', '\x7d'] := rfl
  have hplain : ∀ part ∈ pieces.map String.toList, ¬ Settings.placeholder.toList <:+: part := by
    intro part hpart
    obtain ⟨p, hp, rfl⟩ := List.mem_map.mp hpart
    exact h.plain p hp
  rw [hplaceholder] at hplain
  rw [lookupText, ← h.joined, String.toList_intercalate, hplaceholder,
    Text.replaceAll_intercalate (by decide) hplain, ← String.toList_intercalate,
    String.ofList_toList]

theorem IsCutInto.two_le_length {template : String} {pieces : List String}
    (h : IsCutInto template pieces) (hplace : Settings.placeholder.toList <:+: template.toList) :
    2 ≤ pieces.length := by
  match pieces, h with
  | [], h =>
    rw [← h.joined] at hplace
    exact absurd hplace (by decide)
  | [p], h =>
    have hp : p = template := by simpa using h.joined
    exact absurd (hp ▸ hplace) (h.plain p (by simp))
  | p :: q :: pieces, _ => simp

theorem infix_intercalate {pieces : List String} (h : 2 ≤ pieces.length) (key : String) :
    key.toList <:+: (key.intercalate pieces).toList := by
  match pieces, h with
  | p :: q :: pieces, _ =>
    rw [String.intercalate_cons_cons, String.toList_append, String.toList_append]
    exact ⟨p.toList, _, rfl⟩

/-- The type that an expression names, if it is a metatype of anything but blanks. -/
def namedType? (e : Expression String) : Option String :=
  if e.kind = .memberAccess ∧ e.value = some "self" then
    (e.base.map Text.trimmed).filter (· ≠ "")
  else none

theorem filter_metatypeBase_map (e : Expression String) :
    ∃ base, (e.map .text).metatypeBase = .ok base ∧
      base.filter (!·.isEmpty) = namedType? e := by
  refine ⟨_, e.metatypeBase_map, ?_⟩
  unfold namedType?
  by_cases hself : e.kind = .memberAccess ∧ e.value = some "self"
  · rw [if_pos hself, if_pos hself]
    cases hbase : e.base with
    | none => rfl
    | some base =>
      by_cases hempty : base = ""
      · subst hempty
        rfl
      · simp [Option.filter, hempty]
  · rw [if_neg hself, if_neg hself]
    rfl

def requestedType (s : Settings) (rest : List (Argument String)) : String :=
  (rest.head?.bind fun b => namedType? b.value).getD s.defaultResourceType

def untyped? (rest : List (Argument String)) : Option (Argument String) :=
  rest.head?.filter fun b => (namedType? b.value).isNone

def untypedWarning (s : Settings) (b : Argument String) : String :=
  "type argument '" ++ Text.trimmed b.value.text ++
    "' is not a metatype reference such as Int.self; using " ++ s.defaultResourceType

def lookupExpression (s : Settings) (a : Argument String) (rest : List (Argument String)) :
    GeneratedExpression :=
  ⟨lookupText s (Text.trimmed a.value.text) ++ " as? " ++ requestedType s rest,
    some (requestedType s rest ++ "?")⟩

theorem resourceType_map (s : Settings) (rest : List (Argument String)) :
    resourceType s (rest.map (Argument.map .text)) =
      ⟨(untyped? rest).toList.map fun b => .report .warning (untypedWarning s b),
        .ok (requestedType s rest)⟩ := by
  cases rest with
  | nil => rfl
  | cons b rest =>
    obtain ⟨base, hbase, hfilter⟩ := filter_metatypeBase_map b.value
    have hvalue : (b.map Json.text).value.metatypeBase = .ok base := hbase
    rw [List.map_cons, resourceType, hvalue, Logged.liftM_ok_bind, hfilter]
    cases hnamed : namedType? b.value with
    | some type =>
      have htyped : untyped? (b :: rest) = none := by simp [untyped?, hnamed]
      have hrequested : requestedType s (b :: rest) = type := by simp [requestedType, hnamed]
      rw [htyped, hrequested]
      rfl
    | none =>
      have huntyped : untyped? (b :: rest) = some b := by simp [untyped?, hnamed]
      have hdefault : requestedType s (b :: rest) = s.defaultResourceType := by
        simp [requestedType, hnamed]
      rw [huntyped, hdefault]
      rfl

/-- The whole draft of a lookup: at most one warning, a debugging record and the expression. -/
theorem resource_map {s : Settings} {r : Request Json} {a : Argument String}
    {rest : List (Argument String)} (h : r.arguments = (a :: rest).map (Argument.map .text)) :
    resource s r = (do
      Logged.mk ((untyped? rest).toList.map fun b => .report .warning (untypedWarning s b)) (.ok ())
      Draft.debug ("Resource lookup for " ++ Text.trimmed a.value.text ++ " typed as " ++
        requestedType s rest ++ "?")
      return { expression := some (lookupExpression s a rest) }) := by
  have hkey : (a.map Json.text).value.trimmedText = .ok (Text.trimmed a.value.text) :=
    a.value.trimmedText_map
  unfold resource
  rw [h, List.map_cons]
  dsimp only
  rw [hkey, Logged.liftM_ok_bind, resourceType_map]
  rfl

/-- Of the arguments behind the key only the first has a part in the type, and only by its value. -/
theorem resourceType_eq_of_values (s : Settings) {rest rest' : List (Argument Json)}
    (h : (rest'.take 1).map Argument.value = (rest.take 1).map Argument.value) :
    resourceType s rest' = resourceType s rest := by
  match rest, rest' with
  | [], [] => rfl
  | [], b :: more => simp at h
  | b :: more, [] => simp at h
  | b :: more, b' :: more' =>
    have hvalue : b'.value = b.value := by simpa using h
    rw [resourceType, resourceType, hvalue]

theorem resource_eq_of_values (s : Settings) {r r' : Request Json}
    (h : (r'.arguments.take 2).map Argument.value = (r.arguments.take 2).map Argument.value) :
    resource s r' = resource s r := by
  unfold resource
  match hr : r.arguments, hr' : r'.arguments with
  | [], [] => rfl
  | [], a :: rest => simp [hr, hr'] at h
  | a :: rest, [] => simp [hr, hr'] at h
  | a :: rest, a' :: rest' =>
    obtain ⟨hkey, htype⟩ : a'.value = a.value ∧
        (rest'.take 1).map Argument.value = (rest.take 1).map Argument.value := by
      simpa [hr, hr'] using h
    dsimp only
    rw [hkey, resourceType_eq_of_values s htype]

/-- A lookup with the settings that entries come to, whatever the entries are. Its template has a
placeholder, so that it is cut in two pieces or more. For every usage with a key, the lookup is
these pieces with the trimmed key between them, so that the key is part of it, and is cast to the
type that is reported as well; there is no other output. There is a warning exactly if a second
argument names no type. Labels and all arguments behind the second are without effect. -/
theorem resource_substitutes_key [Memory] (entries : List (String × Json)) :
    let s := (Settings.assess entries).1
    (∃ pieces, IsCutInto s.resourceLookup pieces) ∧
    ∀ (pieces : List String), IsCutInto s.resourceLookup pieces → 2 ≤ pieces.length ∧
      ∀ (name : String) (r : Request Json) (a : Argument String) (rest : List (Argument String)),
        r.arguments = (a :: rest).map (Argument.map .text) →
        let draft := Rule.resource.expand name s r
        let key := Text.trimmed a.value.text
        let type := requestedType s rest
        let text := key.intercalate pieces ++ " as? " ++ type
        draft.outcome =
            .ok { expression := some ⟨text, some (type ++ "?")⟩, declarations := [] } ∧
          key.toList <:+: text.toList ∧
          draft.diagnostics r.span =
            (untyped? rest).toList.map (fun b => ⟨.warning, untypedWarning s b, r.span⟩) ∧
          ∀ r' : Request Json,
            (r'.arguments.take 2).map Argument.value = (r.arguments.take 2).map Argument.value →
              Rule.resource.expand name s r' = draft := by
  intro s
  have hfit : s.IsFit := Settings.assess_isFit entries
  refine ⟨exists_isCutInto _, fun pieces hcut => ?_⟩
  have hlength := hcut.two_le_length (Text.occursIn_iff.mp hfit.lookup)
  refine ⟨hlength, fun name r a rest hargs => ?_⟩
  have hdraft : Rule.resource.expand name s r = _ := resource_map hargs
  refine ⟨?_, ?_, ?_, fun r' => resource_eq_of_values s⟩
  · rw [hdraft, ← hcut.lookupText_eq]
    rfl
  · have hkey := infix_intercalate hlength (Text.trimmed a.value.text)
    rw [String.append_assoc, String.toList_append]
    exact hkey.trans (List.prefix_append _ _).isInfix
  · rw [hdraft, Draft.diagnostics_bind fun _ => rfl]
    cases untyped? rest <;> rfl

def twofoldEntries : List (String × Json) :=
  [("resource_lookup", .text "find(\x7bkey\x7d) ?? \x7bkey\x7d"), ("default_resource_type", .text "Any")]

def blankTypeRequest : Request Json :=
  ⟨.text "mainBundle",
    [⟨⟨.other, .text " a\x7bkey\x7d ", none, none⟩, some (.text "key")⟩,
      ⟨⟨.memberAccess, .text " .self", some (.text "self"), some (.text " ")⟩, none⟩],
    none, .unreported⟩

open scoped Memory in
theorem resource_substitutes_key_twofold :
    let draft := Rule.resource.expand "mainBundle" (Settings.assess twofoldEntries).1 blankTypeRequest
    let text := "find(a\x7bkey\x7d) ?? a\x7bkey\x7d as? Any"
    draft.outcome = .ok { expression := some ⟨text, some "Any?"⟩ } ∧
      draft.diagnostics .unreported =
        [⟨.warning, "type argument '.self' is not a metatype reference such as Int.self; using Any",
          .unreported⟩] := by
  have hcut : IsCutInto (Settings.assess twofoldEntries).1.resourceLookup ["find(", ") ?? ", ""] :=
    ⟨rfl, by decide +kernel⟩
  obtain ⟨-, hexpand⟩ := resource_substitutes_key twofoldEntries
  obtain ⟨houtcome, -, hdiagnostics, -⟩ := (hexpand _ hcut).2 "mainBundle" blankTypeRequest
    ⟨⟨.other, " a\x7bkey\x7d ", none, none⟩, some "key"⟩
    [⟨⟨.memberAccess, " .self", some "self", some " "⟩, none⟩] rfl
  exact ⟨houtcome, hdiagnostics⟩

end SwiftExpansion.Expansion
