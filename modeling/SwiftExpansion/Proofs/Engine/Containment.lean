import SwiftExpansion.Config.Session
import SwiftExpansion.Proofs.Config.Settings
import SwiftExpansion.Proofs.Engine.Abort

/-!
# What has to be contained

The engine contains the faults of its rules: each becomes a diagnostic that speaks of an internal
error. A request that keeps to the format gives no rule a reason to fail, so that nothing has to be
contained; the one thing left that can go wrong is an indentation that cannot be built, as a
configuration may ask for.
-/
namespace SwiftExpansion

def isInternal (message : String) : Bool :=
  "internal error while expanding".toList.isPrefixOf message.toList

/-- The first character tells: the message of a contained fault starts with an `i`. -/
theorem isInternal_append {front : String} (h : front.toList.head?.any (· != 'i')) (rest : String) :
    isInternal (front ++ rest) = false := by
  cases hfront : front.toList with
  | nil => simp [hfront] at h
  | cons c cs =>
    have hc : c ≠ 'i' := by simpa [hfront] using h
    simp [isInternal, hfront, List.isPrefixOf, Ne.symm hc]

/-- What a rule says in words of its own. -/
def Note.IsOwn : Note → Prop
  | .report _ message => isInternal message = false
  | .debug _ => True

open Draft Logged

theorem Expansion.resource_isOwn (s : Settings) (r : Request Json) :
    (resource s r).Leaves Note.IsOwn := by
  unfold resource
  split
  · exact Leaves.bind (leaves_note rfl) fun _ => leaves_pure _
  · refine (leaves_liftM _).bind fun key => ?_
    refine (resourceType_leaves s _ fun text => isInternal_append rfl text).bind fun type => ?_
    exact Leaves.bind (leaves_note trivial) fun _ => leaves_pure _

theorem Interface.expand_isOwn [Memory] (s : Settings) (d : Declaration Json) :
    (expand s d).Leaves Note.IsOwn := by
  unfold expand
  split
  · have hextract := extract_leaves (P := Note.IsOwn) s d
      (fun text => isInternal_append rfl text) fun _ => trivial
    exact hextract.bind fun _ => leaves_pure _
  all_goals exact Leaves.bind (leaves_note rfl) fun _ => leaves_pure _

theorem Mapping.expand_isOwn [Memory] (s : Settings) (r : Request Json) (d : Declaration Json) :
    (expand s r d).Leaves Note.IsOwn := by
  have hparts (shape : Shape) :
      (do return { declarations := ← synthesize s d shape } : Draft Output).Leaves Note.IsOwn :=
    Leaves.bind (synthesize_leaves s d shape fun _ => trivial) fun _ => leaves_pure _
  unfold expand
  cases d.kind with
  | valueType =>
    cases isSubclassRequested r.arguments with
    | true => exact Leaves.bind (leaves_note rfl) fun _ => hparts _
    | false => exact hparts _
  | referenceType =>
    dsimp only
    split
    · exact Leaves.bind (leaves_note rfl) fun _ => leaves_pure _
    · exact hparts _
  | interface => exact Leaves.bind (leaves_note rfl) fun _ => leaves_pure _
  | enumeration => exact Leaves.bind (leaves_note rfl) fun _ => leaves_pure _

/-- No rule speaks of an internal error by itself. -/
theorem Rule.expand_isOwn [Memory] (rule : Rule) (name : String) (s : Settings)
    (r : Request Json) : (rule.expand name s r).Leaves Note.IsOwn := by
  cases rule with
  | echo => exact Expansion.echo_leaves r
  | resource => exact Expansion.resource_isOwn s r
  | constant => exact Expansion.constant_leaves r
  | interface =>
    exact (attachedDeclaration_leaves name r).bind fun d => Interface.expand_isOwn s d
  | mapping =>
    exact (attachedDeclaration_leaves name r).bind fun d => Mapping.expand_isOwn s r d
  | unimplemented => exact leaves_fail _

/-- Texts alone leave nothing to tolerate. -/
theorem Tolerance.of_texts [Memory] {s : Settings} (hs : s.CanIndent) :
    Tolerance s Schema.IsText fun _ => False where
  misuse j _ hj hnot := by
    obtain ⟨t, rfl⟩ := Schema.isText_iff.mp hj
    exact hnot t rfl
  indent := by
    obtain ⟨spaces, hspaces⟩ := hs
    exact Except.faultsIn_of_ok hspaces

theorem Macro.rule_ne_unimplemented {m : Macro} (h : m ∈ defaults) : m.rule ≠ .unimplemented := by
  simp only [defaults, List.mem_cons, List.not_mem_nil, or_false] at h
  rcases h with rfl | rfl | rfl | rfl | rfl <;> simp

namespace Engine

theorem isInternal_of_mem_reports {span : Span} {notes : List Note}
    (hown : ∀ n ∈ notes, n.IsOwn) {d : Diagnostic String}
    (h : d ∈ notes.filterMap (diagnostic? span)) : isInternal d.message = false := by
  obtain ⟨n, hmem, hn⟩ := List.mem_filterMap.mp h
  cases n with
  | debug message => cases hn
  | report severity message =>
    cases hn
    exact hown _ hmem

section

variable [Memory]

theorem settle_of_ok {m : Macro} {span : Span} {draft : Draft Output} {output : Output}
    (hdraft : draft.outcome = .ok output) (hown : draft.Leaves Note.IsOwn) :
    ∃ x, (settle m span draft).outcome = .ok x ∧
      ∀ d ∈ x.diagnostics, isInternal d.message = false :=
  ⟨_, settle_of_output hdraft, fun _ hd => isInternal_of_mem_reports hown hd⟩

theorem expand_of_disabled {e : Engine} {r : Request Json} {m : Macro}
    (hfind : e.findMacro r.name = .ok m) (hdisabled : m.isEnabled = false) :
    (e.expand r).outcome = .ok ⟨m.name, none, [],
      [⟨.warning, "macro '" ++ (m.name.display ++ "' is disabled"), r.span⟩]⟩ := by
  rw [expand, hfind, ← String.append_assoc]
  simp only [hdisabled]
  rfl

/-- An engine with nothing but the macros that come with it never has to contain a fault, as long as
a request keeps to the format and lines can be indented as far as the configuration asks: the
expansion is aborted by a breach of the contract, or its result does not speak of an internal
error. -/
theorem expand_not_internal {e : Engine}
    (he : ∀ m ∈ e.macros, ∃ d ∈ Macro.defaults, m.name = d.name ∧ m.rule = d.rule)
    (hs : e.config.settings.CanIndent) {data : Json} {r : Request Json}
    (hdata : Schema.request.admits data = true) (hr : Request.read data = .ok r) :
    (∃ breach, (e.expand r).outcome = .error (.contract breach)) ∨
      ∃ x, (e.expand r).outcome = .ok x ∧ ∀ d ∈ x.diagnostics, isInternal d.message = false := by
  have htexts := Request.read_all hdata hr
  obtain ⟨name, hname⟩ := Schema.isText_iff.mp htexts.name
  rcases e.findMacro_of_text name with ⟨hnone, -⟩ | ⟨m, hfound, -, hmem, -⟩
  · refine .inl ⟨.unregistered (.text name), ?_⟩
    rw [expand, hname, hnone]
    rfl
  · rw [← hname] at hfound
    cases henabled : m.isEnabled with
    | false =>
      refine .inr ⟨_, expand_of_disabled hfound henabled, ?_⟩
      simp only [List.mem_singleton, forall_eq]
      exact isInternal_append rfl _
    | true =>
      by_cases hbroken : m.rule.IsBroken r
      · obtain ⟨breach, hbreach⟩ := Rule.expand_of_isBroken hbroken m.name.display
          e.config.settings
        exact .inl ⟨breach, by rw [expand_of_enabled hfound henabled, settle_of_breach hbreach]⟩
      · -- a rule that finds what it needs, and texts only, has no fault left to run into
        obtain ⟨d, hd, -, hrule⟩ := he m hmem
        have hfaults := Rule.expand_faultsIn (.of_texts hs) htexts hbroken
          (fun hnone => Macro.rule_ne_unimplemented hd (hrule ▸ hnone)) m.name.display
        rw [expand_of_enabled hfound henabled]
        cases houtcome : (m.rule.expand m.name.display e.config.settings r).outcome with
        | ok output => exact .inr (settle_of_ok houtcome (Rule.expand_isOwn _ _ _ _))
        | error f => exact absurd houtcome (hfaults f)

end

open scoped Memory

def typedDocument : Json :=
  .object [("macro", .text "Mappable"),
    ("arguments", .list [.object [("label", .text "isSubclass"),
      ("value", .object [("kind", .text "boolean_literal"), ("text", .text " true ")])]]),
    ("declaration", .object [("kind", .text "struct"), ("name", .text "A"),
      ("inherits", .list [.text "B"]),
      ("members", .list [
        .object [("member", .text "field"), ("name", .text "a"), ("type", .null)],
        .object [("member", .text "function"), ("name", .text "f"), ("return_type", .text "Int")]])]),
    ("location", .null)]

def typedRequest : Request Json :=
  ⟨.text "Mappable",
    [⟨⟨.booleanLiteral, .text " true ", some (.text "true"), none⟩, some (.text "isSubclass")⟩],
    some ⟨.valueType, .text "A", [.text "B"],
      [.property ⟨.text "a", none, .internalLevel, false, false⟩,
        .method ⟨.text "f", [], .internalLevel, true, some (.text "Int"), [], [], none, false⟩]⟩,
    .unreported⟩

theorem expand_not_internal_typedDocument :
    Schema.request.admits typedDocument = true ∧ Request.read typedDocument = .ok typedRequest ∧
      ∃ x, (Engine.expand ⟨{}, Macro.defaults⟩ typedRequest).outcome = .ok x ∧
        ∀ d ∈ x.diagnostics, isInternal d.message = false := by
  have hdata : Schema.request.admits typedDocument = true := rfl
  have hread : Request.read typedDocument = .ok typedRequest := rfl
  have hstock : ∀ m ∈ Macro.defaults, ∃ d ∈ Macro.defaults, m.name = d.name ∧ m.rule = d.rule :=
    fun m hm => ⟨m, hm, rfl, rfl⟩
  have hexpand := expand_not_internal (e := ⟨{}, Macro.defaults⟩) hstock ⟨_, rfl⟩ hdata hread
  refine ⟨hdata, hread, hexpand.resolve_left ?_⟩
  rintro ⟨breach, hbreach⟩
  cases hbreach

def emptyDocument : Json :=
  .object [("macro", .text "Mappable"),
    ("declaration", .object [("kind", .text "struct"), ("name", .text "A"), ("members", .list [])])]

def wideConfig : Json :=
  .object [("macros", .object [("indent_size", .int 0x8000000000000000)])]

def emptyRequest : Request Json :=
  ⟨.text "Mappable", [], some ⟨.valueType, .text "A", [], []⟩, .unreported⟩

def wideEngine : Engine :=
  ⟨⟨{ indentSize := 0x8000000000000000 }, {}⟩, Macro.defaults⟩

/-- Such a configuration is accepted, and a request that keeps to the format then runs into it. -/
theorem expand_internal_wideConfig :
    ∃ c e r x, (Config.read wideConfig).outcome = .ok c ∧ Engine.ofConfig c = .ok e ∧
      Schema.request.admits emptyDocument = true ∧ Request.read emptyDocument = .ok r ∧
      (e.expand r).outcome = .ok x ∧ ∃ d ∈ x.diagnostics, isInternal d.message = true := by
  have hplace : emptyRequest.span.isShort = true := by decide +kernel
  have hexpand : (wideEngine.expand emptyRequest).outcome = .ok ⟨.text "Mappable", none, [],
      [⟨.error, "internal error while expanding " ++ "Mappable" ++ ": " ++
        Fault.indentTooLarge.message, .unreported⟩]⟩ := by
    rw [expand_of_enabled rfl rfl, settle_of_error rfl (f := .indentTooLarge) rfl (by simp),
      if_pos hplace]
    rfl
  exact ⟨wideEngine.config, wideEngine, emptyRequest, _, rfl, rfl, rfl, rfl, hexpand, _,
    List.mem_singleton.mpr rfl, rfl⟩

end Engine

end SwiftExpansion
