import SwiftExpansion.Engine.Macro
import SwiftExpansion.Proofs.Journal

/-!
# How rules report errors

A rule that reports an error does so as its very last act, and then gives back no code. Up to that
point a draft is quiet: it may warn and leave debugging records, and it may fail, but no error has
been reported. What notes a draft leaves follows from the notes of its steps, so that each rule is
checked branch by branch, once for every sort of notes that holds what the rule has to say.
-/
namespace SwiftExpansion

/-- Whether a note reports an error. -/
def Note.isError : Note → Bool
  | .report .error _ => true
  | _ => false

def Output.IsBlank (o : Output) : Prop :=
  o.declarations = [] ∧ ∀ e ∈ o.expression, e.text = ""

namespace Draft

variable {α β : Type}

/-- No error is reported. -/
def IsQuiet (x : Draft α) : Prop :=
  ∀ n ∈ x.notes, n.isError = false

/-- An error is reported last, if at all, and then there is no code. -/
def IsDisciplined (x : Draft Output) : Prop :=
  x.IsQuiet ∨ ∃ before message output, x.notes = before ++ [.report .error message] ∧
    (∀ n ∈ before, n.isError = false) ∧ x.outcome = .ok output ∧ output.IsBlank

theorem isQuiet_iff {x : Draft α} : x.IsQuiet ↔ x.Leaves fun n => n.isError = false :=
  Iff.rfl

theorem IsDisciplined.bind {x : Draft α} {f : α → Draft Output} (hx : x.IsQuiet)
    (hf : ∀ a, (f a).IsDisciplined) : IsDisciplined (x >>= f) := by
  cases h : x.outcome with
  | error e =>
    rw [Logged.bind_of_error h]
    exact .inl hx
  | ok a =>
    rw [Logged.bind_of_ok h]
    rcases hf a with hquiet | ⟨before, message, output, hnotes, hbefore, houtcome, hblank⟩
    · exact .inl (List.forall_mem_append.mpr ⟨hx, hquiet⟩)
    · refine .inr ⟨x.notes ++ before, message, output, ?_, ?_, houtcome, hblank⟩
      · rw [hnotes, List.append_assoc]
      · exact List.forall_mem_append.mpr ⟨hx, hbefore⟩

/-- A usage is refused by one error and no code. -/
theorem isDisciplined_refusal (message : String) {output : Output} (h : output.IsBlank) :
    IsDisciplined (do error message; return output) :=
  .inr ⟨[], message, output, rfl, by simp, rfl, h⟩

end Draft

open Draft Logged

variable {P : Note → Prop}

namespace Expansion

theorem echo_leaves (r : Request Json) : (echo r).Leaves P := by
  unfold echo
  split
  · exact leaves_fail _
  · exact (leaves_liftM _).bind fun _ => leaves_pure _

theorem constant_leaves (r : Request Json) : (constant r).Leaves P := by
  unfold constant
  split
  · exact leaves_fail _
  · refine (leaves_liftM _).bind fun name => ?_
    split
    · exact leaves_fail _
    · exact leaves_pure _

theorem resourceType_leaves (s : Settings) (arguments : List (Argument Json))
    (hwarning : ∀ text, P (.report .warning ("type argument '" ++ text))) :
    (resourceType s arguments).Leaves P := by
  unfold resourceType
  split
  · exact leaves_pure _
  · refine (leaves_liftM _).bind fun base => ?_
    split
    · exact leaves_pure _
    · refine (leaves_liftM _).bind fun text => ?_
      simp only [String.append_assoc]
      exact (leaves_note (hwarning _)).bind fun _ => leaves_pure _

theorem resource_isDisciplined (s : Settings) (r : Request Json) :
    (resource s r).IsDisciplined := by
  unfold resource
  split
  · exact isDisciplined_refusal _ ⟨rfl, by simp⟩
  · left
    refine isQuiet_iff.mpr ((leaves_liftM _).bind fun key => ?_)
    refine (resourceType_leaves s _ fun _ => rfl).bind fun type => ?_
    exact Leaves.bind (leaves_note rfl) fun _ => leaves_pure _

end Expansion

namespace Interface

theorem propertyLines_leaves (name : String) (properties : List (Property Json))
    (hwarning : ∀ text, P (.report .warning ("property '" ++ text))) :
    (propertyLines name properties).Leaves P := by
  induction properties with
  | nil => exact leaves_pure _
  | cons p properties ih =>
    unfold propertyLines
    split
    · exact (leaves_liftM _).bind fun _ => ih.bind fun _ => leaves_pure _
    · simp only [String.append_assoc]
      exact (leaves_note (hwarning _)).bind fun _ => ih

theorem extract_leaves [Memory] (s : Settings) (d : Declaration Json)
    (hwarning : ∀ text, P (.report .warning ("property '" ++ text)))
    (hdebug : ∀ text, P (.debug text)) : (extract s d).Leaves P := by
  unfold extract
  refine (propertyLines_leaves _ _ hwarning).bind fun properties => ?_
  refine (leaves_liftM _).bind fun requirements => ?_
  refine (leaves_liftM _).bind fun sections => ?_
  exact (leaves_note (hdebug _)).bind fun _ => leaves_pure _

theorem expand_isDisciplined [Memory] (s : Settings) (d : Declaration Json) :
    (expand s d).IsDisciplined := by
  unfold expand
  split
  · left
    exact (extract_leaves s d (fun _ => rfl) fun _ => rfl).bind fun _ => leaves_pure _
  all_goals exact isDisciplined_refusal _ ⟨rfl, by simp⟩

end Interface

namespace Mapping

section

variable (s : Settings) (d : Declaration Json) (shape : Shape)

theorem initializer_leaves [Memory] (hdebug : ∀ text, P (.debug text)) :
    (initializer s d shape).Leaves P := by
  refine (leaves_liftM _).bind fun found => ?_
  cases found with
  | true => exact (leaves_note (hdebug _)).bind fun _ => leaves_pure _
  | false => exact (leaves_liftM _).bind fun _ => leaves_pure _

theorem mappingFunction_leaves [Memory] (hdebug : ∀ text, P (.debug text)) :
    (mappingFunction s d shape).Leaves P := by
  refine (leaves_liftM _).bind fun found => ?_
  cases found with
  | true => exact (leaves_note (hdebug _)).bind fun _ => leaves_pure _
  | false => exact (leaves_liftM _).bind fun _ => (leaves_liftM _).bind fun _ => leaves_pure _

theorem conformance_leaves (hdebug : ∀ text, P (.debug text)) :
    (conformance s d shape).Leaves P := by
  unfold conformance
  split
  · exact (leaves_note (hdebug _)).bind fun _ => leaves_pure _
  · refine (leaves_liftM _).bind fun inherits => ?_
    cases inherits with
    | true => exact (leaves_note (hdebug _)).bind fun _ => leaves_pure _
    | false => exact leaves_pure _

/-- A synthesis reports nothing: all of its notes are debugging records. -/
theorem synthesize_leaves [Memory] (hdebug : ∀ text, P (.debug text)) :
    (synthesize s d shape).Leaves P := by
  refine (initializer_leaves s d shape hdebug).bind fun first => ?_
  refine (mappingFunction_leaves s d shape hdebug).bind fun second => ?_
  exact (conformance_leaves s d shape hdebug).bind fun third => leaves_pure _

end

theorem expand_isDisciplined [Memory] (s : Settings) (r : Request Json) (d : Declaration Json) :
    (expand s r d).IsDisciplined := by
  have hsynthesize (shape : Shape) : (synthesize s d shape).IsQuiet :=
    synthesize_leaves s d shape fun _ => rfl
  unfold expand
  cases d.kind with
  | valueType =>
    left
    cases isSubclassRequested r.arguments with
    | true =>
      refine Leaves.bind (leaves_note rfl) fun _ => ?_
      exact Leaves.bind (hsynthesize _) fun _ => leaves_pure _
    | false => exact Leaves.bind (hsynthesize _) fun _ => leaves_pure _
  | referenceType =>
    dsimp only
    split
    · exact isDisciplined_refusal _ ⟨rfl, by simp⟩
    · exact .inl (Leaves.bind (hsynthesize _) fun _ => leaves_pure _)
  | interface => exact isDisciplined_refusal _ ⟨rfl, by simp⟩
  | enumeration => exact isDisciplined_refusal _ ⟨rfl, by simp⟩

end Mapping

namespace Rule

theorem attachedDeclaration_leaves (name : String) (r : Request Json) :
    (attachedDeclaration name r).Leaves P := by
  unfold attachedDeclaration
  split
  · exact leaves_pure _
  · exact leaves_fail _

/-- What follows gets the attached declaration, if there is one. -/
theorem attachedDeclaration_bind {α : Type} {name : String} {r : Request Json}
    {d : Declaration Json} (h : r.declaration = some d) (f : Declaration Json → Draft α) :
    attachedDeclaration name r >>= f = f d := by
  rw [attachedDeclaration, h]
  rfl

theorem attachedDeclaration_bind_of_none {α : Type} {name : String} {r : Request Json}
    (h : r.declaration = none) (f : Declaration Json → Draft α) :
    attachedDeclaration name r >>= f = .fail (.contract (.noDeclaration name)) := by
  rw [attachedDeclaration, h]
  rfl

/-- Every rule is disciplined, whatever the request holds. -/
theorem expand_isDisciplined [Memory] (rule : Rule) (name : String) (s : Settings)
    (r : Request Json) : (rule.expand name s r).IsDisciplined := by
  cases rule with
  | echo => exact .inl (Expansion.echo_leaves r)
  | resource => exact Expansion.resource_isDisciplined s r
  | constant => exact .inl (Expansion.constant_leaves r)
  | interface =>
    exact .bind (attachedDeclaration_leaves name r) fun d => Interface.expand_isDisciplined s d
  | mapping =>
    exact .bind (attachedDeclaration_leaves name r) fun d => Mapping.expand_isDisciplined s r d
  | unimplemented => exact .inl (leaves_fail _)

end Rule

end SwiftExpansion
