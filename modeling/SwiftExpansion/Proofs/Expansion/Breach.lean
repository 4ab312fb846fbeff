import SwiftExpansion.Proofs.Expansion.Discipline
import SwiftExpansion.Proofs.Expansion.Malfunction

/-!
# Which usages break the contract

Each rule that asks for anything has one way to find a usage in breach of the contract: there is no
expression to echo, no content to name a constant by, no declaration to attach to. A usage that is
not in breach in this way fails as its values allow and never by a breach, whatever they are.
-/
namespace SwiftExpansion

open SwiftExpansion.Except

def Request.content? (r : Request Json) : Option Json :=
  r.arguments.head?.bind (·.value.stringValue)

/-- Whether there is nothing in the first argument to name a constant by. -/
def Request.LacksContent (r : Request Json) : Prop :=
  r.content? = none ∨
    ∃ content, r.content? = some (.text content) ∧ ∀ c ∈ content.toList, Text.isBlank c

def Rule.IsBroken (r : Request Json) : Rule → Prop
  | .echo => r.arguments = []
  | .constant => r.LacksContent
  | .interface | .mapping => r.declaration = none
  | .resource | .unimplemented => False

variable {s : Settings} {T : Json → Prop} {F : Fault → Prop} {r : Request Json}

theorem Request.All.content (hr : r.All T) {j : Json} (h : r.content? = some j) : T j := by
  obtain ⟨a, ha, hvalue⟩ := Option.bind_eq_some_iff.mp h
  have hmem : a ∈ r.arguments := List.mem_of_mem_head? ha
  unfold Expression.stringValue at hvalue
  split at hvalue
  · exact (hr.arguments a hmem).value.value j hvalue
  · cases hvalue

/-- An indentation that cannot be had is a malfunction. -/
theorem Settings.indent_faultsIn [Memory] (s : Settings) :
    FaultsIn (fun f => f.tier = .malfunction) s.indent := by
  have hcheck : FaultsIn (fun f => f.tier = .malfunction) s.checkIndent := by
    unfold checkIndent
    split
    · exact faultsIn_error.mpr rfl
    · split
      · exact faultsIn_error.mpr rfl
      · exact faultsIn_ok _
  exact hcheck.bind fun _ => faultsIn_pure _

namespace Expansion

theorem constant_of_none (h : r.content? = none) :
    constant r = .fail (.contract .invalidArguments) := by
  rw [constant, show r.arguments.head?.bind (·.value.stringValue) = none from h]

theorem constant_of_some {j : Json} (h : r.content? = some j) :
    (constant r).outcome = j.textFor "strip" >>= fun name =>
      if Text.isBlankText name.toList then .error (.contract .invalidArguments)
      else .ok { declarations := [⟨.freestanding, constantText name⟩] } := by
  rw [constant, show r.arguments.head?.bind (·.value.stringValue) = some j from h]
  dsimp only
  rw [Logged.outcome_bind]
  refine bind_congr fun name => ?_
  split <;> rfl

theorem constant_of_lacksContent (h : r.LacksContent) :
    (constant r).outcome = .error (.contract .invalidArguments) := by
  rcases h with hnone | ⟨content, hsome, hblank⟩
  · rw [constant_of_none hnone]
    rfl
  · have hblankText : Text.isBlankText content.toList = true := List.all_eq_true.mpr hblank
    rw [constant_of_some hsome]
    exact if_pos hblankText

theorem constant_faultsIn [Memory] (ht : Tolerance s T F) (hr : r.All T) (h : ¬ r.LacksContent) :
    FaultsIn F (constant r).outcome := by
  cases hcontent : r.content? with
  | none => exact absurd (.inl hcontent) h
  | some j =>
    rw [constant_of_some hcontent]
    cases j with
    | text content =>
      have hblank : Text.isBlankText content.toList = false := by
        by_contra hblank
        rw [Bool.not_eq_false] at hblank
        exact h (.inr ⟨content, hcontent, List.all_eq_true.mp hblank⟩)
      exact faultsIn_of_ok (if_neg (by rw [hblank]; exact Bool.false_ne_true))
    | _ => exact faultsIn_error.mpr (ht.misuse _ _ (hr.content hcontent) (by simp))

theorem echo_faultsIn [Memory] (ht : Tolerance s T F) (hr : r.All T) (h : r.arguments ≠ []) :
    FaultsIn F (echo r).outcome := by
  obtain ⟨a, arguments, harguments⟩ := List.exists_cons_of_ne_nil h
  have ha := (hr.arguments a (by simp [harguments])).value
  rw [echo, harguments]
  dsimp only
  rw [Logged.outcome_bind]
  exact (ht.literal ha.text).bind fun _ => faultsIn_pure _

end Expansion

namespace Rule

variable [Memory]

/-- A usage that lacks what the rule needs is in breach of the contract. -/
theorem expand_of_isBroken {rule : Rule} (h : rule.IsBroken r) (name : String) (s : Settings) :
    ∃ breach, (rule.expand name s r).outcome = .error (.contract breach) := by
  cases rule with
  | echo =>
    have harguments : r.arguments = [] := h
    exact ⟨.noArguments, by simp [expand, Expansion.echo, harguments, Logged.fail]⟩
  | constant => exact ⟨.invalidArguments, Expansion.constant_of_lacksContent h⟩
  | interface =>
    refine ⟨.noDeclaration name, ?_⟩
    rw [expand, attachedDeclaration_bind_of_none h]
    rfl
  | mapping =>
    refine ⟨.noDeclaration name, ?_⟩
    rw [expand, attachedDeclaration_bind_of_none h]
    rfl
  | resource => cases h
  | unimplemented => cases h

theorem expand_faultsIn {rule : Rule} (ht : Tolerance s T F) (hr : r.All T)
    (hkept : ¬ rule.IsBroken r) (hrule : rule = .unimplemented → F .noRule) (name : String) :
    FaultsIn F (rule.expand name s r).outcome := by
  cases rule with
  | echo => exact Expansion.echo_faultsIn ht hr hkept
  | resource => exact Expansion.resource_faultsIn ht hr
  | constant => exact Expansion.constant_faultsIn ht hr hkept
  | interface =>
    obtain ⟨d, hd⟩ := Option.ne_none_iff_exists'.mp hkept
    rw [expand, attachedDeclaration_bind hd]
    exact Interface.expand_faultsIn ht (hr.declaration d hd)
  | mapping =>
    obtain ⟨d, hd⟩ := Option.ne_none_iff_exists'.mp hkept
    rw [expand, attachedDeclaration_bind hd]
    exact Mapping.expand_faultsIn ht r (hr.declaration d hd)
  | unimplemented => exact faultsIn_error.mpr (hrule rfl)

/-- A rule finds a breach exactly in a usage that lacks what it needs, however ill-typed the values
of the usage are. -/
theorem expand_breach_iff {rule : Rule} {name : String} :
    (∃ breach, (rule.expand name s r).outcome = .error (.contract breach)) ↔ rule.IsBroken r := by
  refine ⟨fun ⟨breach, hbreach⟩ => ?_, fun h => expand_of_isBroken h name s⟩
  have ht : Tolerance s (fun _ => True) fun f => f.tier = .malfunction :=
    ⟨fun _ _ _ _ => rfl, s.indent_faultsIn⟩
  by_contra hkept
  have htier := expand_faultsIn ht (r.all_of_forall fun _ => trivial) hkept (fun _ => rfl) name
    _ hbreach
  cases htier

end Rule

end SwiftExpansion
