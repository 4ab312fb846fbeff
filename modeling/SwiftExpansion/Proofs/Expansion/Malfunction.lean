import SwiftExpansion.Engine.Macro
import SwiftExpansion.Proofs.Fault
import SwiftExpansion.Proofs.Request

/-!
# What can go wrong in a rule

Breaches of the contract apart, a rule fails for two reasons: a value that is no text stands where a
text is used, or the lines of generated code cannot be indented as far as the settings ask for. How
the values of a request are bounded therefore bounds the faults of its expansion. The bound is kept
open, so that one pass over the rules serves requests of any values as well as those that hold
nothing but texts.
-/
namespace SwiftExpansion

variable [Memory]

/-- A sort of faults that is wide enough for a sort of values: it has room for the misuse of each
value that is no text, and for indentations that cannot be had. -/
structure Tolerance (s : Settings) (T : Json → Prop) (F : Fault → Prop) : Prop where
  misuse : ∀ j how, T j → (∀ t, j ≠ .text t) → F (.misuse j.kind how)
  indent : Except.FaultsIn F s.indent

open SwiftExpansion.Except

namespace Tolerance

variable {s : Settings} {T : Json → Prop} {F : Fault → Prop}

theorem textFor (ht : Tolerance s T F) {j : Json} (hj : T j) (operation : String) :
    FaultsIn F (j.textFor operation) := by
  cases j with
  | text t => exact faultsIn_ok t
  | _ => exact faultsIn_error.mpr (ht.misuse _ _ hj (by simp))

theorem literal (ht : Tolerance s T F) {j : Json} (hj : T j) : FaultsIn F j.literal := by
  cases j with
  | text t => exact faultsIn_ok _
  | _ => exact faultsIn_error.mpr (ht.misuse _ _ hj (by simp))

theorem joinable (ht : Tolerance s T F) {items : List Json} (hitems : ∀ j ∈ items, T j)
    (index : Nat) : FaultsIn F (Interface.joinable index items) := by
  induction items generalizing index with
  | nil => exact faultsIn_ok _
  | cons j items ih =>
    cases j with
    | text t =>
      exact (ih (fun j hj => hitems j (by simp [hj])) _).bind fun _ => faultsIn_pure _
    | _ => exact faultsIn_error.mpr (ht.misuse _ _ (hitems _ (by simp)) (by simp))

theorem namesType (ht : Tolerance s T F) {entry : Json} (hentry : T entry) (name : Json) :
    FaultsIn F (name.namesType entry) := by
  unfold Json.namesType
  split
  · exact faultsIn_ok _
  · exact (ht.textFor hentry _).bind fun _ => faultsIn_pure _

end Tolerance

section

variable {s : Settings} {T : Json → Prop} {F : Fault → Prop}

namespace Expansion

theorem resourceType_faultsIn (ht : Tolerance s T F) {arguments : List (Argument Json)}
    (harguments : ∀ a ∈ arguments, a.All T) : FaultsIn F (resourceType s arguments).outcome := by
  cases arguments with
  | nil => exact faultsIn_pure _
  | cons a arguments =>
    have ha := (harguments a (by simp)).value
    have hbase : FaultsIn F a.value.metatypeBase := by
      unfold Expression.metatypeBase
      split
      · split
        · rename_i base hbase
          have hmem : base ∈ a.value.base := (Option.filter_eq_some_iff.mp hbase).1
          exact (ht.textFor (ha.base _ hmem) _).bind fun _ => faultsIn_pure _
        · exact faultsIn_ok _
      · exact faultsIn_ok _
    rw [resourceType, Logged.outcome_bind]
    refine hbase.bind fun base => ?_
    split
    · exact faultsIn_pure _
    · simp only [Logged.outcome_bind]
      refine FaultsIn.bind ?_ fun text => (faultsIn_ok ()).bind fun _ => faultsIn_pure _
      exact (ht.textFor ha.text _).bind fun _ => faultsIn_pure _

theorem resource_faultsIn (ht : Tolerance s T F) {r : Request Json} (hr : r.All T) :
    FaultsIn F (resource s r).outcome := by
  unfold resource
  cases harguments : r.arguments with
  | nil => exact faultsIn_ok _
  | cons a rest =>
    have ha := (hr.arguments a (by simp [harguments])).value
    have hkey : FaultsIn F a.value.trimmedText :=
      (ht.textFor ha.text _).bind fun _ => faultsIn_pure _
    have htype : FaultsIn F (resourceType s rest).outcome :=
      resourceType_faultsIn ht fun b hb => hr.arguments b (by simp [harguments, hb])
    simp only [Logged.outcome_bind]
    refine hkey.bind fun key => htype.bind fun type => ?_
    exact (faultsIn_ok ()).bind fun _ => faultsIn_pure _

end Expansion

namespace Interface

theorem propertyLines_faultsIn (ht : Tolerance s T F) {properties : List (Property Json)}
    (hproperties : ∀ p ∈ properties, p.All T) (name : String) :
    FaultsIn F (propertyLines name properties).outcome := by
  induction properties with
  | nil => exact faultsIn_pure _
  | cons p properties ih =>
    have hrest := ih fun q hq => hproperties q (by simp [hq])
    unfold propertyLines
    split
    · rename_i type htype
      have hmem : type ∈ p.type := (Option.filter_eq_some_iff.mp htype).1
      have hline : FaultsIn F (propertyText p type) :=
        (ht.textFor ((hproperties p (by simp)).type _ hmem) _).bind fun _ => faultsIn_pure _
      simp only [Logged.outcome_bind]
      exact hline.bind fun line => hrest.bind fun lines => faultsIn_pure _
    · rw [Logged.outcome_bind]
      exact (faultsIn_ok ()).bind fun _ => hrest

theorem requirementText_faultsIn (ht : Tolerance s T F) {m : Method Json} (hm : m.All T) :
    FaultsIn F (requirementText m) := by
  have hparameters : FaultsIn F (m.parameters.mapM parameterText) :=
    .mapM fun p hp => (ht.textFor (hm.parameters p hp).type _).bind fun _ => faultsIn_pure _
  have hresult : FaultsIn F (resultText m.returnType) := by
    unfold resultText
    split
    · rename_i type htype
      have hmem : type ∈ m.returnType := (Option.filter_eq_some_iff.mp htype).1
      exact (ht.textFor (hm.returnType _ hmem) _).bind fun _ => faultsIn_pure _
    · exact faultsIn_ok _
  refine hparameters.bind fun parameters => ?_
  exact (ht.joinable hm.effects 0).bind fun effects => hresult.bind fun result => faultsIn_pure _

theorem extract_faultsIn (ht : Tolerance s T F) {d : Declaration Json} (hd : d.All T) :
    FaultsIn F (extract s d).outcome := by
  have hproperties := propertyLines_faultsIn ht (fun _ hp => hd.exposedProperties hp)
    (interfaceName s d)
  have hrequirements : FaultsIn F (requirementTexts d) := by
    refine .mapM fun m hm => requirementText_faultsIn ht (hd.methods ?_)
    exact (List.mem_filter.mp (List.mem_filter.mp hm).1).1
  have hsections (properties requirements : List String) :
      FaultsIn F (sectionTexts s properties requirements) :=
    .mapM fun _ _ => ht.indent.bind fun _ => faultsIn_pure _
  simp only [extract, Logged.outcome_bind]
  refine hproperties.bind fun properties => hrequirements.bind fun requirements => ?_
  exact (hsections _ _).bind fun sections => (faultsIn_ok ()).bind fun _ => faultsIn_pure _

theorem expand_faultsIn (ht : Tolerance s T F) {d : Declaration Json} (hd : d.All T) :
    FaultsIn F (expand s d).outcome := by
  unfold expand
  cases d.kind with
  | referenceType =>
    rw [Logged.outcome_bind]
    exact (extract_faultsIn ht hd).bind fun _ => faultsIn_pure _
  | _ => exact faultsIn_ok _

end Interface

namespace Mapping

theorem acceptsDecoder_faultsIn (ht : Tolerance s T F) {m : Method Json} (hm : m.All T) :
    FaultsIn F (acceptsDecoder s m) := by
  unfold acceptsDecoder
  split
  · rename_i p hp
    split
    · have htype := (hm.parameters p (by simp [hp])).type
      exact (ht.textFor htype _).bind fun _ => faultsIn_pure _
    · exact faultsIn_ok _
  · exact faultsIn_ok _

theorem hasDecodingInitializer_faultsIn (ht : Tolerance s T F) {d : Declaration Json}
    (hd : d.All T) : FaultsIn F (hasDecodingInitializer s d) := by
  refine .anyM fun m hm => ?_
  split
  · exact acceptsDecoder_faultsIn ht (hd.methods hm)
  · exact faultsIn_ok _

theorem hasMappingFunction_faultsIn (ht : Tolerance s T F) {d : Declaration Json} (hd : d.All T) :
    FaultsIn F (hasMappingFunction s d) := by
  refine .anyM fun m hm => ?_
  split
  · exact acceptsDecoder_faultsIn ht (hd.methods hm)
  · exact faultsIn_ok _

theorem initializer_faultsIn (ht : Tolerance s T F) {d : Declaration Json} (hd : d.All T)
    (shape : Shape) : FaultsIn F (initializer s d shape).outcome := by
  rw [initializer, Logged.outcome_bind]
  refine (hasDecodingInitializer_faultsIn ht hd).bind fun found => ?_
  cases found with
  | true => exact faultsIn_ok _
  | false =>
    simp only [Bool.false_eq_true, if_false, Logged.outcome_bind]
    exact ht.indent.bind fun _ => faultsIn_pure _

theorem mappingFunction_faultsIn (ht : Tolerance s T F) {d : Declaration Json} (hd : d.All T)
    (shape : Shape) : FaultsIn F (mappingFunction s d shape).outcome := by
  have hbindings : FaultsIn F (bindingTexts s d) := by
    refine .mapM fun p hp => (ht.literal ?_).bind fun _ => faultsIn_pure _
    exact (hd.exposedProperties (List.mem_filter.mp hp).1).name
  rw [mappingFunction, Logged.outcome_bind]
  refine (hasMappingFunction_faultsIn ht hd).bind fun found => ?_
  cases found with
  | true => exact faultsIn_ok _
  | false =>
    simp only [Bool.false_eq_true, if_false, Logged.outcome_bind]
    exact hbindings.bind fun bindings => ht.indent.bind fun _ => faultsIn_pure _

theorem conformance_faultsIn (ht : Tolerance s T F) {d : Declaration Json} (hd : d.All T)
    (shape : Shape) : FaultsIn F (conformance s d shape).outcome := by
  have hinherits : FaultsIn F (d.inheritsFrom (.text s.conformanceName)) :=
    .anyM fun entry hentry => ht.namesType (hd.inherits entry hentry) _
  unfold conformance
  split
  · exact faultsIn_ok _
  · rw [Logged.outcome_bind]
    refine hinherits.bind fun inherits => ?_
    cases inherits <;> exact faultsIn_ok _

theorem synthesize_faultsIn (ht : Tolerance s T F) {d : Declaration Json} (hd : d.All T)
    (shape : Shape) : FaultsIn F (synthesize s d shape).outcome := by
  simp only [synthesize, Logged.outcome_bind]
  refine (initializer_faultsIn ht hd shape).bind fun first => ?_
  refine (mappingFunction_faultsIn ht hd shape).bind fun second => ?_
  exact (conformance_faultsIn ht hd shape).bind fun third => faultsIn_pure _

theorem expand_faultsIn (ht : Tolerance s T F) (r : Request Json) {d : Declaration Json}
    (hd : d.All T) : FaultsIn F (expand s r d).outcome := by
  have hparts (shape : Shape) : FaultsIn F
      (do return { declarations := ← synthesize s d shape } : Draft Output).outcome := by
    rw [Logged.outcome_bind]
    exact (synthesize_faultsIn ht hd shape).bind fun _ => faultsIn_pure _
  unfold expand
  cases d.kind with
  | valueType =>
    cases isSubclassRequested r.arguments with
    | true => exact (faultsIn_ok ()).bind fun _ => hparts _
    | false => exact hparts _
  | referenceType =>
    dsimp only
    split
    · exact faultsIn_ok _
    · exact hparts _
  | interface => exact faultsIn_ok _
  | enumeration => exact faultsIn_ok _

end Mapping

end

end SwiftExpansion
