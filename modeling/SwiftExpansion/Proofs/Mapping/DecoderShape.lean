import Mathlib.Logic.Relation
import SwiftExpansion.Mapping.Decoder
import SwiftExpansion.Proofs.Wire.Entries

/-!
# The shape of a method that takes the decoder

Whether a method takes the decoder is a matter of its shape: of its only parameter it takes the label
at call sites, the passing by reference, and the type without its blanks. Of the settings it takes
the label of the decoder and the set of its types, again without their blanks. Everything else about
a method, and how often, in what order and with what blanks the types are listed, may be changed any
number of times; no answer about a method or about a declaration with it becomes another one.
-/
namespace SwiftExpansion

/-- What every single change keeps is kept by any number of them, made and unmade. -/
theorem eq_of_eqvGen {α β : Type} {r : α → α → Prop} (f : α → β)
    (hstep : ∀ {x y}, r x y → f y = f x) {x y : α} (h : Relation.EqvGen r x y) : f y = f x := by
  induction h with
  | rel x y hxy => exact hstep hxy
  | refl x => rfl
  | symm x y _ ih => exact ih.symm
  | trans x y z _ _ hxy hyz => exact hyz.trans hxy

namespace Text

/-- One blank more, anywhere in a text. -/
inductive BlankInserted : String → String → Prop
  | between (u v : String) (b : Char) (hb : isBlank b = true) :
      BlankInserted (u ++ v) (u ++ String.singleton b ++ v)

theorem BlankInserted.squeezed_eq {s t : String} (h : BlankInserted s t) :
    squeezed t = squeezed s := by
  cases h with
  | between u v b hb => simp [squeezed, squeeze, hb]

end Text

/-! Changes that do not touch the shape of a method. -/

inductive Parameter.Retouched : Parameter Json → Parameter Json → Prop
  | defaultValue (p : Parameter Json) (defaultValue : Option Json) :
      Retouched p { p with defaultValue }
  | name (p : Parameter Json) {label : Json} (h : p.label = some label) (name : Json) :
      Retouched p { p with name }
  | type (p : Parameter Json) {t t' : String} (h : p.type = .text t)
      (hblank : Text.BlankInserted t t') : Retouched p { p with type := .text t' }

inductive Method.Retouched : Method Json → Method Json → Prop
  | modifiers (m : Method Json) (modifiers : List Json) : Retouched m { m with modifiers }
  | visibility (m : Method Json) (visibility : Visibility) : Retouched m { m with visibility }
  | effects (m : Method Json) (effects : List Json) : Retouched m { m with effects }
  | genericClause (m : Method Json) (genericClause : Option Json) :
      Retouched m { m with genericClause }
  | returnType (m : Method Json) (returnType : Option Json) : Retouched m { m with returnType }
  | hasBody (m : Method Json) (hasBody : Bool) : Retouched m { m with hasBody }
  | parameter (m : Method Json) {before after : List (Parameter Json)} {p p' : Parameter Json}
      (h : m.parameters = before ++ p :: after) (hp : p.Retouched p') :
      Retouched m { m with parameters := before ++ p' :: after }

inductive Declaration.Retouched : Declaration Json → Declaration Json → Prop
  | method (d : Declaration Json) {before after : List (Member Json)} {m m' : Method Json}
      (h : d.members = before ++ .method m :: after) (hm : m.Retouched m') :
      Retouched d { d with members := before ++ .method m' :: after }

/-- A change to the way in which the types of the decoder are listed. -/
inductive Settings.Retouched : Settings → Settings → Prop
  | decoderType (s : Settings) {t : String} (h : Text.BlankInserted s.decoderType t) :
      Retouched s { s with decoderType := t }
  | acceptedType (s : Settings) {before after : List String} {t t' : String}
      (h : s.acceptedDecoderTypes = before ++ t :: after) (hblank : Text.BlankInserted t t') :
      Retouched s { s with acceptedDecoderTypes := before ++ t' :: after }
  | permuted (s : Settings) {types : List String} (h : s.acceptedDecoderTypes.Perm types) :
      Retouched s { s with acceptedDecoderTypes := types }
  | repeated (s : Settings) {t : String} (h : t ∈ s.acceptedDecoderTypes) :
      Retouched s { s with acceptedDecoderTypes := t :: s.acceptedDecoderTypes }

namespace Mapping

/-! What is left when all of these changes are made out of sight. -/

/-- A parameter as the search for the decoder sees it. -/
structure ParameterShape where
  label : Json
  isInout : Bool
  type : Except Fault String

structure MethodShape where
  name : Json
  isFailable : Bool
  parameters : List ParameterShape

/-- What the settings ask of a method that takes the decoder. -/
structure Decoder where
  label : String
  function : String
  isType : String → Bool

def shapeOfParameter (p : Parameter Json) : ParameterShape :=
  ⟨p.argumentLabel, p.isInout, Text.squeezed <$> p.type.textFor "split"⟩

def shapeOfMethod (m : Method Json) : MethodShape :=
  ⟨m.name, m.isFailable, m.parameters.map shapeOfParameter⟩

def decoderOf (s : Settings) : Decoder :=
  ⟨s.decoderParameter, s.mappingFunction, (decoderSpellings s).contains⟩

def Decoder.accepts (decoder : Decoder) : List ParameterShape → Except Fault Bool
  | [p] =>
    if p.label.isText decoder.label && !p.isInout then decoder.isType <$> p.type else .ok false
  | _ => .ok false

/-- A method is asked for its shape and for nothing else. -/
theorem acceptsDecoder_eq (s : Settings) (m : Method Json) :
    acceptsDecoder s m = (decoderOf s).accepts (shapeOfMethod m).parameters := by
  unfold acceptsDecoder shapeOfMethod
  match m.parameters with
  | [] => rfl
  | [p] =>
    have htype : (do
        let type ← p.type.textFor "split"
        return (decoderSpellings s).contains (Text.squeezed type)) =
          (decoderOf s).isType <$> Text.squeezed <$> p.type.textFor "split" := by
      cases p.type.textFor "split" <;> rfl
    simp only [htype]
    rfl
  | p :: q :: rest => rfl

/-- So is a declaration, for the shapes of its methods. -/
theorem hasDecodingInitializer_eq (s : Settings) (d : Declaration Json) :
    hasDecodingInitializer s d = (d.methods.map shapeOfMethod).anyM fun m =>
      if m.name.isText "init" && m.isFailable then (decoderOf s).accepts m.parameters
      else .ok false := by
  rw [hasDecodingInitializer, Except.anyM_map]
  simp only [acceptsDecoder_eq]
  rfl

theorem hasMappingFunction_eq (s : Settings) (d : Declaration Json) :
    hasMappingFunction s d = (d.methods.map shapeOfMethod).anyM fun m =>
      if m.name.isText (decoderOf s).function then (decoderOf s).accepts m.parameters
      else .ok false := by
  rw [hasMappingFunction, Except.anyM_map]
  simp only [acceptsDecoder_eq]
  rfl

theorem shapeOfParameter_retouched {p p' : Parameter Json} (h : p.Retouched p') :
    shapeOfParameter p' = shapeOfParameter p := by
  cases h with
  | defaultValue => rfl
  | name h => simp [shapeOfParameter, Parameter.argumentLabel, h]
  | type h hblank =>
    simp [shapeOfParameter, Parameter.argumentLabel, Json.textFor, h, hblank.squeezed_eq]

theorem shapeOfMethod_retouched {m m' : Method Json} (h : m.Retouched m') :
    shapeOfMethod m' = shapeOfMethod m := by
  cases h with
  | parameter h hp => simp [shapeOfMethod, h, shapeOfParameter_retouched hp]
  | _ => rfl

theorem shapes_retouched {d d' : Declaration Json} (h : d.Retouched d') :
    d'.methods.map shapeOfMethod = d.methods.map shapeOfMethod := by
  cases h with
  | method h hm =>
    simp [Declaration.methods, h, Member.method?, shapeOfMethod_retouched hm]

theorem decoderOf_retouched {s s' : Settings} (h : s.Retouched s') :
    decoderOf s' = decoderOf s := by
  have hset (hparameter : s'.decoderParameter = s.decoderParameter)
      (hfunction : s'.mappingFunction = s.mappingFunction)
      (htypes : ∀ t, t ∈ decoderSpellings s' ↔ t ∈ decoderSpellings s) :
      decoderOf s' = decoderOf s := by
    have htest : (decoderSpellings s').contains = (decoderSpellings s).contains := by
      funext t
      simp [htypes]
    simp [decoderOf, hparameter, hfunction, htest]
  cases h with
  | decoderType h =>
    apply hset rfl rfl
    intro t
    simp [decoderSpellings, h.squeezed_eq]
  | acceptedType h hblank =>
    apply hset rfl rfl
    intro t
    simp [decoderSpellings, h, hblank.squeezed_eq]
  | permuted h =>
    apply hset rfl rfl
    intro t
    simp [decoderSpellings, h.mem_iff]
  | repeated h =>
    apply hset rfl rfl
    intro t
    have hmem := List.mem_map_of_mem (f := Text.squeezed) h
    simp only [decoderSpellings, List.map_cons, List.mem_cons]
    grind

theorem acceptsDecoder_of_singleton {s : Settings} {m : Method Json} {p : Parameter Json}
    (h : m.parameters = [p]) : acceptsDecoder s m =
      if p.argumentLabel.isText s.decoderParameter && !p.isInout then do
        let type ← p.type.textFor "split"
        return (decoderSpellings s).contains (Text.squeezed type)
      else .ok false := by
  rw [acceptsDecoder, h]

theorem acceptsDecoder_of_not_singleton {s : Settings} {m : Method Json}
    (h : ¬ ∃ p, m.parameters = [p]) : acceptsDecoder s m = .ok false := by
  rw [acceptsDecoder]
  split
  · rename_i p hp
    exact absurd ⟨p, hp⟩ h
  · rfl

theorem acceptsDecoder_eq_true_iff (s : Settings) (m : Method Json) :
    acceptsDecoder s m = .ok true ↔ ∃ p type, m.parameters = [p] ∧ p.isInout = false ∧
      p.label.getD p.name = .text s.decoderParameter ∧ p.type = .text type ∧
      (Text.squeezed type = Text.squeezed s.decoderType ∨
        ∃ t ∈ s.acceptedDecoderTypes, Text.squeezed t = Text.squeezed type) := by
  have htype {j : Json} {type : String} : j.textFor "split" = .ok type ↔ j = .text type := by
    cases j <;> simp [Json.textFor]
  by_cases hsingle : ∃ p, m.parameters = [p]
  · obtain ⟨p, hparameters⟩ := hsingle
    rw [acceptsDecoder_of_singleton hparameters]
    by_cases hshape : (p.argumentLabel.isText s.decoderParameter && !p.isInout) = true
    · rw [if_pos hshape]
      simp only [Bool.and_eq_true, Bool.not_eq_true', Json.isText_eq_true,
        Parameter.argumentLabel] at hshape
      simp [htype, decoderSpellings, hparameters, hshape]
    · rw [if_neg hshape]
      simp only [Bool.and_eq_true, Bool.not_eq_true', Json.isText_eq_true,
        Parameter.argumentLabel] at hshape
      constructor
      · intro h
        cases h
      · rintro ⟨q, type, hq, hinout, hlabel, -⟩
        cases hparameters.symm.trans hq
        exact absurd ⟨hlabel, hinout⟩ hshape
  · rw [acceptsDecoder_of_not_singleton hsingle]
    constructor
    · intro h
      cases h
    · rintro ⟨p, -, hparameters, -⟩
      exact absurd ⟨p, hparameters⟩ hsingle

theorem acceptsDecoder_of_texts {s : Settings} {m : Method Json}
    (h : ∀ p ∈ m.parameters, ∃ type, p.type = .text type) :
    ∃ answer, acceptsDecoder s m = .ok answer := by
  by_cases hsingle : ∃ p, m.parameters = [p]
  · obtain ⟨p, hparameters⟩ := hsingle
    obtain ⟨type, htype⟩ := h p (by simp [hparameters])
    rw [acceptsDecoder_of_singleton hparameters, htype]
    split
    · exact ⟨_, rfl⟩
    · exact ⟨false, rfl⟩
  · exact ⟨false, acceptsDecoder_of_not_singleton hsingle⟩

/-- A method takes the decoder exactly if its shape is the one asked for, and whenever the types of
its parameters are texts there is an answer. Whatever is changed about a method besides its shape,
and however the types of the decoder are listed, all answers stay what they are. -/
theorem acceptsDecoder_shape_only :
    (∀ (s : Settings) (m : Method Json),
      acceptsDecoder s m = .ok true ↔ ∃ p type, m.parameters = [p] ∧ p.isInout = false ∧
        p.label.getD p.name = .text s.decoderParameter ∧ p.type = .text type ∧
        (Text.squeezed type = Text.squeezed s.decoderType ∨
          ∃ t ∈ s.acceptedDecoderTypes, Text.squeezed t = Text.squeezed type)) ∧
    (∀ (s : Settings) (m : Method Json), (∀ p ∈ m.parameters, ∃ type, p.type = .text type) →
      ∃ answer, acceptsDecoder s m = .ok answer) ∧
    ∀ s s' : Settings, Relation.EqvGen Settings.Retouched s s' →
      (∀ m m' : Method Json, Relation.EqvGen Method.Retouched m m' →
        acceptsDecoder s' m' = acceptsDecoder s m) ∧
      ∀ d d' : Declaration Json, Relation.EqvGen Declaration.Retouched d d' →
        hasDecodingInitializer s' d' = hasDecodingInitializer s d ∧
          hasMappingFunction s' d' = hasMappingFunction s d := by
  refine ⟨acceptsDecoder_eq_true_iff, fun s m => acceptsDecoder_of_texts, ?_⟩
  intro s s' hs
  have hdecoder : decoderOf s' = decoderOf s := eq_of_eqvGen decoderOf decoderOf_retouched hs
  constructor
  · intro m m' hm
    have hshape : shapeOfMethod m' = shapeOfMethod m :=
      eq_of_eqvGen shapeOfMethod shapeOfMethod_retouched hm
    rw [acceptsDecoder_eq, acceptsDecoder_eq, hdecoder, hshape]
  · intro d d' hd
    have hshapes : d'.methods.map shapeOfMethod = d.methods.map shapeOfMethod :=
      eq_of_eqvGen (fun d : Declaration Json => d.methods.map shapeOfMethod) shapes_retouched hd
    rw [hasDecodingInitializer_eq, hasDecodingInitializer_eq, hasMappingFunction_eq,
      hasMappingFunction_eq, hdecoder, hshapes]
    exact ⟨rfl, rfl⟩

def decodingInitializer (name type : String) : Method Json :=
  ⟨.text "init", [⟨.text name, .text type, some (.text "map"), none, false⟩], .internalLevel, true,
    none, [], [], none, true⟩

def structWith (m : Method Json) : Declaration Json :=
  ⟨.valueType, .text "A", [], [.method m]⟩

/-- With a type that is listed twice, an initializer is renamed inside and gets a blank. -/
theorem acceptsDecoder_shape_only_spaced :
    let s : Settings := { acceptedDecoderTypes := ["Map", "Map", "ObjectMapper.Map"] }
    acceptsDecoder s (decodingInitializer "json" "Ma p") = .ok true ∧
      hasDecodingInitializer s (structWith (decodingInitializer "json" "Ma p")) =
        hasDecodingInitializer {} (structWith (decodingInitializer "m" "Map")) := by
  intro s
  obtain ⟨hshape, -, hretouched⟩ := acceptsDecoder_shape_only
  have hplain : acceptsDecoder {} (decodingInitializer "m" "Map") = .ok true :=
    (hshape _ _).mpr ⟨_, "Map", rfl, rfl, rfl, rfl, .inr ⟨"Map", by decide, rfl⟩⟩
  have hname : (decodingInitializer "m" "Map").Retouched (decodingInitializer "json" "Map") :=
    @Method.Retouched.parameter _ [] [] _ _ rfl (.name _ rfl _)
  have hblank : Text.BlankInserted "Map" "Ma p" := .between "Ma" "p" ' ' (by decide)
  have htype : (decodingInitializer "json" "Map").Retouched (decodingInitializer "json" "Ma p") :=
    @Method.Retouched.parameter _ [] [] _ _ rfl (.type _ rfl hblank)
  have hinside {m m' : Method Json} (h : m.Retouched m') :
      (structWith m).Retouched (structWith m') :=
    @Declaration.Retouched.method _ [] [] _ _ rfl h
  have hsettings : Settings.Retouched {} s := .repeated _ (by decide)
  obtain ⟨hmethods, hdeclarations⟩ := hretouched _ s (.rel _ _ hsettings)
  constructor
  · rw [hmethods _ _ (.trans _ _ _ (.rel _ _ hname) (.rel _ _ htype)), hplain]
  · exact (hdeclarations _ _
      (.trans _ _ _ (.rel _ _ (hinside hname)) (.rel _ _ (hinside htype)))).1

end Mapping

end SwiftExpansion
