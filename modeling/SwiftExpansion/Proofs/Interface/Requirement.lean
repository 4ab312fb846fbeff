import SwiftExpansion.Proofs.Interface.Lines
import SwiftExpansion.Proofs.Text

/-!
# What a requirement says of a method

The modifiers in front of a requirement are normalised: those of a method that keep their meaning,
each one once. The text of a parameter says everything about its shape, and nothing about its
default. Both are told by looking at texts. The modifiers are the words in front of the keyword, and
the parts of a parameter are found between blanks and colons, since there are none in a name.
-/
namespace SwiftExpansion.Interface

/-! Modifiers. -/

/-- The words of a text in front of the keyword of a method. -/
def modifiersIn (text : String) : List String :=
  ((text.toList.splitOn ' ').map String.ofList).takeWhile (· ≠ "func")

/-- A class method is a static one to whoever requires it. -/
def normalModifier (modifier : String) : String :=
  if modifier = "class" then "static" else modifier

theorem normalModifier_of_mem {w : String} (h : w ∈ allowedModifiers) : normalModifier w = w := by
  have hclass : w ≠ "class" := by
    rintro rfl
    exact absurd h (by decide)
  exact if_neg hclass

theorem requirementModifier?_text (modifier : String) :
    requirementModifier? (.text modifier) =
      if normalModifier modifier ∈ allowedModifiers then some (normalModifier modifier)
      else none := by
  by_cases hclass : modifier = "class"
  · simp [requirementModifier?, normalModifier, allowedModifiers, Json.isText, hclass]
  · have hfind : requirementModifier? (.text modifier) =
        allowedModifiers.find? (modifier == ·) := by
      simp [requirementModifier?, Json.isText, hclass]
    rw [hfind, normalModifier, if_neg hclass]
    by_cases hmem : modifier ∈ allowedModifiers
    · rw [if_pos hmem]
      simp only [allowedModifiers, List.mem_cons, List.not_mem_nil, or_false] at hmem
      obtain rfl | rfl | rfl := hmem <;> rfl
    · rw [if_neg hmem, List.find?_eq_none]
      rintro w hw heq
      exact hmem (eq_of_beq heq ▸ hw)

/-- Whether a list is made of the allowed ones among the given modifiers, each once, in the order in
which they come first. -/
structure Collects (given found : List String) : Prop where
  mem : ∀ w, w ∈ found ↔ w ∈ allowedModifiers ∧ w ∈ given
  order : found.Pairwise fun v w => given.idxOf v < given.idxOf w

namespace Collects

variable {given found : List String}

theorem nil : Collects [] [] :=
  ⟨by simp, List.Pairwise.nil⟩

theorem nodup (h : Collects given found) : found.Nodup :=
  h.order.imp fun hlt heq => absurd hlt (by simp [heq])

/-- More modifiers behind the given ones leave the order of the found ones as it is. -/
theorem order_append (h : Collects given found) (more : List String) :
    found.Pairwise fun v w => (given ++ more).idxOf v < (given ++ more).idxOf w := by
  refine h.order.imp_of_mem fun {v w} hv hw hlt => ?_
  rwa [List.idxOf_append_of_mem ((h.mem v).mp hv).2, List.idxOf_append_of_mem ((h.mem w).mp hw).2]

theorem skip (h : Collects given found) {w : String} (hw : w ∉ allowedModifiers ∨ w ∈ found) :
    Collects (given ++ [w]) found := by
  refine ⟨fun v => ?_, h.order_append [w]⟩
  rw [h.mem, List.mem_append, List.mem_singleton]
  constructor
  · exact fun ⟨hallowed, hgiven⟩ => ⟨hallowed, .inl hgiven⟩
  · rintro ⟨hallowed, hgiven | rfl⟩
    · exact ⟨hallowed, hgiven⟩
    · exact (h.mem v).mp (hw.resolve_left (not_not_intro hallowed))

theorem take (h : Collects given found) {w : String} (hw : w ∈ allowedModifiers)
    (hnew : w ∉ found) : Collects (given ++ [w]) (found ++ [w]) := by
  have hfirst : w ∉ given := fun hgiven => hnew ((h.mem w).mpr ⟨hw, hgiven⟩)
  constructor
  · intro v
    rw [List.mem_append, List.mem_append, List.mem_singleton, h.mem]
    constructor
    · rintro (⟨hallowed, hgiven⟩ | rfl)
      · exact ⟨hallowed, .inl hgiven⟩
      · exact ⟨hw, .inr rfl⟩
    · rintro ⟨hallowed, hgiven | rfl⟩
      · exact .inl ⟨hallowed, hgiven⟩
      · exact .inr rfl
  · rw [List.pairwise_append]
    refine ⟨h.order_append [w], List.pairwise_singleton _ _, fun v hv u hu => ?_⟩
    obtain rfl := List.mem_singleton.mp hu
    -- What was found occurs among the given ones; the new one does not, and is last.
    have hbefore := List.idxOf_lt_length_of_mem ((h.mem v).mp hv).2
    rw [List.idxOf_append_of_mem ((h.mem v).mp hv).2, List.idxOf_append_of_notMem hfirst]
    omega

end Collects

/-- What was collected from the modifiers in front stays right while the rest is gone through. -/
theorem collects_modifiersFrom {given found : List String} (h : Collects given found)
    (modifiers : List String) :
    Collects (given ++ modifiers.map normalModifier)
      (modifiersFrom found (modifiers.map .text)) := by
  induction modifiers generalizing given found with
  | nil => simpa [modifiersFrom] using h
  | cons modifier modifiers ih =>
    -- The modifier at the front becomes the last of the given ones.
    rw [List.map_cons, List.map_cons, modifiersFrom, requirementModifier?_text,
      List.append_cons given]
    by_cases hallowed : normalModifier modifier ∈ allowedModifiers
    · rw [if_pos hallowed]
      by_cases hfound : normalModifier modifier ∈ found
      · simpa only [if_pos hfound] using ih (h.skip (.inr hfound))
      · simpa only [if_neg hfound] using ih (h.take hallowed hfound)
    · rw [if_neg hallowed]
      exact ih (h.skip (.inl hallowed))

theorem collects_requirementModifiers (modifiers : List String) :
    Collects (modifiers.map normalModifier) (requirementModifiers (modifiers.map .text)) :=
  collects_modifiersFrom Collects.nil modifiers

theorem modifiersFrom_of_nodup {found modifiers : List String} (hnodup : (found ++ modifiers).Nodup)
    (hallowed : ∀ w ∈ modifiers, w ∈ allowedModifiers) :
    modifiersFrom found (modifiers.map .text) = found ++ modifiers := by
  induction modifiers generalizing found with
  | nil => simp [modifiersFrom]
  | cons w modifiers ih =>
    obtain ⟨hw, hrest⟩ := List.forall_mem_cons.mp hallowed
    have hnew : w ∉ found := fun hfound =>
      (List.nodup_append.mp hnodup).2.2 w hfound w List.mem_cons_self rfl
    have hnormal := normalModifier_of_mem hw
    rw [List.append_cons] at hnodup ⊢
    rw [List.map_cons, modifiersFrom, requirementModifier?_text, hnormal, if_pos hw]
    simpa only [if_neg hnew] using ih hnodup hrest

theorem requirementModifiers_of_collects {given found : List String} (h : Collects given found) :
    requirementModifiers (found.map .text) = found :=
  modifiersFrom_of_nodup (by simpa using h.nodup) fun w hw => ((h.mem w).mp hw).1

theorem modifiersIn_cons {w : String} (hword : ' ' ∉ w.toList) (hkeyword : w ≠ "func")
    (text : String) : modifiersIn (w ++ " " ++ text) = w :: modifiersIn text := by
  have hsplit : (w ++ " " ++ text).toList.splitOn ' ' = w.toList :: text.toList.splitOn ' ' := by
    rw [String.toList_append, String.toList_append, List.append_assoc]
    exact List.splitOn_append_cons_self_of_not_mem hword text.toList
  rw [modifiersIn, hsplit, List.map_cons, String.ofList_toList, modifiersIn,
    List.takeWhile_cons_of_pos (by simpa using hkeyword)]

theorem modifiersIn_keyword (text : String) : modifiersIn ("func " ++ text) = [] := by
  have hkeyword : ' ' ∉ "func".toList := by decide
  have hsplit : ("func " ++ text).toList.splitOn ' ' =
      "func".toList :: text.toList.splitOn ' ' := by
    rw [String.toList_append]
    exact List.splitOn_append_cons_self_of_not_mem hkeyword text.toList
  rw [modifiersIn, hsplit]
  simp

theorem modifiersIn_intercalate {words : List String} (hwords : ∀ w ∈ words, w ∈ allowedModifiers)
    (text : String) : modifiersIn (" ".intercalate (words ++ ["func " ++ text])) = words := by
  induction words with
  | nil => simpa using modifiersIn_keyword text
  | cons w words ih =>
    obtain ⟨hw, hrest⟩ := List.forall_mem_cons.mp hwords
    have hplain : ∀ w ∈ allowedModifiers, ' ' ∉ w.toList ∧ w ≠ "func" := by decide
    rw [List.cons_append, String.intercalate_cons_of_ne_nil (by simp),
      modifiersIn_cons (hplain w hw).1 (hplain w hw).2, ih hrest]

/-- Modifiers stand in front of the requirement of the method without any. -/
theorem requirementLine_eq_intercalate (m : Method String) :
    requirementLine m = " ".intercalate (requirementModifiers (m.modifiers.map .text) ++
      [requirementLine { m with modifiers := [] }]) := by
  obtain ⟨rest, hrest, hne⟩ : ∃ rest, [signatureLine m] ++ m.effects = rest ∧ rest ≠ [] :=
    ⟨_, rfl, by simp⟩
  have hbare : requirementLine { m with modifiers := [] } =
      " ".intercalate rest ++ resultLine m.returnType := by
    rw [← hrest]
    rfl
  rw [hbare, requirementLine, List.append_assoc, hrest]
  cases requirementModifiers (m.modifiers.map .text) with
  | nil => simp
  | cons w words =>
    rw [String.intercalate_append_of_ne_nil (List.cons_ne_nil w words) hne,
      String.intercalate_append_of_ne_nil (List.cons_ne_nil w words) (by simp),
      String.intercalate_singleton, String.append_assoc]

theorem exists_intercalate_cons (sep s : String) (rest : List String) :
    ∃ tail, sep.intercalate (s :: rest) = s ++ tail := by
  cases rest with
  | nil => exact ⟨"", by simp⟩
  | cons next rest =>
    refine ⟨sep ++ sep.intercalate (next :: rest), ?_⟩
    rw [String.intercalate_cons_of_ne_nil (by simp), String.append_assoc]

theorem exists_requirementLine_eq (m : Method String) :
    ∃ text, requirementLine { m with modifiers := [] } = "func " ++ text := by
  obtain ⟨tail, htail⟩ := exists_intercalate_cons " " (signatureLine m) m.effects
  have hbare : requirementLine { m with modifiers := [] } =
      signatureLine m ++ tail ++ resultLine m.returnType := by
    rw [← htail]
    rfl
  rw [hbare, signatureLine]
  simp only [String.append_assoc]
  exact ⟨_, rfl⟩

theorem modifiersIn_requirementLine (m : Method String) :
    modifiersIn (requirementLine m) = requirementModifiers (m.modifiers.map .text) := by
  obtain ⟨text, htext⟩ := exists_requirementLine_eq m
  rw [requirementLine_eq_intercalate, htext]
  exact modifiersIn_intercalate
    (fun w hw => (((collects_requirementModifiers m.modifiers).mem w).mp hw).1) text

/-- The modifiers of a requirement, as they are read off its text: those of the method that keep
their meaning, each one once, in the order in which they come first. The rest of the text does not
depend on them, and the requirement of the method with just these modifiers is the same. -/
theorem requirementText_modifiers (m : Method String) :
    ∃ text bare, requirementText (m.map .text) = .ok text ∧
      requirementText (Method.map .text { m with modifiers := [] }) = .ok bare ∧
      let given := m.modifiers.map normalModifier
      let printed := modifiersIn text
      text = " ".intercalate (printed ++ [bare]) ∧
        printed.Nodup ∧
        (∀ w, w ∈ printed ↔ w ∈ ["static", "mutating", "nonmutating"] ∧ w ∈ given) ∧
        (printed.Pairwise fun v w => given.idxOf v < given.idxOf w) ∧
        requirementText (Method.map .text { m with modifiers := printed }) = .ok text := by
  refine ⟨requirementLine m, requirementLine { m with modifiers := [] }, requirementText_map m,
    requirementText_map _, ?_⟩
  have hcollects := collects_requirementModifiers m.modifiers
  have hsame :
      requirementLine { m with modifiers := requirementModifiers (m.modifiers.map .text) } =
        requirementLine m := by
    rw [requirementLine_eq_intercalate, requirementLine_eq_intercalate m,
      requirementModifiers_of_collects hcollects]
  intro given printed
  have hprinted : printed = requirementModifiers (m.modifiers.map .text) :=
    modifiersIn_requirementLine m
  rw [hprinted]
  refine ⟨requirementLine_eq_intercalate m, hcollects.nodup, hcollects.mem, hcollects.order, ?_⟩
  rw [requirementText_map, hsame]

example : requirementModifiers (["final", "class", "mutating", "static"].map .text) =
    ["static", "mutating"] :=
  rfl

/-! Parameters. -/

/-- Whether a text can be a name: it has no blanks and no colon. -/
def IsWord (s : String) : Prop :=
  ∀ c ∈ s.toList, Text.isBlank c = false ∧ c ≠ ':'

/-- Whether the names of a parameter are names, and its type cannot be taken for the mark of a
parameter that is passed by reference. -/
@[mk_iff]
structure IsLegible (p : Parameter String) : Prop where
  name : IsWord p.name
  label : ∀ l ∈ p.label, IsWord l
  type : ¬ "inout ".toList <+: (Text.trimmed p.type).toList

instance (s : String) : Decidable (IsWord s) :=
  List.decidableBAll _ s.toList

instance (p : Parameter String) : Decidable (IsLegible p) :=
  decidable_of_iff _ (isLegible_iff p).symm

theorem IsWord.not_mem_blank {s : String} (h : IsWord s) : ' ' ∉ s.toList := by
  intro hmem
  exact absurd (h ' ' hmem).1 (by decide)

theorem IsWord.not_mem_colon {s : String} (h : IsWord s) : ':' ∉ s.toList :=
  fun hmem => (h ':' hmem).2 rfl

theorem IsLegible.argumentLabel {p : Parameter String} (h : IsLegible p) :
    IsWord p.argumentLabel := by
  cases hlabel : p.label with
  | none => simpa [Parameter.argumentLabel, hlabel] using h.name
  | some label => simpa [Parameter.argumentLabel, hlabel] using h.label label (by simp [hlabel])

def namesLine (p : Parameter String) : String :=
  labelLine p ++ p.name

def typeLine (p : Parameter String) : String :=
  (if p.isInout then "inout " else "") ++ Text.trimmed p.type

theorem parameterLine_eq (p : Parameter String) :
    parameterLine p = namesLine p ++ ": " ++ typeLine p := by
  simp only [parameterLine, namesLine, typeLine, String.append_assoc]

theorem namesLine_eq (p : Parameter String) :
    namesLine p =
      if p.argumentLabel = p.name then p.name else p.argumentLabel ++ " " ++ p.name := by
  cases hlabel : p.label with
  | none => simp [namesLine, labelLine, Parameter.argumentLabel, hlabel]
  | some label =>
    by_cases hsame : label = p.name <;>
      simp [namesLine, labelLine, Parameter.argumentLabel, Option.filter, hlabel, hsame]

theorem IsLegible.not_mem_namesLine {p : Parameter String} (h : IsLegible p) :
    ':' ∉ (namesLine p).toList := by
  rw [namesLine_eq]
  split
  · exact h.name.not_mem_colon
  · simp [h.name.not_mem_colon, h.argumentLabel.not_mem_colon]

/-- The names are between the blanks in front of the colon, the label first and the name last. One
word is both. -/
theorem splitOn_namesLine {p : Parameter String} (h : IsLegible p) :
    (namesLine p).toList.splitOn ' ' =
      if p.argumentLabel = p.name then [p.name.toList]
      else [p.argumentLabel.toList, p.name.toList] := by
  have hname : p.name.toList.splitOn ' ' = [p.name.toList] :=
    List.splitOn_eq_singleton h.name.not_mem_blank
  rw [namesLine_eq]
  split
  · exact hname
  · rw [String.toList_append, String.toList_append, List.append_assoc, ← hname]
    exact List.splitOn_append_cons_self_of_not_mem h.argumentLabel.not_mem_blank p.name.toList

theorem namesLine_inj {p q : Parameter String} (hp : IsLegible p) (hq : IsLegible q) :
    namesLine p = namesLine q ↔ p.argumentLabel = q.argumentLabel ∧ p.name = q.name := by
  have hfirst {r : Parameter String} (hr : IsLegible r) :
      ((namesLine r).toList.splitOn ' ').head? = some r.argumentLabel.toList := by
    rw [splitOn_namesLine hr]
    split <;> simp [*]
  have hlast {r : Parameter String} (hr : IsLegible r) :
      ((namesLine r).toList.splitOn ' ').getLast? = some r.name.toList := by
    rw [splitOn_namesLine hr]
    split <;> rfl
  constructor
  · intro h
    have hlabel := hfirst hp
    have hname := hlast hp
    rw [h] at hlabel hname
    rw [hfirst hq, Option.some.injEq, String.toList_inj] at hlabel
    rw [hlast hq, Option.some.injEq, String.toList_inj] at hname
    exact ⟨hlabel.symm, hname.symm⟩
  · rintro ⟨hlabel, hname⟩
    rw [namesLine_eq, namesLine_eq, hlabel, hname]

theorem IsLegible.inout_prefix_iff {p : Parameter String} (h : IsLegible p) :
    "inout ".toList <+: (typeLine p).toList ↔ p.isInout = true := by
  rw [typeLine, String.toList_append]
  cases p.isInout with
  | true => simp
  | false => simpa using h.type

theorem typeLine_inj {p q : Parameter String} (hp : IsLegible p) (hq : IsLegible q) :
    typeLine p = typeLine q ↔
      p.isInout = q.isInout ∧ Text.trimmed p.type = Text.trimmed q.type := by
  constructor
  · intro h
    have hinout : p.isInout = q.isInout := by
      rw [Bool.eq_iff_iff, ← hp.inout_prefix_iff, ← hq.inout_prefix_iff, h]
    rw [typeLine, typeLine, hinout] at h
    exact ⟨hinout, String.append_right_inj _ |>.mp h⟩
  · rintro ⟨hinout, htype⟩
    rw [typeLine, typeLine, hinout, htype]

theorem parameterLine_inj {p q : Parameter String} (hp : IsLegible p) (hq : IsLegible q) :
    parameterLine p = parameterLine q ↔
      namesLine p = namesLine q ∧ typeLine p = typeLine q := by
  have hchars (r : Parameter String) :
      (parameterLine r).toList = (namesLine r).toList ++ ':' :: ' ' :: (typeLine r).toList := by
    simp [parameterLine_eq]
  rw [← String.toList_inj, hchars, hchars,
    Text.append_cons_inj hp.not_mem_namesLine hq.not_mem_namesLine, List.cons_inj_right,
    String.toList_inj, String.toList_inj]

/-- The text of a parameter tells its label at call sites, its name, whether it is passed by
reference, and its type up to blanks around it. It tells nothing of the default. -/
theorem parameterText_shape (p q : Parameter String) :
    (∀ defaultValue, parameterText (Parameter.map .text { p with defaultValue }) =
      parameterText (p.map .text)) ∧
    (IsLegible p → IsLegible q →
      ∃ s t, parameterText (p.map .text) = .ok s ∧ parameterText (q.map .text) = .ok t ∧
        (s = t ↔ p.argumentLabel = q.argumentLabel ∧ p.name = q.name ∧ p.isInout = q.isInout ∧
          Text.trimmed p.type = Text.trimmed q.type)) := by
  refine ⟨fun _ => rfl, fun hp hq => ?_⟩
  refine ⟨parameterLine p, parameterLine q, parameterText_map p, parameterText_map q, ?_⟩
  rw [parameterLine_inj hp hq, namesLine_inj hp hq, typeLine_inj hp hq, and_assoc]

/-- Two parameters that look the same, with a label that repeats the name, other blanks and another
default, and a third one with a label of its own. -/
theorem parameterText_shape_labelled :
    let p : Parameter String := ⟨"box", "\tBox: Sized", none, some "nil", true⟩
    let q : Parameter String := ⟨"box", "Box: Sized ", some "box", none, true⟩
    let r : Parameter String := ⟨"box", "Box: Sized", some "_", none, true⟩
    (IsLegible p ∧ IsLegible q ∧ IsLegible r) ∧
      parameterText (p.map .text) = parameterText (q.map .text) ∧
      parameterText (q.map .text) ≠ parameterText (r.map .text) := by
  intro p q r
  have hp : IsLegible p := by decide +kernel
  have hq : IsLegible q := by decide +kernel
  have hr : IsLegible r := by decide +kernel
  obtain ⟨s, t, hs, ht, hiff⟩ := (parameterText_shape p q).2 hp hq
  obtain ⟨t', u, ht', hu, hiff'⟩ := (parameterText_shape q r).2 hq hr
  refine ⟨⟨hp, hq, hr⟩, ?_, ?_⟩
  · rw [hs, ht, hiff.mpr (by decide +kernel)]
  · rw [ht', hu]
    intro h
    exact absurd (hiff'.mp (Except.ok.inj h)).1 (by decide)

end SwiftExpansion.Interface
