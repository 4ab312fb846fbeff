import SwiftExpansion.Config.Settings

/-!
# Settings as the values under their keys

Settings are the same as the values that are written under their keys. Seen that way, taking in an
entry puts its value under its key and touches no other, if the value is fit for the key, and does
nothing otherwise. Settings that were read are fit throughout: each of them is written as a value
that its own check lets pass, so that settings are read back as they were. Fit settings may still
ask for an indentation that nobody can write.
-/
namespace SwiftExpansion

theorem Setting.ofKey?_key (k : Setting) : ofKey? k.key = some k := by
  cases k <;> rfl

theorem Setting.mem_all (k : Setting) : k ∈ all := by
  cases k <;> decide

namespace Settings

/-- The value that is written under the key of a setting. -/
def value (s : Settings) : Setting → Json
  | .decoderType => .text s.decoderType
  | .acceptedDecoderTypes => .list (s.acceptedDecoderTypes.map .text)
  | .decoderParameter => .text s.decoderParameter
  | .bindOperator => .text s.bindOperator
  | .conformanceName => .text s.conformanceName
  | .mappingFunction => .text s.mappingFunction
  | .resourceLookup => .text s.resourceLookup
  | .defaultResourceType => .text s.defaultResourceType
  | .interfaceSuffix => .text s.interfaceSuffix
  | .interfaceBase => .text s.interfaceBase
  | .indentSize => .int s.indentSize

def written (s : Settings) (ks : List Setting) : List (String × Json) :=
  ks.map fun k => (k.key, s.value k)

theorem toJson_eq_written (s : Settings) : s.toJson = .object (s.written Setting.all) := rfl

theorem eq_of_value {s t : Settings} (h : ∀ k, s.value k = t.value k) : s = t := by
  have htexts : s.acceptedDecoderTypes = t.acceptedDecoderTypes := by
    have hmap := Json.list.inj (h .acceptedDecoderTypes)
    exact (List.map_inj_right fun _ _ => Json.text.inj).mp hmap
  have hsize : s.indentSize = t.indentSize := Int.ofNat.inj (Json.int.inj (h .indentSize))
  cases s
  cases t
  simp only [mk.injEq]
  exact ⟨Json.text.inj (h .decoderType), htexts, Json.text.inj (h .decoderParameter),
    Json.text.inj (h .bindOperator), Json.text.inj (h .conformanceName),
    Json.text.inj (h .mappingFunction), Json.text.inj (h .resourceLookup),
    Json.text.inj (h .defaultResourceType), Json.text.inj (h .interfaceSuffix),
    Json.text.inj (h .interfaceBase), hsize⟩

theorem text?_eq_some {j : Json} {t : String} (h : text? j = some t) : j = .text t := by
  cases j with
  | text s => simp_all [text?]
  | _ => cases h

theorem texts?_eq_some {j : Json} {ts : List String} (h : texts? j = some ts) :
    j = .list (ts.map .text) := by
  cases j with
  | list items =>
    induction items generalizing ts with
    | nil =>
      cases h
      rfl
    | cons item items ih =>
      simp only [texts?, List.mapM_cons, Option.bind_eq_bind, Option.bind_eq_some_iff] at h
      obtain ⟨t, ht, rest, hrest, hts⟩ := h
      cases item with
      | text s =>
        cases ht
        cases hts
        rw [Json.list.inj (ih hrest)]
        rfl
      | _ => cases ht
  | _ => cases h

theorem size?_eq_some {j : Json} {n : Nat} (h : size? j = some n) : j = .int n := by
  cases j with
  | int m =>
    simp only [size?] at h
    split at h
    · cases h
      congr 1
      omega
    · cases h
  | _ => cases h

/-- Changing a setting puts the value under its key and leaves the others alone. -/
theorem value_of_set? {s t : Settings} {k : Setting} {v : Json} (h : s.set? k v = some t)
    (l : Setting) : t.value l = if l = k then v else s.value l := by
  cases k with
  | acceptedDecoderTypes =>
    obtain ⟨w, hw, rfl⟩ := Option.map_eq_some_iff.mp h
    rw [texts?_eq_some hw]
    cases l <;> rfl
  | indentSize =>
    obtain ⟨w, hw, rfl⟩ := Option.map_eq_some_iff.mp h
    rw [size?_eq_some hw]
    cases l <;> rfl
  | _ =>
    obtain ⟨w, hw, rfl⟩ := Option.map_eq_some_iff.mp h
    rw [text?_eq_some hw]
    cases l <;> rfl

/-- Whether a value is fit for a setting does not depend on the settings it is to change. -/
theorem isSome_set? (s t : Settings) (k : Setting) (v : Json) :
    (s.set? k v).isSome = (t.set? k v).isSome := by
  cases k <;> simp [set?]

/-- Whether the value that is written for each setting is one that its own check lets pass. -/
def HasFitValues (s : Settings) : Prop :=
  ∀ k, (s.set? k (s.value k)).isSome

namespace HasFitValues

theorem set? {s t : Settings} {k : Setting} {v : Json} (hs : s.HasFitValues)
    (h : s.set? k v = some t) : t.HasFitValues := by
  intro l
  rw [value_of_set? h, isSome_set? t s]
  by_cases hl : l = k
  · rw [if_pos hl, hl, h]
    rfl
  · rw [if_neg hl]
    exact hs l

theorem readEntry {s : Settings} (hs : s.HasFitValues) (entry : String × Json) :
    (s.readEntry entry).1.HasFitValues := by
  unfold Settings.readEntry
  cases Setting.ofKey? entry.1 with
  | none => exact hs
  | some setting =>
    cases hset : s.set? setting entry.2 with
    | none => simpa only [hset] using hs
    | some t => simpa only [hset] using hs.set? hset

theorem readEntries {s : Settings} (hs : s.HasFitValues) (entries : List (String × Json)) :
    (s.readEntries entries).1.HasFitValues := by
  induction entries generalizing s with
  | nil => exact hs
  | cons entry entries ih => exact ih (hs.readEntry entry)

end HasFitValues

structure IsFit (s : Settings) : Prop where
  values : s.HasFitValues
  lookup : Text.occursIn placeholder.toList s.resourceLookup.toList = true

theorem isFit_default : ({} : Settings).IsFit where
  values k := by cases k <;> rfl
  lookup := rfl

/-- Whatever the entries are, the settings they come to are fit. -/
theorem assess_isFit (entries : List (String × Json)) : (assess entries).1.IsFit := by
  have hvalues := isFit_default.values.readEntries entries
  change (requirePlaceholder (readEntries {} entries).1).1.IsFit
  unfold requirePlaceholder
  split
  · rename_i hlookup
    exact ⟨hvalues, hlookup⟩
  · have hdefault := hvalues.set? (k := .resourceLookup)
      (v := .text ({} : Settings).resourceLookup) rfl
    exact ⟨hdefault, isFit_default.lookup⟩

/-- Settings that are written under some keys are taken in under these without a warning. -/
theorem readEntries_written {s : Settings} (hs : s.HasFitValues) (t : Settings)
    (ks : List Setting) :
    ∃ u, t.readEntries (s.written ks) = (u, []) ∧
      ∀ l, u.value l = if l ∈ ks then s.value l else t.value l := by
  induction ks generalizing t with
  | nil => exact ⟨t, rfl, by simp⟩
  | cons k ks ih =>
    obtain ⟨next, hnext⟩ := Option.isSome_iff_exists.mp ((isSome_set? t s k _).trans (hs k))
    obtain ⟨u, hread, hvalue⟩ := ih next
    refine ⟨u, ?_, fun l => ?_⟩
    · have hentry : t.readEntry (k.key, s.value k) = (next, []) := by
        simp [readEntry, Setting.ofKey?_key, hnext]
      simp only [written] at hread
      simp [written, readEntries, hentry, hread]
    · rw [hvalue, value_of_set? hnext]
      by_cases hl : l = k <;> simp [hl]

theorem assess_written {s : Settings} (hs : s.IsFit) :
    assess (s.written Setting.all) = (s, []) := by
  obtain ⟨u, hread, hvalue⟩ := readEntries_written hs.values {} Setting.all
  obtain rfl : u = s := eq_of_value fun k => by rw [hvalue, if_pos k.mem_all]
  simp [assess, hread, requirePlaceholder, hs.lookup]

def spaces (s : Settings) : String :=
  String.ofList (List.replicate s.indentSize ' ')

section

variable [Memory] {s : Settings}

theorem checkIndent_eq_ok :
    s.checkIndent = .ok () ↔ s.indentSize ≤ Text.maxLength ∧ s.indentSize ≤ Memory.capacity := by
  unfold checkIndent
  by_cases hlength : Text.maxLength < s.indentSize
  · rw [if_pos hlength]
    simp only [reduceCtorEq, false_iff]
    omega
  · rw [if_neg hlength]
    by_cases hmemory : Memory.capacity < s.indentSize
    · rw [if_pos hmemory]
      simp only [reduceCtorEq, false_iff]
      omega
    · rw [if_neg hmemory]
      simp only [true_iff]
      omega

theorem indent_of_checkIndent {t : String} :
    s.indent = .ok t ↔ s.checkIndent = .ok () ∧ t = s.spaces := by
  unfold indent
  cases s.checkIndent with
  | ok _ => simp [spaces, pure, Except.pure, bind, Except.bind, eq_comm]
  | error f => simp [bind, Except.bind]

/-- Whether the indentation can be built. -/
def CanIndent (s : Settings) : Prop :=
  ∃ t, s.indent = .ok t

/-- Lines can be indented exactly when the length of the indentation can be counted and fits into
memory. -/
theorem canIndent_iff :
    s.CanIndent ↔ s.indentSize ≤ Text.maxLength ∧ s.indentSize ≤ Memory.capacity := by
  simp [CanIndent, indent_of_checkIndent, checkIndent_eq_ok]

theorem indent_eq_ok {t : String} : s.indent = .ok t ↔ s.CanIndent ∧ t = s.spaces := by
  rw [indent_of_checkIndent, checkIndent_eq_ok, canIndent_iff]

end

end Settings

end SwiftExpansion
