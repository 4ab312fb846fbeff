import Mathlib.Data.List.Infix
import SwiftExpansion.Proofs.Config.History
import SwiftExpansion.Proofs.Config.Settings
import SwiftExpansion.Proofs.Text

/-!
# Settings are read one by one

An object has each of its keys once. What becomes of a setting is therefore settled by the value
under its own key: it is that value if the value is valid, and the default if it is not or if there
is none. The order of the keys does not matter, nor does anything under the other keys. Every entry
that is of no use, because its key is unknown or its value invalid, is warned about once. The warning
about a lookup without its placeholder comes last, since that check waits for all other entries. A
warning may quote a value, and nothing but a number in there that cannot be written makes reading
fail.
-/
namespace SwiftExpansion

namespace Json

def isString : Json → Bool
  | .text _ => true
  | _ => false

def hasPlaceholder : Json → Bool
  | .text t => Settings.placeholder.toList <:+: t.toList
  | _ => false

theorem lookup_of_fresh {entries : List (String × Json)} {key : String}
    (h : key ∉ entries.map Prod.fst) : entries.lookup key = none := by
  refine List.lookup_eq_none_iff.mpr fun e he => ?_
  rw [bne_iff_ne]
  intro hkey
  exact h (hkey ▸ List.mem_map_of_mem he)

/-- In entries without a repeated key, those with one key are what is found under it. -/
theorem filter_of_key {entries : List (String × Json)} (hkeys : (entries.map Prod.fst).Nodup)
    {key : String} {p : String × Json → Bool} (hp : ∀ e, p e = true → e.1 = key) :
    entries.filter p = ((entries.lookup key).map (key, ·)).toList.filter p := by
  induction entries with
  | nil => rfl
  | cons e entries ih =>
    obtain ⟨name, v⟩ := e
    obtain ⟨hfresh, hrest⟩ := List.nodup_cons.mp hkeys
    rw [List.filter_cons, ih hrest, List.lookup_cons]
    by_cases hname : key = name
    · subst hname
      simp [lookup_of_fresh hfresh, List.filter_cons]
    · have hother : ¬ p (name, v) = true := fun h => hname (hp _ h).symm
      rw [if_neg hother, beq_false_of_ne hname]

/-- The order of the entries does not matter to what is found under a key. -/
theorem lookup_eq_of_perm {entries others : List (String × Json)}
    (hkeys : (entries.map Prod.fst).Nodup) (h : entries.Perm others) (key : String) :
    others.lookup key = entries.lookup key := by
  have hothers : (others.map Prod.fst).Nodup := (h.map Prod.fst).nodup_iff.mp hkeys
  have hfound {es : List (String × Json)} (hes : (es.map Prod.fst).Nodup) :
      (es.lookup key).toList = (es.filter (·.1 == key)).map Prod.snd := by
    rw [filter_of_key hes fun e he => beq_iff_eq.mp he]
    cases es.lookup key <;> simp
  have hperm := (h.filter (·.1 == key)).map Prod.snd
  rw [← hfound hkeys, ← hfound hothers] at hperm
  cases hentry : entries.lookup key with
  | none => simpa [hentry] using hperm
  | some v => simpa [hentry, List.perm_singleton] using hperm.symm

end Json

namespace Setting

/-- Whether a value is of the sort that a setting takes: a list of texts for the types of decoders,
a whole number from zero on for the size, a text that is not empty for any other setting. -/
def fits : Setting → Json → Bool
  | .acceptedDecoderTypes, .list items => items.all Json.isString
  | .indentSize, .int n => 0 ≤ n
  | .acceptedDecoderTypes, _ => false
  | .indentSize, _ => false
  | _, .text t => !t.isEmpty
  | _, _ => false

def accepts (k : Setting) (v : Json) : Bool :=
  k.fits v && (k != .resourceLookup || v.hasPlaceholder)

theorem accepts_of_ne {k : Setting} (h : k ≠ .resourceLookup) : k.accepts = k.fits := by
  funext v
  simp [accepts, h]

theorem ofKey?_eq_some {key : String} {k : Setting} : ofKey? key = some k ↔ key = k.key := by
  constructor
  · intro h
    have hfound := List.find?_some h
    exact (beq_iff_eq.mp hfound).symm
  · rintro rfl
    exact ofKey?_key k

theorem ofKey?_eq_none {key : String} : ofKey? key = none ↔ ∀ k : Setting, key ≠ k.key := by
  simp [Option.eq_none_iff_forall_ne_some, ofKey?_eq_some]

theorem key_inj {k l : Setting} : k.key = l.key ↔ k = l := by
  rw [← ofKey?_eq_some, ofKey?_key, Option.some.injEq]

end Setting

namespace Settings

theorem isSome_text? (v : Json) :
    (text? v).isSome = match v with | .text t => !t.isEmpty | _ => false := by
  cases v with
  | text t => cases ht : t.isEmpty <;> simp [text?, ht]
  | _ => rfl

theorem isSome_texts? (v : Json) :
    (texts? v).isSome = match v with | .list items => items.all Json.isString | _ => false := by
  cases v with
  | list items =>
    induction items with
    | nil => rfl
    | cons item items ih =>
      cases item with
      | text t =>
        simp only [texts?] at ih
        simp [texts?, List.mapM_cons, Json.isString, ← ih, Option.isSome_bind]
      | _ => simp [texts?, List.mapM_cons, Json.isString]
  | _ => rfl

theorem isSome_size? (v : Json) :
    (size? v).isSome = match v with | .int n => decide (0 ≤ n) | _ => false := by
  cases v with
  | int n => by_cases hn : 0 ≤ n <;> simp [size?, hn]
  | _ => rfl

theorem isSome_set?_eq (s : Settings) (k : Setting) (v : Json) :
    (s.set? k v).isSome = k.fits v := by
  cases k with
  | acceptedDecoderTypes =>
    rw [set?, Option.isSome_map, isSome_texts?]
    cases v <;> rfl
  | indentSize =>
    rw [set?, Option.isSome_map, isSome_size?]
    cases v <;> rfl
  | _ =>
    rw [set?, Option.isSome_map, isSome_text?]
    cases v <;> rfl

/-- An entry puts its value under its key, if it fits, and touches nothing else. -/
theorem value_readEntry (s : Settings) (key : String) (v : Json) (l : Setting) :
    (s.readEntry (key, v)).1.value l = if key = l.key ∧ l.fits v = true then v else s.value l := by
  unfold readEntry
  cases hk : Setting.ofKey? key with
  | none =>
    have hunknown : ¬ (key = l.key ∧ l.fits v = true) := fun h => Setting.ofKey?_eq_none.mp hk l h.1
    rw [if_neg hunknown]
  | some k =>
    have hkey := Setting.ofKey?_eq_some.mp hk
    subst hkey
    have hfits := s.isSome_set?_eq k v
    cases hset : s.set? k v with
    | none =>
      rw [hset] at hfits
      have hunfit : ¬ (k.key = l.key ∧ l.fits v = true) := by
        rintro ⟨hl, hl'⟩
        rw [Setting.key_inj] at hl
        subst hl
        rw [hl'] at hfits
        cases hfits
      simp only [hset, if_neg hunfit]
    | some t =>
      rw [hset] at hfits
      simp only [hset, value_of_set? hset]
      by_cases hl : l = k
      · subst hl
        rw [if_pos rfl, if_pos ⟨rfl, hfits.symm⟩]
      · have hother : ¬ (k.key = l.key ∧ l.fits v = true) :=
          fun h => hl (Setting.key_inj.mp h.1).symm
        rw [if_neg hl, if_neg hother]

/-- What is under a key after all entries is what the entry with that key put there. -/
theorem value_readEntries (s : Settings) {entries : List (String × Json)}
    (hkeys : (entries.map Prod.fst).Nodup) (l : Setting) :
    (s.readEntries entries).1.value l = ((entries.lookup l.key).filter l.fits).getD (s.value l) := by
  induction entries generalizing s with
  | nil => rfl
  | cons e entries ih =>
    obtain ⟨key, v⟩ := e
    obtain ⟨hfresh, hrest⟩ := List.nodup_cons.mp hkeys
    change ((s.readEntry (key, v)).1.readEntries entries).1.value l = _
    rw [ih _ hrest, value_readEntry, List.lookup_cons]
    by_cases hkey : key = l.key
    · subst hkey
      cases hfits : l.fits v <;> simp [Json.lookup_of_fresh hfresh, Option.filter, hfits]
    · rw [beq_false_of_ne (Ne.symm hkey), if_neg fun h => hkey h.1]

theorem hasPlaceholder_value (s : Settings) : (s.value .resourceLookup).hasPlaceholder =
    Text.occursIn placeholder.toList s.resourceLookup.toList := by
  rw [Bool.eq_iff_iff, Text.occursIn_iff]
  simp [value, Json.hasPlaceholder]

theorem hasPlaceholder_default :
    (({} : Settings).value .resourceLookup).hasPlaceholder = true := by
  rw [hasPlaceholder_value]
  rfl

theorem value_requirePlaceholder (s : Settings) (l : Setting) :
    s.requirePlaceholder.1.value l =
      if l = .resourceLookup ∧ (s.value l).hasPlaceholder = false then ({} : Settings).value l
      else s.value l := by
  unfold requirePlaceholder
  rw [← hasPlaceholder_value]
  cases hplace : (s.value .resourceLookup).hasPlaceholder with
  | true =>
    have hkept : ¬ (l = .resourceLookup ∧ (s.value l).hasPlaceholder = false) := by
      rintro ⟨rfl, h⟩
      rw [hplace] at h
      cases h
    rw [if_pos rfl, if_neg hkept]
  | false =>
    rw [if_neg Bool.false_ne_true]
    by_cases hl : l = .resourceLookup
    · subst hl
      rw [if_pos ⟨rfl, hplace⟩]
      rfl
    · rw [if_neg fun h => hl h.1]
      cases l with
      | resourceLookup => exact absurd rfl hl
      | _ => rfl

/-- A setting is the value under its key if that is valid, and the default otherwise. -/
theorem value_assess {entries : List (String × Json)} (hkeys : (entries.map Prod.fst).Nodup)
    (l : Setting) : (assess entries).1.value l =
      ((entries.lookup l.key).filter l.accepts).getD (({} : Settings).value l) := by
  change (requirePlaceholder (readEntries {} entries).1).1.value l = _
  rw [value_requirePlaceholder, value_readEntries {} hkeys]
  by_cases hl : l = .resourceLookup
  · subst hl
    cases entries.lookup Setting.resourceLookup.key with
    | none => simp [hasPlaceholder_default]
    | some v =>
      cases hfits : Setting.resourceLookup.fits v <;> cases hplace : v.hasPlaceholder <;>
        simp [Option.filter, Setting.accepts, hfits, hplace, hasPlaceholder_default]
  · rw [if_neg fun h => hl h.1, Setting.accepts_of_ne hl]

/-- Whether an entry is of no use: its key is unknown, or its value is invalid. -/
def isFaulty (entry : String × Json) : Bool :=
  (Setting.ofKey? entry.1).all fun k => !k.accepts entry.2

def warningOf (entry : String × Json) : ConfigWarning :=
  match Setting.ofKey? entry.1 with
  | none => .unknownSetting entry.1
  | some k => if k.fits entry.2 then .noPlaceholder else .invalidSetting entry.1 entry.2

def isMisfit (entry : String × Json) : Bool :=
  (Setting.ofKey? entry.1).all fun k => !k.fits entry.2

theorem isFaulty_of_isMisfit {entry : String × Json} (h : isMisfit entry = true) :
    isFaulty entry = true := by
  unfold isMisfit at h
  unfold isFaulty
  cases hk : Setting.ofKey? entry.1 with
  | none => rfl
  | some k => simp_all [Setting.accepts]

theorem warnings_readEntry (s : Settings) (entry : String × Json) :
    (s.readEntry entry).2 = if isMisfit entry then [warningOf entry] else [] := by
  unfold readEntry isMisfit warningOf
  cases hk : Setting.ofKey? entry.1 with
  | none => rfl
  | some k =>
    have hfits := s.isSome_set?_eq k entry.2
    cases hset : s.set? k entry.2 <;> simp_all

theorem warnings_readEntries (s : Settings) (entries : List (String × Json)) :
    (s.readEntries entries).2 = (entries.filter isMisfit).map warningOf := by
  induction entries generalizing s with
  | nil => rfl
  | cons entry entries ih =>
    change (s.readEntry entry).2 ++ ((s.readEntry entry).1.readEntries entries).2 = _
    rw [warnings_readEntry, ih, List.filter_cons]
    cases isMisfit entry <;> simp

/-- An entry that was taken in and is of no use nevertheless is a lookup without its placeholder. -/
theorem isFaulty_and_not_isMisfit (entry : String × Json) :
    (!isMisfit entry && isFaulty entry) =
      (entry.1 == Setting.resourceLookup.key && Setting.resourceLookup.fits entry.2 &&
        !entry.2.hasPlaceholder) := by
  unfold isMisfit isFaulty
  cases hk : Setting.ofKey? entry.1 with
  | none =>
    have hkey := Setting.ofKey?_eq_none.mp hk .resourceLookup
    simp [hkey]
  | some k =>
    rw [Setting.ofKey?_eq_some.mp hk]
    by_cases hlookup : k = .resourceLookup
    · subst hlookup
      cases hfits : Setting.resourceLookup.fits entry.2 <;> simp [Setting.accepts, hfits]
    · have hkey : k.key ≠ Setting.resourceLookup.key := mt Setting.key_inj.mp hlookup
      simp [Setting.accepts_of_ne hlookup, beq_false_of_ne hkey]

/-- The check that comes last warns about the entry that it undoes. -/
theorem warnings_requirePlaceholder {entries : List (String × Json)}
    (hkeys : (entries.map Prod.fst).Nodup) :
    (requirePlaceholder (readEntries {} entries).1).2 =
      (entries.filter fun e => !isMisfit e && isFaulty e).map warningOf := by
  have hkey (e : String × Json) (he : (!isMisfit e && isFaulty e) = true) :
      e.1 = Setting.resourceLookup.key := by
    rw [isFaulty_and_not_isMisfit] at he
    simp_all
  have hvalue := value_readEntries {} hkeys .resourceLookup
  rw [Json.filter_of_key hkeys hkey, requirePlaceholder, ← hasPlaceholder_value, hvalue]
  simp only [isFaulty_and_not_isMisfit]
  cases entries.lookup Setting.resourceLookup.key with
  | none => simp [hasPlaceholder_default]
  | some v =>
    cases hfits : Setting.resourceLookup.fits v <;> cases hplace : v.hasPlaceholder <;>
      simp [Option.filter, warningOf, Setting.ofKey?_key, hfits, hplace, hasPlaceholder_default]

theorem warnings_assess_perm {entries : List (String × Json)}
    (hkeys : (entries.map Prod.fst).Nodup) :
    (assess entries).2.Perm ((entries.filter isFaulty).map warningOf) := by
  have hmisfits : (entries.filter isFaulty).filter isMisfit = entries.filter isMisfit := by
    rw [List.filter_filter]
    congr 1
    funext e
    cases he : isMisfit e with
    | false => rfl
    | true => exact isFaulty_of_isMisfit he
  have hparts := List.filter_append_perm isMisfit (entries.filter isFaulty)
  rw [hmisfits, List.filter_filter] at hparts
  have hwarnings := hparts.map warningOf
  rw [List.map_append, ← warnings_readEntries {}, ← warnings_requirePlaceholder hkeys] at hwarnings
  exact hwarnings

/-- Whether an entry has its value quoted: the key is known, and the value is of the wrong sort. -/
def isQuoted (entry : String × Json) : Bool :=
  (Setting.ofKey? entry.1).any fun k => !k.fits entry.2

theorem isMisfit_of_isQuoted {entry : String × Json} (h : isQuoted entry = true) :
    isMisfit entry = true := by
  unfold isQuoted at h
  unfold isMisfit
  cases hk : Setting.ofKey? entry.1 with
  | none => rfl
  | some k => simpa [hk] using h

theorem warningOf_isShort {entry : String × Json} :
    (warningOf entry).isShort = true ↔ (isQuoted entry = true → entry.2.isShort = true) := by
  unfold isQuoted warningOf
  cases hk : Setting.ofKey? entry.1 with
  | none => simp [ConfigWarning.isShort]
  | some k => cases hfits : k.fits entry.2 <;> simp [hfits, ConfigWarning.isShort]

variable {entries : List (String × Json)}

/-- All warnings can be written exactly when all values that are quoted can. -/
theorem assess_isShort_iff (hkeys : (entries.map Prod.fst).Nodup) :
    (∀ w ∈ (assess entries).2, w.isShort = true) ↔
      ∀ e ∈ entries, isQuoted e = true → e.2.isShort = true := by
  have hmem (w : ConfigWarning) := (warnings_assess_perm hkeys).mem_iff (a := w)
  constructor
  · intro h e he hquoted
    have hfaulty : isFaulty e = true := isFaulty_of_isMisfit (isMisfit_of_isQuoted hquoted)
    have hwarning : warningOf e ∈ (assess entries).2 :=
      (hmem _).mpr (List.mem_map_of_mem (List.mem_filter.mpr ⟨he, hfaulty⟩))
    exact warningOf_isShort.mp (h _ hwarning) hquoted
  · intro h w hw
    obtain ⟨e, he, rfl⟩ := List.mem_map.mp ((hmem w).mp hw)
    exact warningOf_isShort.mpr (h e (List.mem_of_mem_filter he))

theorem read_eq_ok (hkeys : (entries.map Prod.fst).Nodup) {s : Settings} :
    (read entries).outcome = .ok s ↔
      (∀ e ∈ entries, isQuoted e = true → e.2.isShort = true) ∧ (assess entries).1 = s := by
  rw [read, ConfigWarning.reported_eq_ok, assess_isShort_iff hkeys]

/-- The settings of an object are settled key by key: each is the value under its own key if that is
valid for it, and the default otherwise. Hence it stays as it is whatever is put under other keys,
and all of them stay as they are when the keys change places. All that reading leaves in the log are
warnings, one for each key that is unknown or has an invalid value. The same goes for a configuration
that consists of the object. Reading does not fail on what comes from a file, nor on any other object
unless a value that has to be quoted holds a number that is too long to be written. -/
theorem read_independent (hkeys : (entries.map Prod.fst).Nodup) :
    (∀ octets, Json.ofOctets octets = .ok (.object entries) →
      ∃ s, (read entries).outcome = .ok s) ∧
    ((∃ s, (read entries).outcome = .ok s) ↔
      ∀ e ∈ entries, isQuoted e = true → e.2.isShort = true) ∧
    ∀ s, (read entries).outcome = .ok s →
      (∀ k : Setting, s.value k =
        ((entries.lookup k.key).filter k.accepts).getD (({} : Settings).value k)) ∧
      (∀ (k : Setting) (others : List (String × Json)) (t : Settings),
        (others.map Prod.fst).Nodup → others.lookup k.key = entries.lookup k.key →
          (read others).outcome = .ok t → t.value k = s.value k) ∧
      (∀ others : List (String × Json), entries.Perm others → (read others).outcome = .ok s) ∧
      ∃ warnings : List ConfigWarning, (read entries).notes = warnings.map ConfigWarning.event ∧
        Config.read (.object [("macros", .object entries)]) =
          ⟨warnings.map ConfigWarning.event, .ok ⟨s, {}⟩⟩ ∧
        warnings.Perm ((entries.filter isFaulty).map warningOf) := by
  refine ⟨fun octets h => ?_, ?_, ?_⟩
  · have hshort : ∀ e ∈ entries, e.2.isShort = true :=
      Json.isShort_object.mp (Json.ofOctets_isShort h)
    exact ⟨_, (read_eq_ok hkeys).mpr ⟨fun e he _ => hshort e he, rfl⟩⟩
  · simp [read_eq_ok hkeys]
  · intro s hs
    obtain ⟨hquoted, rfl⟩ := (read_eq_ok hkeys).mp hs
    have hshort := (assess_isShort_iff hkeys).mpr hquoted
    refine ⟨value_assess hkeys, ?_, ?_, (assess entries).2, ?_, ?_, warnings_assess_perm hkeys⟩
    · intro k others t hothers hlookup ht
      obtain ⟨-, rfl⟩ := (read_eq_ok hothers).mp ht
      rw [value_assess hothers, value_assess hkeys, hlookup]
    · intro others hperm
      have hothers : (others.map Prod.fst).Nodup := (hperm.map Prod.fst).nodup_iff.mp hkeys
      refine (read_eq_ok hothers).mpr ⟨fun e he => hquoted e (hperm.mem_iff.mpr he), ?_⟩
      refine eq_of_value fun k => ?_
      rw [value_assess hothers, value_assess hkeys, Json.lookup_eq_of_perm hkeys hperm]
    · rw [read, ConfigWarning.reported_of_isShort hshort]
    · have hfields : Config.settingsEntries [("macros", .object entries)] = .ok entries := rfl
      have hoptions : Options.assess [("macros", .object entries)] = ({}, []) := rfl
      have hperform := Config.perform_of_settingsEntries hfields hshort (by simp [hoptions]) {}
      rw [Config.read_eq_of_perform hperform, hoptions, List.append_nil]
      simp [Config.levelEvents]

/-- Entries of all sorts: a number below zero, a lookup without a place for the key, an unknown key,
an empty text, an empty list, and one that is plainly valid. -/
def mixedEntries : List (String × Json) :=
  [("indent_size", .int (-1)), ("resource_lookup", .text "find(key)"), ("colour", .null),
    ("decoder_type", .text ""), ("accepted_decoder_types", .list []),
    ("mapping_function", .text "bind")]

theorem read_independent_mixedEntries :
    (mixedEntries.map Prod.fst).Nodup ∧
      (read mixedEntries).outcome = .ok { acceptedDecoderTypes := [], mappingFunction := "bind" } ∧
      (read mixedEntries.reverse).outcome = (read mixedEntries).outcome ∧
      (read mixedEntries).notes.length = 4 := by
  have hkeys : (mixedEntries.map Prod.fst).Nodup := by decide
  have hquoted : ∀ e ∈ mixedEntries, isQuoted e = true → e.2.isShort = true := by decide +kernel
  obtain ⟨-, hok, hread⟩ := read_independent hkeys
  obtain ⟨s, hs⟩ := hok.mpr hquoted
  obtain ⟨hvalue, -, hperm, warnings, hnotes, -, hwarnings⟩ := hread s hs
  have hsettings : s = { acceptedDecoderTypes := [], mappingFunction := "bind" } := by
    refine eq_of_value fun k => ?_
    rw [hvalue]
    cases k with
    | resourceLookup =>
      have hlookup : mixedEntries.lookup Setting.resourceLookup.key = some (.text "find(key)") := rfl
      have hplace : (Json.text "find(key)").hasPlaceholder = false := by decide +kernel
      simp [hlookup, Option.filter, Setting.accepts, hplace, value]
    | _ => rfl
  have hlength : warnings.length = 4 := by
    rw [hwarnings.length_eq, List.length_map]
    decide +kernel
  have hreverse := hperm mixedEntries.reverse (List.reverse_perm _).symm
  exact ⟨hkeys, hsettings ▸ hs, hreverse.trans hs.symm, by rw [hnotes, List.length_map, hlength]⟩

end Settings

end SwiftExpansion
