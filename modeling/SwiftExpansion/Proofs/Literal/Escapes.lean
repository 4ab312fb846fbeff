import Mathlib.Data.List.Basic
import Mathlib.Data.List.Induction
import Mathlib.Data.Nat.Digits.Defs
import SwiftExpansion.Proofs.Literal.Pieces

/-!
# Escapes in a literal on one line

A literal on one line is a row of items: characters as they are, and escapes for single characters,
for characters by their number, for an interpolation, or for nothing that is known. Each item is
one piece of the body, whatever stands next to it, so that the content of the literal is made up of
what the items stand for. An interpolation anywhere leaves no content, and it is looked for before
an escape is found to be unknown.
-/
namespace SwiftExpansion.Literal

/-- A character that has an escape of one letter. -/
inductive Shorthand
  | null
  | backslash
  | tab
  | lineFeed
  | carriageReturn
  | quote
  | apostrophe
  deriving Repr, DecidableEq

namespace Shorthand

/-- What stands behind the escape mark. -/
def letter : Shorthand → Char
  | .null => '0'
  | .backslash => '\\'
  | .tab => 't'
  | .lineFeed => 'n'
  | .carriageReturn => 'r'
  | .quote => '"'
  | .apostrophe => '\''

def char : Shorthand → Char
  | .null => '\x00'
  | .backslash => '\\'
  | .tab => '\x09'
  | .lineFeed => '\x0a'
  | .carriageReturn => '\x0d'
  | .quote => '"'
  | .apostrophe => '\''

theorem escapedChar?_letter (s : Shorthand) : escapedChar? s.letter = some s.char := by
  cases s <;> rfl

theorem exists_letter {e c : Char} (h : escapedChar? e = some c) :
    ∃ s : Shorthand, s.letter = e := by
  unfold escapedChar? at h
  split at h
  · exact ⟨.null, rfl⟩
  · exact ⟨.backslash, rfl⟩
  · exact ⟨.tab, rfl⟩
  · exact ⟨.lineFeed, rfl⟩
  · exact ⟨.carriageReturn, rfl⟩
  · exact ⟨.quote, rfl⟩
  · exact ⟨.apostrophe, rfl⟩
  · cases h

end Shorthand

/-! ## Numbers of characters -/

/-- A hexadecimal digit, in one case or the other. -/
structure HexDigit where
  value : Fin 16
  isUpper : Bool
  deriving Repr, DecidableEq

def HexDigit.char (d : HexDigit) : Char :=
  if d.isUpper then (Nat.digitChar d.value).toUpper else Nat.digitChar d.value

theorem HexDigit.isHexDigit_char (d : HexDigit) : isHexDigit d.char = true := by
  obtain ⟨value, isUpper⟩ := d
  revert value isUpper
  decide

theorem HexDigit.hexDigitValue_char (d : HexDigit) : hexDigitValue d.char = d.value := by
  obtain ⟨value, isUpper⟩ := d
  revert value isUpper
  decide

/-- The number that digits denote, the last one being the digit of the units. -/
def numeralValue (ds : List HexDigit) : Nat :=
  Nat.ofDigits 16 (ds.reverse.map fun d => d.value.val)

theorem hexValue_map_char (ds : List HexDigit) :
    hexValue (ds.map HexDigit.char) = numeralValue ds := by
  induction ds using List.reverseRecOn with
  | nil => rfl
  | append_singleton ds d ih =>
    have hlast : hexValue ((ds ++ [d]).map HexDigit.char) =
        16 * hexValue (ds.map HexDigit.char) + d.value := by
      simp [hexValue, List.foldl_append, d.hexDigitValue_char]
    rw [hlast, ih, numeralValue, numeralValue, List.reverse_append, List.reverse_singleton,
      List.singleton_append, List.map_cons, Nat.ofDigits_cons]
    omega

/-- One to eight digits that denote the number of a character. -/
structure CharNumeral where
  digits : List HexDigit
  one_le : 1 ≤ digits.length
  le_eight : digits.length ≤ 8
  isValidChar : (numeralValue digits).isValidChar
  deriving Repr, DecidableEq

namespace CharNumeral

def char (n : CharNumeral) : Char :=
  Char.ofNatAux (numeralValue n.digits) n.isValidChar

def text (n : CharNumeral) : List Char :=
  n.digits.map HexDigit.char

theorem isNumeral_text (n : CharNumeral) : IsNumeral n.text where
  one_le := by simpa [text] using n.one_le
  le_eight := by simpa [text] using n.le_eight
  isHexDigit := by
    intro d hd
    obtain ⟨digit, -, rfl⟩ := List.mem_map.mp hd
    exact digit.isHexDigit_char

theorem scalarContent_text (n : CharNumeral) : scalarContent (hexValue n.text) = .ok [n.char] := by
  have hlt : numeralValue n.digits < 0x110000 := by
    rcases n.isValidChar with h | h
    · omega
    · exact h.2
  rw [text, hexValue_map_char, scalarContent, if_pos hlt, Char.ofNat, dif_pos n.isValidChar, char]

end CharNumeral

/-! ## Items -/

/-- An item of a body. An unknown escape is any other than those before it, save that an `u` is left
to the numbers and that the line does not end. -/
inductive Item
  | raw (c : Char) (h : c ≠ '\\' ∧ c ≠ '"' ∧ c ≠ '\r' ∧ c ≠ '\n')
  | shorthand (s : Shorthand)
  | number (n : CharNumeral)
  | interpolation
  | unknown (e : Char) (h : e ≠ '(' ∧ e ≠ 'u' ∧ e ≠ '\r' ∧ e ≠ '\n')
      (hletter : ∀ s : Shorthand, e ≠ s.letter)
  deriving Repr, DecidableEq

namespace Item

def text (k : Nat) : Item → List Char
  | .raw c _ => [c]
  | .shorthand s => escapeMark k ++ [s.letter]
  | .number n => escapeMark k ++ 'u' :: '\x7b' :: (n.text ++ ['\x7d'])
  | .interpolation => escapeMark k ++ ['(']
  | .unknown e _ _ => escapeMark k ++ [e]

/-- The character that an item denotes. -/
def char? : Item → Option Char
  | .raw c _ => some c
  | .shorthand s => some s.char
  | .number n => some n.char
  | .interpolation | .unknown _ _ _ => none

def isInterpolation : Item → Bool
  | .interpolation => true
  | _ => false

def isUnknown : Item → Bool
  | .unknown _ _ _ => true
  | _ => false

def piece : Item → Piece
  | .raw c _ => .plain c
  | .shorthand s => .escaped s.letter
  | .number n => .scalar (hexValue n.text)
  | .interpolation => .escaped '('
  | .unknown e _ _ => .escaped e

theorem pieces_append (k : Nat) (i : Item) (rest : List Char) :
    pieces k (i.text k ++ rest) = i.piece :: pieces k rest := by
  have hescaped {e : Char} (he : e ≠ 'u') :
      pieces k ((escapeMark k ++ [e]) ++ rest) = .escaped e :: pieces k rest := by
    rw [List.append_assoc, List.singleton_append]
    exact pieces_escaped fun hu => absurd hu he
  cases i with
  | raw c h => exact pieces_plain fun hc => absurd hc h.1
  | shorthand s => exact hescaped (by cases s <;> decide)
  | number n => simpa [text, piece] using pieces_scalar n.isNumeral_text rest
  | interpolation => exact hescaped (by decide)
  | unknown e h hletter => exact hescaped h.2.1

theorem pieces_flatMap_text (k : Nat) (items : List Item) :
    pieces k (items.flatMap (text k)) = items.map piece := by
  induction items with
  | nil => rfl
  | cons i items ih => rw [List.flatMap_cons, pieces_append, ih, List.map_cons]

theorem isInterpolation_piece (i : Item) : i.piece.isInterpolation = i.isInterpolation := by
  cases i with
  | raw c h => rfl
  | shorthand s => cases s <;> rfl
  | number n => rfl
  | interpolation => rfl
  | unknown e h hletter => simp [piece, Piece.isInterpolation, isInterpolation, h.1]

theorem content_piece (i : Item) : i.piece.content false =
    match i.char? with
    | some c => .ok [c]
    | none => .error (.defect .escape) := by
  cases i with
  | raw c h => rfl
  | shorthand s => simp [piece, Piece.content, char?, s.escapedChar?_letter]
  | number n => exact n.scalarContent_text
  | interpolation => rfl
  | unknown e h hletter =>
    have hnone : escapedChar? e = none := by
      cases he : escapedChar? e with
      | none => rfl
      | some c =>
        obtain ⟨s, hs⟩ := Shorthand.exists_letter he
        exact absurd hs.symm (hletter s)
    simp [piece, Piece.content, char?, hnone]

theorem mapM_content (items : List Item) :
    (items.map piece).mapM (Piece.content false) =
      if items.all (·.char?.isSome) then .ok (items.map (·.char?.toList))
      else .error (.defect .escape) := by
  induction items with
  | nil => rfl
  | cons i items ih =>
    rw [List.map_cons, List.mapM_cons, content_piece, ih, List.all_cons]
    cases hchar : i.char? with
    | none => rfl
    | some c =>
      cases items.all (·.char?.isSome) with
      | false => rfl
      | true => simp [hchar, bind, Except.bind, pure, Except.pure]

theorem single_line (k : Nat) (i : Item) : '\r' ∉ i.text k ∧ '\n' ∉ i.text k := by
  cases i with
  | raw c h => simp [text, h.2.2.1.symm, h.2.2.2.symm]
  | shorthand s => cases s <;> simp [text, Shorthand.letter, escapeMark, not_mem_pounds]
  | number n =>
    have hdigit (c : Char) (hc : isHexDigit c = false) : c ∉ n.text := by
      intro hmem
      rw [n.isNumeral_text.isHexDigit c hmem] at hc
      cases hc
    simp [text, escapeMark, not_mem_pounds, hdigit _ (by decide : isHexDigit '\r' = false),
      hdigit _ (by decide : isHexDigit '\n' = false)]
  | interpolation => simp [text, escapeMark, not_mem_pounds]
  | unknown e h hletter => simp [text, escapeMark, not_mem_pounds, h.2.2.1.symm, h.2.2.2.symm]

/-- An item never starts with a quote. -/
theorem text_eq_cons (k : Nat) (i : Item) : ∃ c rest, c ≠ '"' ∧ i.text k = c :: rest := by
  cases i with
  | raw c h => exact ⟨c, [], h.2.1, rfl⟩
  | _ => exact ⟨'\\', _, by decide, rfl⟩

theorem single_line_flatMap_text (k : Nat) (items : List Item) :
    '\r' ∉ items.flatMap (text k) ∧ '\n' ∉ items.flatMap (text k) := by
  simp only [List.mem_flatMap, not_exists, not_and]
  exact ⟨fun i _ => (i.single_line k).1, fun i _ => (i.single_line k).2⟩

theorem tripleQuote_not_opening_items (k : Nat) (items : List Item) :
    ¬ tripleQuote <+: '"' :: (items.flatMap (text k) ++ '"' :: pounds k) := by
  intro h
  have htail := (List.cons_prefix_cons.mp h).2
  cases items with
  | nil =>
    -- Behind the two quotes of an empty body there are pounds or nothing.
    have hthird := (List.cons_prefix_cons.mp htail).2
    exact not_mem_pounds (by decide) k (hthird.subset (by simp : '"' ∈ ['"']))
  | cons i items =>
    obtain ⟨c, rest, hc, hi⟩ := i.text_eq_cons k
    rw [List.flatMap_cons, hi] at htail
    exact hc (List.cons_prefix_cons.mp htail).1.symm

/-- An interpolation is looked for first, then an escape that is unknown. -/
theorem unescape_flatMap_text (k : Nat) (items : List Item) :
    unescape k false (items.flatMap (text k)) =
      if items.any isInterpolation then .ok none
      else if items.all (·.char?.isSome) then .ok (some (items.filterMap char?))
      else .error (.defect .escape) := by
  have hany : (items.map piece).any Piece.isInterpolation = items.any isInterpolation := by
    rw [List.any_map]
    congr 1
    funext i
    exact i.isInterpolation_piece
  rw [← pieces_flatMap_text k] at hany
  cases hitems : items.any isInterpolation with
  | true =>
    rw [unescape_of_interpolation (hany.trans hitems)]
    rfl
  | false =>
    rw [unescape_of_no_interpolation (hany.trans hitems), pieces_flatMap_text, mapM_content]
    cases items.all (·.char?.isSome) with
    | false => rfl
    | true => simp [List.filterMap_eq_flatMap_toList, List.flatMap_def]

theorem interpolation_mem_iff (items : List Item) :
    .interpolation ∈ items ↔ items.any isInterpolation = true := by
  rw [List.any_eq_true]
  constructor
  · intro h
    exact ⟨.interpolation, h, rfl⟩
  · rintro ⟨i, hi, htrue⟩
    cases i with
    | interpolation => exact hi
    | _ => cases htrue

theorem isSome_char? (i : Item) : i.char?.isSome = !(i.isInterpolation || i.isUnknown) := by
  cases i <;> rfl

/-- Without interpolations, what denotes no character is unknown. -/
theorem all_isSome_char?_iff {items : List Item} (h : .interpolation ∉ items) :
    items.all (·.char?.isSome) = true ↔ ∀ i ∈ items, i.isUnknown = false := by
  rw [interpolation_mem_iff] at h
  simp only [List.any_eq_true, not_exists, not_and, Bool.not_eq_true] at h
  rw [List.all_eq_true]
  constructor
  · intro hall i hi
    have hchar := hall i hi
    rw [isSome_char?, h i hi] at hchar
    simpa using hchar
  · intro hknown i hi
    rw [isSome_char?, h i hi, hknown i hi]
    rfl

end Item

/-- A literal on one line, with blanks around it. -/
def padded (before after : List Char) (k : Nat) (items : List Item) : String :=
  String.ofList (before ++ enclosed k ['"'] (items.flatMap (Item.text k)) ++ after)

theorem decode_padded {before after : List Char} (hbefore : Text.isBlankText before = true)
    (hafter : Text.isBlankText after = true) (k : Nat) (items : List Item) :
    decode (padded before after k items).toList =
      unescape k false (items.flatMap (Item.text k)) := by
  have htrim : Text.trim (padded before after k items).toList =
      enclosed k ['"'] (items.flatMap (Item.text k)) := by
    rw [padded, String.toList_ofList, Text.trim_padded hbefore hafter,
      trim_enclosed _ _ (by simp) (by simp)]
  have hdelimited : delimited? (Text.trim (padded before after k items).toList) =
      some ⟨k, false, items.flatMap (Item.text k)⟩ := by
    rw [htrim]
    exact delimited?_single (enclosed_ne_triple (Item.tripleQuote_not_opening_items k items))
  exact decode_eq_unescape hdelimited
    (Delimited.text_of_single_line (Item.single_line_flatMap_text k items) k)

theorem read_padded {before after : List Char} (hbefore : Text.isBlankText before = true)
    (hafter : Text.isBlankText after = true) (k : Nat) (items : List Item) :
    read (padded before after k items) =
      if items.any Item.isInterpolation then .ok none
      else if items.all (·.char?.isSome) then
        .ok (some (String.ofList (items.filterMap Item.char?)))
      else .error (.literal .escape (padded before after k items)) := by
  rw [read, decode_padded hbefore hafter, Item.unescape_flatMap_text]
  cases items.any Item.isInterpolation with
  | true => rfl
  | false => cases items.all (·.char?.isSome) <;> rfl

/-- A literal on one line reads as the sum of its items, whatever the number of pounds and the
blanks around it. It has no content exactly if an interpolation is among the items. Otherwise it is
refused, for its escape, exactly if an item is an unknown escape, and if none is, its content is
what the items denote. -/
theorem read_items (k : Nat) (items : List Item) {before after : List Char}
    (hbefore : Text.isBlankText before = true) (hafter : Text.isBlankText after = true) :
    (read (padded before after k items) = .ok none ↔ .interpolation ∈ items) ∧
      (.interpolation ∉ items →
        (read (padded before after k items) =
            .error (.literal .escape (padded before after k items)) ↔
          ∃ i ∈ items, i.isUnknown = true) ∧
        ((∀ i ∈ items, i.isUnknown = false) → read (padded before after k items) =
          .ok (some (String.ofList (items.filterMap Item.char?))))) := by
  rw [read_padded hbefore hafter]
  by_cases hinterpolation : .interpolation ∈ items
  · have hany := (Item.interpolation_mem_iff items).mp hinterpolation
    simp [hinterpolation, hany]
  · have hany : items.any Item.isInterpolation = false := by
      rwa [Item.interpolation_mem_iff, Bool.not_eq_true] at hinterpolation
    by_cases hunknown : ∃ i ∈ items, i.isUnknown = true
    · have hchars : items.all (·.char?.isSome) = false := by
        rw [← Bool.not_eq_true, Item.all_isSome_char?_iff hinterpolation]
        simpa using hunknown
      have hnot : ¬ ∀ i ∈ items, i.isUnknown = false := by
        simpa using hunknown
      simp [hinterpolation, hany, hchars, hunknown, hnot]
    · have hchars : items.all (·.char?.isSome) = true := by
        rw [Item.all_isSome_char?_iff hinterpolation]
        simpa using hunknown
      simp [hinterpolation, hany, hchars, hunknown]

/-- A raw literal in which an escaped backslash stands before a letter, a pound behind an escape,
and a brace without one. -/
def mixedItems : List Item :=
  [.raw 'é' (by decide), .shorthand .backslash, .raw 'n' (by decide),
    .number ⟨[⟨1, false⟩, ⟨15, true⟩, ⟨6, false⟩, ⟨0, false⟩, ⟨0, false⟩], by decide, by decide,
      by decide⟩,
    .shorthand .quote, .raw '#' (by decide), .raw 'u' (by decide), .raw '\x7b' (by decide)]

def unknownItem : Item :=
  .unknown 'q' (by decide) (by intro s; cases s <;> decide)

theorem read_items_mixedItems :
    read " \t#\"é\\#\\n\\#u\x7b1F600\x7d\\#\"#u\x7b\"#\n" = .ok (some "é\\n😀\"#u\x7b") ∧
      read "\"\\q\"" = .error (.literal .escape "\"\\q\"") ∧
      read "\"\\q\\(\"" = .ok none := by
  have hmixed : padded [' ', '\t'] ['\n'] 1 mixedItems =
      " \t#\"é\\#\\n\\#u\x7b1F600\x7d\\#\"#u\x7b\"#\n" := by decide
  have hunknown : padded [] [] 0 [unknownItem] = "\"\\q\"" := by decide
  have hnone : padded [] [] 0 [unknownItem, .interpolation] = "\"\\q\\(\"" := by decide
  have hcontent : String.ofList (mixedItems.filterMap Item.char?) = "é\\n😀\"#u\x7b" := by decide
  rw [← hmixed, ← hunknown, ← hnone, ← hcontent]
  exact ⟨((read_items 1 mixedItems rfl rfl).2 (by decide)).2 (by decide),
    ((read_items 0 [unknownItem] rfl rfl).2 (by decide)).1.mpr (by decide),
    (read_items 0 [unknownItem, .interpolation] rfl rfl).1.mpr (by decide)⟩

end SwiftExpansion.Literal
