import SwiftExpansion.Template

/-!
# Templates with plain placeholders

A template of plain text with an empty placeholder here and there is filled in without fail, as long
as there are as many arguments and all of them can be shown: each placeholder gives way to the
display of the next argument, and the text between them stays as it is.
-/
namespace SwiftExpansion.Template

/-- Text that stands for itself in a template. -/
def IsPlain (text : List Char) : Prop :=
  ∀ c ∈ text, c ≠ '\x7b' ∧ c ≠ '\x7d'

instance (text : List Char) : Decidable (IsPlain text) :=
  List.decidableBAll (fun c => c ≠ '\x7b' ∧ c ≠ '\x7d') text

/-- Texts, each with an empty placeholder before it. -/
def slots (texts : List (List Char)) : List Char :=
  texts.flatMap fun text => '\x7b' :: '\x7d' :: text

def filled (args : List Json) (texts : List (List Char)) : List Char :=
  (args.zip texts).flatMap fun x => x.1.display.toList ++ x.2

def Numbering.after : Nat → Numbering
  | 0 => .undecided
  | n + 1 => .automatic (n + 1)

theorem choose_next (n : Nat) : choose (.after n) .next = .ok (n, .after (n + 1)) := by
  cases n <;> rfl

theorem cut_plain {text : List Char} (h : IsPlain text) (rest : List Char) :
    cut .text (text ++ rest) = text.map .char ++ cut .text rest := by
  induction text with
  | nil => rfl
  | cons c text ih =>
    obtain ⟨⟨hopening, hclosing⟩, htext⟩ := List.forall_mem_cons.mp h
    have hstep : State.text.step c = .ok (.text, some (.char c)) := by
      simp [State.step, hopening, hclosing]
    rw [List.cons_append, cut, hstep, List.map_cons, List.cons_append, ← ih htext]
    rfl

theorem cut_slot (rest : List Char) :
    cut .text ('\x7b' :: '\x7d' :: rest) = .placeholder [] none [] :: cut .text rest :=
  rfl

section

variable [Memory] {args : Array Json}
  {nested : Numbering → List Char → Except Fault (List Char × Numbering)} {numbering : Numbering}

theorem fill_plain (text : List Char) (pieces : List Piece) :
    fill args nested numbering (text.map .char ++ pieces) =
      (fill args nested numbering pieces).map fun x => (text ++ x.1, x.2) := by
  induction text with
  | nil =>
    rw [List.map_nil, List.nil_append]
    cases fill args nested numbering pieces <;> rfl
  | cons c text ih =>
    rw [List.map_cons, List.cons_append, fill, ih]
    cases fill args nested numbering pieces <;> rfl

/-- An empty placeholder takes the next argument and shows it as it is. -/
theorem fill_slot {n : Nat} {j : Json} (hj : args[n]? = some j) (hshort : j.isShort = true)
    (pieces : List Piece) :
    fill args nested (.after n) (.placeholder [] none [] :: pieces) =
      (fill args nested (.after (n + 1)) pieces).map fun x => (j.display.toList ++ x.1, x.2) := by
  have hselect : Selector.read (splitName []).1 = .ok .next := rfl
  have hargument : argument args n = .ok (.data j) := by
    rw [argument, hj]
    rfl
  have hfollow : follow (.data j) (splitName []).2 = .ok (.data j) := rfl
  have hshown : (Value.data j).shown Value.display = .ok j.display := if_pos hshort
  have hpresent : present [] (.data j) = .ok j.display.toList := by
    rw [present, hshown]
    rfl
  simp only [fill, hselect, choose_next, hargument, hfollow, convert, hpresent, List.contains_nil,
    Bool.false_eq_true, if_false, bind, Except.bind]
  cases fill args nested (.after (n + 1)) pieces <;> rfl

end

/-- Placeholders take the arguments in turn, behind those that were taken before. -/
theorem fill_slots [Memory]
    {nested : Numbering → List Char → Except Fault (List Char × Numbering)} (taken : List Json)
    {args : List Json} {texts : List (List Char)} (hplain : ∀ text ∈ texts, IsPlain text)
    (hshort : ∀ j ∈ args, j.isShort = true) (hlength : args.length = texts.length) :
    fill (taken ++ args).toArray nested (.after taken.length) (cut .text (slots texts)) =
      .ok (filled args texts, .after (taken ++ args).length) := by
  induction texts generalizing taken args with
  | nil =>
    obtain rfl := List.length_eq_zero_iff.mp hlength
    rw [List.append_nil]
    rfl
  | cons text texts ih =>
    obtain ⟨htext, htexts⟩ := List.forall_mem_cons.mp hplain
    cases args with
    | nil => cases hlength
    | cons j args =>
      obtain ⟨hj, hargs⟩ := List.forall_mem_cons.mp hshort
      have hnext : (taken ++ j :: args).toArray[taken.length]? = some j := by simp
      have hrest := ih (taken ++ [j]) htexts hargs (Nat.succ.inj hlength)
      rw [List.append_assoc, List.singleton_append, List.length_append, List.length_singleton]
        at hrest
      rw [slots, List.flatMap_cons, List.cons_append, List.cons_append, cut_slot,
        fill_slot hnext hj, cut_plain htext, fill_plain]
      rw [← slots, hrest]
      simp [filled, Except.map]

theorem format_slots [Memory] {args : List Json} {texts : List (List Char)} {first : List Char}
    (hfirst : IsPlain first) (hplain : ∀ text ∈ texts, IsPlain text)
    (hshort : ∀ j ∈ args, j.isShort = true) (hlength : args.length = texts.length) :
    format (String.ofList (first ++ slots texts)) args =
      .ok (String.ofList (first ++ filled args texts)) := by
  have hfill : fill args.toArray (expand args.toArray 1) .undecided (cut .text (slots texts)) =
      .ok (filled args texts, .after args.length) :=
    fill_slots [] hplain hshort hlength
  have hexpand : expand args.toArray 2 .undecided (first ++ slots texts) =
      .ok (first ++ filled args texts, .after args.length) := by
    rw [expand, cut_plain hfirst, fill_plain]
    exact congrArg _ hfill
  rw [format, String.toList_ofList, hexpand]
  rfl

end SwiftExpansion.Template
