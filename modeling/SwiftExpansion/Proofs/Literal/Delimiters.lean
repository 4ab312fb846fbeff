import SwiftExpansion.Literal.Reader
import SwiftExpansion.Proofs.Text

/-!
# Delimiters of literals

A literal is a body between quotes, one or three on each side, with the same number of pounds around
them. The pounds are counted at the front, where a quote ends their run, and the closing delimiter
is cut off the end, so that the body comes back whatever stands in it. A literal between single
quotes is told from one between triple quotes by not being one of those.
-/
namespace SwiftExpansion.Literal

theorem isPrefixOf_pounds (k : Nat) (cs : List Char) :
    (pounds k).isPrefixOf cs = decide (k ≤ Text.leadingRun '#' cs) :=
  Text.isPrefixOf_replicate '#' k cs

theorem pounds_prefix_iff (k : Nat) (cs : List Char) :
    pounds k <+: cs ↔ k ≤ Text.leadingRun '#' cs := by
  rw [← List.isPrefixOf_iff_prefix, isPrefixOf_pounds, decide_eq_true_iff]

theorem leadingRun_pounds_append (k : Nat) (cs : List Char) :
    Text.leadingRun '#' (pounds k ++ cs) = k + Text.leadingRun '#' cs :=
  Text.leadingRun_replicate_append '#' k cs

@[simp] theorem length_pounds (k : Nat) : (pounds k).length = k :=
  List.length_replicate

@[simp] theorem drop_pounds_append (k : Nat) (cs : List Char) : (pounds k ++ cs).drop k = cs :=
  List.drop_left' (length_pounds k)

theorem not_mem_pounds {c : Char} (h : c ≠ '#') (k : Nat) : c ∉ pounds k := by
  intro hmem
  exact h (List.eq_of_mem_replicate hmem)

theorem between?_eq_some {quotes cs body : List Char} {k : Nat} :
    between? quotes k cs = some body ↔ cs = quotes ++ (body ++ (quotes ++ pounds k)) := by
  simp only [between?, Option.bind_eq_some_iff, Text.dropFront?_eq_some, Text.dropBack?_eq_some]
  constructor
  · rintro ⟨rest, rfl, rfl⟩
    rfl
  · intro h
    exact ⟨_, h, rfl⟩

/-- A body between quotes, with `k` pounds around them. -/
def enclosed (k : Nat) (quotes body : List Char) : List Char :=
  pounds k ++ (quotes ++ (body ++ (quotes ++ pounds k)))

section Enclosed

variable {quotes : List Char} (k : Nat) (body : List Char)

@[simp] theorem drop_enclosed :
    (enclosed k quotes body).drop k = quotes ++ (body ++ (quotes ++ pounds k)) :=
  drop_pounds_append k _

theorem leadingRun_enclosed (h : quotes.head? = some '"') :
    Text.leadingRun '#' (enclosed k quotes body) = k := by
  obtain ⟨rest, rfl⟩ := List.head?_eq_some_iff.mp h
  rw [enclosed, leadingRun_pounds_append, List.cons_append,
    Text.leadingRun_cons_of_ne (by decide), Nat.add_zero]

theorem trim_enclosed (h : ∀ c ∈ quotes, c = '"') (hne : quotes ≠ []) :
    Text.trim (enclosed k quotes body) = enclosed k quotes body := by
  have hblank (c : Char) (hc : c ∈ pounds k ∨ c ∈ quotes) : Text.isBlank c = false := by
    rcases hc with hc | hc
    · rw [List.eq_of_mem_replicate hc]
      decide
    · rw [h c hc]
      decide
  have hsplit : enclosed k quotes body = (pounds k ++ quotes) ++ body ++ (quotes ++ pounds k) := by
    simp [enclosed]
  rw [hsplit]
  apply Text.trim_between
  · intro c hc
    exact hblank c (List.mem_append.mp hc)
  · intro c hc
    exact hblank c (List.mem_append.mp hc).symm
  · simp [hne]
  · simp [hne]

theorem delimited?_triple :
    delimited? (enclosed k tripleQuote body) = some ⟨k, true, body⟩ := by
  have hrun : Text.leadingRun '#' (enclosed k tripleQuote body) = k :=
    leadingRun_enclosed k body rfl
  simp only [delimited?, hrun, drop_enclosed, between?_eq_some.mpr rfl]

variable {k body}

/-- What does not stand between triple quotes is taken to stand between single ones. -/
theorem delimited?_single (h : ∀ inner, enclosed k ['"'] body ≠ enclosed k tripleQuote inner) :
    delimited? (enclosed k ['"'] body) = some ⟨k, false, body⟩ := by
  have hrun : Text.leadingRun '#' (enclosed k ['"'] body) = k := leadingRun_enclosed k body rfl
  have htriple : between? tripleQuote k (['"'] ++ (body ++ (['"'] ++ pounds k))) = none := by
    rw [Option.eq_none_iff_forall_ne_some]
    intro inner hinner
    apply h inner
    rw [enclosed, between?_eq_some.mp hinner]
    rfl
  simp only [delimited?, hrun, drop_enclosed, htriple, between?_eq_some.mpr rfl, Option.map_some]

/-- Triple quotes around a text open it as well. -/
theorem enclosed_ne_triple (h : ¬ tripleQuote <+: '"' :: (body ++ '"' :: pounds k))
    (inner : List Char) : enclosed k ['"'] body ≠ enclosed k tripleQuote inner := by
  intro heq
  have hrest := congrArg (List.drop k) heq
  rw [drop_enclosed, drop_enclosed] at hrest
  apply h
  exact ⟨_, hrest.symm⟩

end Enclosed

/-- Between its delimiters a literal is read by decoding the escapes in its lines. -/
theorem decode_of_delimited? {cs : List Char} {d : Delimited}
    (h : delimited? (Text.trim cs) = some d) :
    decode cs = d.text >>= unescape d.pounds d.multiline := by
  simp only [decode, h]
  cases d.text <;> rfl

theorem decode_eq_unescape {cs body : List Char} {d : Delimited}
    (hd : delimited? (Text.trim cs) = some d) (hbody : d.text = .ok body) :
    decode cs = unescape d.pounds d.multiline body := by
  rw [decode_of_delimited? hd, hbody]
  rfl

theorem Delimited.text_of_single_line {body : List Char} (h : '\r' ∉ body ∧ '\n' ∉ body)
    (k : Nat) : (⟨k, false, body⟩ : Delimited).text = .ok body := by
  simp [text, h.1, h.2]

theorem Delimited.eq_of_text {k : Nat} {body text : List Char}
    (h : (⟨k, false, body⟩ : Delimited).text = .ok text) : text = body := by
  simp only [Delimited.text, Bool.false_eq_true, if_false] at h
  split at h
  · cases h
  · exact (Except.ok.inj h).symm

theorem read_eq_some_iff {source content : String} :
    read source = .ok (some content) ↔ decode source.toList = .ok (some content.toList) := by
  unfold read
  cases hdecode : decode source.toList with
  | error f => simp
  | ok found =>
    cases found with
    | none => simp
    | some cs => simp [String.ext_iff]

end SwiftExpansion.Literal
