import SwiftExpansion.Json.Document
import SwiftExpansion.Proofs.Fault

/-!
# The numbers of a document can be written

A document is refused at a whole number with more digits than can be written, so every value in one
that is read has a text. The lexemes are short first; then each step of the reader keeps the values
in its open containers short.
-/
namespace SwiftExpansion.Json

theorem areShort_iff {items : List Json} :
    areShort items = true ↔ ∀ j ∈ items, j.isShort = true := by
  induction items with
  | nil => simp [areShort]
  | cons j items ih => simp [areShort, ih]

theorem entriesAreShort_iff {entries : List (String × Json)} :
    entriesAreShort entries = true ↔ ∀ e ∈ entries, e.2.isShort = true := by
  induction entries with
  | nil => simp [entriesAreShort]
  | cons e entries ih => simp [entriesAreShort, ih]

theorem isShort_list {items : List Json} :
    (list items).isShort = true ↔ ∀ j ∈ items, j.isShort = true := by
  rw [isShort, areShort_iff]

theorem isShort_object {entries : List (String × Json)} :
    (object entries).isShort = true ↔ ∀ e ∈ entries, e.2.isShort = true := by
  rw [isShort, entriesAreShort_iff]

theorem isShort_of_lookup {entries : List (String × Json)} (h : ∀ e ∈ entries, e.2.isShort = true)
    {key : String} {j : Json} (hkey : entries.lookup key = some j) : j.isShort = true := by
  obtain ⟨before, after, rfl, -⟩ := List.lookup_eq_some_iff.mp hkey
  exact h (key, j) (by simp)

theorem isShort_of_insertEntry {entries : List (String × Json)} {key : String} {value : Json}
    (h : ∀ e ∈ entries, e.2.isShort = true) (hvalue : value.isShort = true) :
    ∀ e ∈ insertEntry entries key value, e.2.isShort = true := by
  unfold insertEntry
  split
  · rw [List.forall_mem_map]
    intro e he
    split
    · exact hvalue
    · exact h e he
  · rw [List.forall_mem_append]
    exact ⟨h, by simpa using hvalue⟩

/-! Lexemes. -/

theorem foldl_digits_lt {ds : List Char} (h : ∀ c ∈ ds, c.isDigit = true) (n : Nat) :
    ds.foldl (fun n c => 10 * n + (c.toNat - '0'.toNat)) n < (n + 1) * Nat.pow 10 ds.length := by
  induction ds generalizing n with
  | nil => exact Nat.lt_of_lt_of_eq n.lt_succ_self (Nat.mul_one _).symm
  | cons c ds ih =>
    obtain ⟨hc, hds⟩ := List.forall_mem_cons.mp h
    have hdigit : c.toNat - '0'.toNat ≤ 9 := by
      have hrange : c.toNat ≤ '9'.toNat := by
        simp only [Char.isDigit, Bool.and_eq_true, decide_eq_true_eq] at hc
        exact hc.2
      have hnine : '9'.toNat = '0'.toNat + 9 := rfl
      omega
    have hrest := ih hds (10 * n + (c.toNat - '0'.toNat))
    have hpow : Nat.pow 10 (ds.length + 1) = 10 * Nat.pow 10 ds.length := Nat.mul_comm _ _
    rw [List.foldl_cons, List.length_cons, hpow, ← Nat.mul_assoc]
    exact Nat.lt_of_lt_of_le hrest (Nat.mul_le_mul_right _ (by omega))

theorem natOfDigits_lt {ds : List Char} (h : ∀ c ∈ ds, c.isDigit = true) {k : Nat}
    (hk : ds.length ≤ k) : natOfDigits ds < Nat.pow 10 k := by
  have hlt := foldl_digits_lt h 0
  rw [Nat.zero_add, Nat.one_mul] at hlt
  exact Nat.lt_of_lt_of_le hlt (Nat.pow_le_pow_right (by decide) hk)

def Token.IsShort : Token → Prop
  | .scalar j => j.isShort = true
  | _ => True

theorem numberToken_isShort (negative : Bool) {whole : List Char} (fraction : List Char)
    (e : Option Int) (h : ∀ c ∈ whole, c.isDigit = true) :
    (numberToken negative whole fraction e).IsShort := by
  unfold numberToken
  split
  · rfl
  · split
    · split
      · trivial
      · rename_i hcount
        have habs : (if negative then -(natOfDigits whole : Int) else natOfDigits whole).natAbs =
            natOfDigits whole := by
          cases negative <;> simp
        simp only [Token.IsShort, isShort, habs, decide_eq_true_eq]
        exact natOfDigits_lt h (Nat.le_of_not_lt hcount)
    · rfl

theorem isDigit_of_mem_wholeDigits {cs : List Char} : ∀ c ∈ wholeDigits cs, c.isDigit = true := by
  unfold wholeDigits
  split
  · simp
  · exact List.all_eq_true.mp List.all_takeWhile

theorem scanNumber?_isShort {cs : List Char} {token : Token} {length : Nat}
    (h : scanNumber? cs = some (token, length)) : token.IsShort := by
  simp only [scanNumber?] at h
  split at h
  · cases h
  · cases h
    exact numberToken_isShort _ _ _ isDigit_of_mem_wholeDigits

theorem scanWord?_isShort {cs : List Char} {token : Token} {length : Nat}
    (h : scanWord? cs = some (token, length)) : token.IsShort := by
  obtain ⟨word, hword, hfound⟩ := Option.map_eq_some_iff.mp h
  cases hfound
  have hwords : ∀ w ∈ words, w.2.isShort = true := by simp [words, isShort]
  exact hwords word (List.mem_of_find?_eq_some hword)

theorem scanString_isShort (start : Nat) (state : StringState) (done : List Char) (pos : Nat)
    (cs : List Char) : (scanString start state done pos cs).1.IsShort := by
  fun_induction scanString start state done pos cs <;> trivial

theorem scanToken_isShort (offset : Nat) (c : Char) (cs : List Char) :
    (scanToken offset c cs).1.IsShort := by
  unfold scanToken
  split
  case h_7 => exact scanString_isShort _ _ _ _ _
  case h_8 =>
    cases hword : scanWord? (c :: cs) with
    | some found => exact scanWord?_isShort hword
    | none =>
      cases hnumber : scanNumber? (c :: cs) with
      | some found => simpa using scanNumber?_isShort hnumber
      | none => trivial
  all_goals trivial

theorem lexemesFrom_isShort (skip offset : Nat) (cs : List Char) :
    ∀ l ∈ lexemesFrom skip offset cs, l.token.IsShort := by
  fun_induction lexemesFrom skip offset cs with
  | case1 => simp [Token.IsShort]
  | case2 => assumption
  | case3 => assumption
  | case4 offset c cs _ token length hscan =>
    have htoken := scanToken_isShort offset c cs
    rw [hscan] at htoken
    simpa using htoken
  | case5 offset c cs _ token length hscan _ ih =>
    have htoken := scanToken_isShort offset c cs
    rw [hscan] at htoken
    exact List.forall_mem_cons.mpr ⟨htoken, ih⟩

/-! The reader. -/

def Frame.IsShort : Frame → Prop
  | .items done => ∀ j ∈ done, j.isShort = true
  | .entries done _ => ∀ e ∈ done, e.2.isShort = true

/-- What the reader keeps up: all that it holds is short. -/
structure ReaderState.IsShort (s : ReaderState) : Prop where
  stack : ∀ frame ∈ s.stack, frame.IsShort
  result : ∀ j, s.expecting = .finish j → j.isShort = true

theorem close_isShort {j : Json} {stack : List Frame} (hj : j.isShort = true)
    (hstack : ∀ frame ∈ stack, frame.IsShort) : (close j stack).IsShort := by
  unfold close
  split
  · exact ⟨by simp, fun i hi => by cases hi; exact hj⟩
  · obtain ⟨hdone, hrest⟩ := List.forall_mem_cons.mp hstack
    exact ⟨List.forall_mem_cons.mpr ⟨List.forall_mem_cons.mpr ⟨hj, hdone⟩, hrest⟩, by simp⟩
  · obtain ⟨hdone, hrest⟩ := List.forall_mem_cons.mp hstack
    exact ⟨List.forall_mem_cons.mpr ⟨isShort_of_insertEntry hdone hj, hrest⟩, by simp⟩

section

variable {stack : List Frame} {l : Lexeme} {s : ReaderState}
  (hstack : ∀ frame ∈ stack, frame.IsShort)

include hstack

theorem push_isShort {container : Container} {frame : Frame} {expecting : Expecting}
    (hframe : frame.IsShort) (hexpecting : ∀ j, expecting ≠ .finish j)
    (h : push container frame expecting stack = .ok s) : s.IsShort := by
  unfold push at h
  split at h
  · cases h
    exact ⟨List.forall_mem_cons.mpr ⟨hframe, hstack⟩, fun j hj => absurd hj (hexpecting j)⟩
  · cases h

theorem takeValue_isShort (hl : l.token.IsShort) (h : takeValue stack l = .ok s) : s.IsShort := by
  unfold takeValue at h
  split at h
  case h_1 j htoken =>
    cases h
    rw [htoken] at hl
    exact close_isShort hl hstack
  case h_2 =>
    cases h
    exact close_isShort rfl hstack
  case h_3 => exact push_isShort hstack (by simp [Frame.IsShort]) (by simp) h
  case h_4 => exact push_isShort hstack (by simp [Frame.IsShort]) (by simp) h
  all_goals cases h

theorem takeKey_isShort (h : takeKey stack l = .ok s) : s.IsShort := by
  unfold takeKey at h
  split at h
  case h_1 =>
    cases h
    obtain ⟨hdone, hrest⟩ := List.forall_mem_cons.mp hstack
    exact ⟨List.forall_mem_cons.mpr ⟨hdone, hrest⟩, by simp⟩
  all_goals cases h

theorem takeDelimiter_isShort (h : takeDelimiter stack l = .ok s) : s.IsShort := by
  unfold takeDelimiter at h
  split at h
  case h_2 done stack _ =>
    cases h
    obtain ⟨hdone, hrest⟩ := List.forall_mem_cons.mp hstack
    refine close_isShort (isShort_list.mpr fun j hj => hdone j ?_) hrest
    exact List.mem_reverse.mp hj
  case h_4 done key stack _ =>
    cases h
    obtain ⟨hdone, hrest⟩ := List.forall_mem_cons.mp hstack
    exact close_isShort (isShort_object.mpr hdone) hrest
  case h_5 => cases h
  all_goals
    cases h
    exact ⟨hstack, by simp⟩

end

theorem step_isShort {s next : ReaderState} {l : Lexeme} (hs : s.IsShort) (hl : l.token.IsShort)
    (h : step s l = .ok next) : next.IsShort := by
  have htail : ∀ frame ∈ s.stack.tail, frame.IsShort := fun f hf =>
    hs.stack f (List.mem_of_mem_tail hf)
  unfold step at h
  split at h
  case h_1 => exact takeValue_isShort hs.stack hl h
  case h_2 =>
    split at h
    · cases h
      exact close_isShort rfl htail
    · exact takeValue_isShort hs.stack hl h
  case h_3 =>
    split at h
    · cases h
      exact close_isShort rfl htail
    · exact takeKey_isShort hs.stack h
  case h_4 => exact takeKey_isShort hs.stack h
  case h_5 =>
    split at h
    · cases h
      exact ⟨hs.stack, by simp⟩
    · cases h
  case h_6 => exact takeDelimiter_isShort hs.stack h
  case h_7 =>
    split at h
    · cases h
      exact hs
    · cases h

theorem foldlM_step_isShort {ls : List Lexeme} (hls : ∀ l ∈ ls, l.token.IsShort)
    {s next : ReaderState} (hs : s.IsShort) (h : ls.foldlM step s = .ok next) : next.IsShort := by
  induction ls generalizing s with
  | nil =>
    cases h
    exact hs
  | cons l ls ih =>
    obtain ⟨hl, hrest⟩ := List.forall_mem_cons.mp hls
    obtain ⟨middle, hmiddle, hnext⟩ := Except.bind_eq_ok.mp h
    exact ih hrest (step_isShort hs hl hmiddle) hnext

theorem readLexemes_isShort {ls : List Lexeme} (hls : ∀ l ∈ ls, l.token.IsShort) {j : Json}
    (h : readLexemes ls = .ok j) : j.isShort = true := by
  obtain ⟨s, hs, hj⟩ := Except.bind_eq_ok.mp h
  have hstart : ReaderState.IsShort ⟨[], .value⟩ := ⟨by simp, by simp⟩
  have hshort := foldlM_step_isShort hls hstart hs
  split at hj
  · rename_i result hresult
    cases hj
    exact hshort.result _ hresult
  · cases hj

/-- Every value that a document is read as can be written. -/
theorem read_isShort {source : String} {j : Json} (h : read source = .ok j) :
    j.isShort = true := by
  unfold read at h
  dsimp only at h
  split at h
  · cases h
  · split at h
    · rename_i hread
      cases h
      exact readLexemes_isShort (lexemesFrom_isShort 0 0 _) hread
    all_goals cases h

theorem ofOctets_isShort {octets : List UInt8} {j : Json} (h : ofOctets octets = .ok j) :
    j.isShort = true := by
  unfold ofOctets at h
  split at h
  · cases h
  · split at h
    · cases h
    · rename_i found hfound
      cases h
      exact read_isShort hfound

end SwiftExpansion.Json
