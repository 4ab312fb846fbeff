import SwiftExpansion.Proofs.Literal.RoundTrip

/-!
# Written literals end where they end

A compiler that meets a literal in source code does not know its length. It reads the opening
delimiter and goes on from left to right, over escapes and other characters, to the first quote that
the right number of pounds follows. The reader of this library looks for the closing delimiter from
the other end, so that reading back says nothing about such a scan. Here the scan is defined on its
own, and it stops exactly at the end of what is written, whatever comes next in the file.
-/
namespace SwiftExpansion.Literal

/-- Passes over `skip` characters, then looks for a quote with `k` pounds behind it, and counts the
characters up to the last of them. A backslash with `k` pounds takes the next character with it. -/
def scanBody (k : Nat) : Nat → List Char → Option Nat
  | _, [] => none
  | skip + 1, _ :: cs => (scanBody k skip cs).map (· + 1)
  | 0, c :: cs =>
    if c = '\\' ∧ pounds k <+: cs ∧ k < cs.length then (scanBody k (k + 1) cs).map (· + 1)
    else if c = '"' ∧ pounds k <+: cs then some (k + 1)
    else (scanBody k 0 cs).map (· + 1)

def scan (k : Nat) (source : List Char) : Option Nat :=
  (Text.dropFront? (pounds k ++ ['"']) source).bind fun rest =>
    (scanBody k 0 rest).map (· + (k + 1))

theorem scanBody_append (k : Nat) (skipped cs : List Char) :
    scanBody k skipped.length (skipped ++ cs) = (scanBody k 0 cs).map (· + skipped.length) := by
  induction skipped with
  | nil => simp
  | cons c skipped ih =>
    rw [List.cons_append, List.length_cons, scanBody, ih, Option.map_map]
    rfl

/-- A character that neither closes the literal nor starts an escape is passed over. -/
theorem scanBody_plain {k : Nat} {c : Char} {cs : List Char}
    (h : isDelicate c → Text.leadingRun '#' cs < k) :
    scanBody k 0 (c :: cs) = (scanBody k 0 cs).map (· + 1) := by
  have hmark (d : Char) (hd : isDelicate d) : ¬ (c = d ∧ pounds k <+: cs) := by
    rintro ⟨rfl, hpounds⟩
    exact absurd ((pounds_prefix_iff k cs).mp hpounds) (Nat.not_le.mpr (h hd))
  rw [scanBody, if_neg fun hc => hmark '\\' rfl ⟨hc.1, hc.2.1⟩, if_neg (hmark '"' rfl)]

theorem scanBody_escaped (k : Nat) (e : Char) (cs : List Char) :
    scanBody k 0 (escapeMark k ++ e :: cs) = (scanBody k 0 cs).map (· + (k + 2)) := by
  have hskip := scanBody_append k (pounds k ++ [e]) cs
  simp only [List.append_assoc, List.singleton_append, List.length_append, length_pounds,
    List.length_singleton] at hskip
  rw [escapeMark, List.cons_append, scanBody, if_pos ⟨rfl, List.prefix_append _ _, by simp⟩, hskip,
    Option.map_map]
  rfl

theorem scanBody_close (k : Nat) (rest : List Char) :
    scanBody k 0 ('"' :: (pounds k ++ rest)) = some (k + 1) := by
  simp [scanBody]

/-- The scan of a body that spells a text passes over all of it and stops behind the closing
delimiter. -/
theorem Spells.scanBody_eq {k : Nat} {body content : List Char} (h : Spells k body content)
    (rest : List Char) :
    scanBody k 0 (body ++ '"' :: (pounds k ++ rest)) = some (body.length + (k + 1)) := by
  induction h with
  | nil => simpa using scanBody_close k rest
  | @plain c body content hline hrun h ih =>
    -- The closing quote ends a run of pounds at the end of the body.
    rw [← Text.leadingRun_append_cons (by decide : '"' ≠ '#') body (pounds k ++ rest)] at hrun
    rw [List.cons_append, scanBody_plain hrun, ih, List.length_cons, Option.map_some]
    congr 1
    omega
  | @escaped e c body content he h ih =>
    rw [List.append_assoc, List.cons_append, scanBody_escaped, ih, Option.map_some]
    simp only [escapeMark, List.length_append, List.length_cons, length_pounds]
    congr 1
    omega

theorem scan_encode (cs rest : List Char) :
    scan (poundCount cs) (encode cs ++ rest) = some (encode cs).length := by
  have hspells := spells_writtenBody cs
  have hopen : encode cs ++ rest = (pounds (poundCount cs) ++ ['"']) ++
      (writtenBody (poundCount cs) cs ++ '"' :: (pounds (poundCount cs) ++ rest)) := by
    simp [encode]
  rw [scan, hopen, Text.dropFront?_append, Option.bind_some, hspells.scanBody_eq, Option.map_some]
  simp only [encode, List.length_append, List.length_cons, length_pounds]
  congr 1
  omega

theorem single_line_encode (cs : List Char) : '\r' ∉ encode cs ∧ '\n' ∉ encode cs := by
  have hbody := (spells_writtenBody cs).single_line
  simp [encode, not_mem_pounds, hbody]

/-- A literal is isolated from the source around it. With the pounds counted at its front, the scan
stops exactly at its end, whatever follows; no line ends in it, and triple quotes do not open it. -/
theorem scan_write (s rest : String) :
    let literal := (write s).toList
    let k := Text.leadingRun '#' literal
    scan k (literal ++ rest.toList) = some literal.length ∧
      '\r' ∉ literal ∧ '\n' ∉ literal ∧ ¬ tripleQuote <+: literal.drop k := by
  intro literal k
  have hliteral : literal = encode s.toList := String.toList_ofList
  have hk : k = poundCount s.toList := by
    simp only [k, hliteral, leadingRun_encode]
  obtain ⟨hr, hn⟩ := single_line_encode s.toList
  rw [hk, hliteral]
  exact ⟨scan_encode _ _, hr, hn, tripleQuote_not_opening _⟩

example : scan 1 ("#\"a\"b\"#".toList ++ "\"#".toList) = some 7 := by decide

end SwiftExpansion.Literal
