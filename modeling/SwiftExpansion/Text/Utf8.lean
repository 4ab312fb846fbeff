import SwiftExpansion.Text.Quoted

/-!
# Texts of files

A file holds UTF-8. Its octets are taken one by one; the first one that no text can hold ends the
reading with a fault that names the octets of the broken character. Every line end, be it a
carriage return, a line feed or both, then counts as one line feed.
-/
namespace SwiftExpansion.Text

inductive EncodingCause
  | start
  | continuation
  | endOfData
  deriving Repr, DecidableEq

def EncodingCause.message : EncodingCause → String
  | .start => "invalid start byte"
  | .continuation => "invalid continuation byte"
  | .endOfData => "unexpected end of data"

/-- The broken character takes `count` octets from `offset` on and starts with the octet `lead`. -/
structure EncodingFault where
  cause : EncodingCause
  lead : Nat
  offset : Nat
  count : Nat
  deriving Repr, DecidableEq

def EncodingFault.message (f : EncodingFault) : String :=
  "'utf-8' codec can't decode " ++
    (if f.count == 1 then
      "byte 0x" ++ String.ofList (hexDigits 2 f.lead) ++ " in position " ++ toString f.offset
    else
      "bytes in position " ++ toString f.offset ++ "-" ++ toString (f.offset + f.count - 1)) ++
    ": " ++ f.cause.message

/-- Between two characters, or inside one that started with `lead` at `offset`: `seen` octets are
there, `left` are due, and the next has to lie between `low` and `high`. -/
inductive OctetState
  | between
  | inside (lead offset seen left low high value : Nat)

def startOctet (offset b : Nat) : Option OctetState :=
  if 0xC2 ≤ b && b ≤ 0xDF then some (.inside b offset 1 1 0x80 0xBF (b - 0xC0))
  else if b == 0xE0 then some (.inside b offset 1 2 0xA0 0xBF 0)
  else if b == 0xED then some (.inside b offset 1 2 0x80 0x9F 0xD)
  else if 0xE1 ≤ b && b ≤ 0xEF then some (.inside b offset 1 2 0x80 0xBF (b - 0xE0))
  else if b == 0xF0 then some (.inside b offset 1 3 0x90 0xBF 0)
  else if 0xF1 ≤ b && b ≤ 0xF3 then some (.inside b offset 1 3 0x80 0xBF (b - 0xF0))
  else if b == 0xF4 then some (.inside b offset 1 3 0x80 0x8F 4)
  else none

/-- Reads octets from `offset` on; `done` holds the characters read, last first. -/
def decodeOctets : OctetState → Nat → List Char → List UInt8 → Except EncodingFault (List Char)
  | .between, _, done, [] => .ok done.reverse
  | .inside lead first seen _ _ _ _, _, _, [] => .error ⟨.endOfData, lead, first, seen⟩
  | .between, offset, done, b :: bs =>
    if b.toNat < 0x80 then decodeOctets .between (offset + 1) (Char.ofNat b.toNat :: done) bs
    else match startOctet offset b.toNat with
      | some state => decodeOctets state (offset + 1) done bs
      | none => .error ⟨.start, b.toNat, offset, 1⟩
  | .inside lead first seen left low high value, offset, done, b :: bs =>
    if low ≤ b.toNat && b.toNat ≤ high then
      let value := value * 0x40 + (b.toNat - 0x80)
      if left ≤ 1 then decodeOctets .between (offset + 1) (Char.ofNat value :: done) bs
      else decodeOctets (.inside lead first (seen + 1) (left - 1) 0x80 0xBF value) (offset + 1) done bs
    else .error ⟨.continuation, lead, first, seen⟩

def unifyLineEnds : List Char → List Char
  | [] => []
  | '\r' :: '\n' :: cs => '\n' :: unifyLineEnds cs
  | '\r' :: cs => '\n' :: unifyLineEnds cs
  | c :: cs => c :: unifyLineEnds cs

def ofOctets (octets : List UInt8) : Except EncodingFault String :=
  match decodeOctets .between 0 [] octets with
  | .ok cs => .ok (String.ofList (unifyLineEnds cs))
  | .error f => .error f

def toOctets (s : String) : List UInt8 :=
  s.toUTF8.toList

end SwiftExpansion.Text
