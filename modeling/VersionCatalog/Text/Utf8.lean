/-!
# UTF-8

Bytes are decoded sequence by sequence. Only the shortest form of a Unicode scalar value is well
formed; decoding stops at the first byte of the first sequence that is not.
-/

namespace VersionCatalog.Text.Utf8

/-- The six bits that a continuation byte carries. -/
def continuation? (byte : UInt8) : Option Nat :=
  if 0x80 ≤ byte.toNat ∧ byte.toNat < 0xc0 then some (byte.toNat - 0x80) else none

/-- The character of a sequence of two bytes. -/
def twoBytes? (lead next : UInt8) : Option Char := do
  let low ← continuation? next
  if 0xc2 ≤ lead.toNat ∧ lead.toNat < 0xe0 then
    some (Char.ofNat ((lead.toNat - 0xc0) * 0x40 + low))
  else none

/-- The character of a sequence of three bytes. -/
def threeBytes? (lead next third : UInt8) : Option Char := do
  let middle ← continuation? next
  let low ← continuation? third
  let code := (lead.toNat - 0xe0) * 0x1000 + middle * 0x40 + low
  if 0xe0 ≤ lead.toNat ∧ lead.toNat < 0xf0 ∧ 0x800 ≤ code ∧ code.isValidChar then
    some (Char.ofNat code)
  else none

/-- The character of a sequence of four bytes. -/
def fourBytes? (lead next third fourth : UInt8) : Option Char := do
  let high ← continuation? next
  let middle ← continuation? third
  let low ← continuation? fourth
  let code := (lead.toNat - 0xf0) * 0x40000 + high * 0x1000 + middle * 0x40 + low
  if 0xf0 ≤ lead.toNat ∧ 0x10000 ≤ code ∧ code.isValidChar then
    some (Char.ofNat code)
  else none

/-- Decodes the bytes that follow `offset` others, or gives the place of the first ill-formed
sequence. -/
def decodeFrom (offset : Nat) : List UInt8 → Except Nat (List Char)
  | [] => .ok []
  | lead :: rest =>
      if lead.toNat < 0x80 then
        (decodeFrom (offset + 1) rest).map (Char.ofNat lead.toNat :: ·)
      else
        match rest with
        | [] => .error offset
        | next :: rest =>
            match twoBytes? lead next with
            | some char => (decodeFrom (offset + 2) rest).map (char :: ·)
            | none =>
                match rest with
                | [] => .error offset
                | third :: rest =>
                    match threeBytes? lead next third with
                    | some char => (decodeFrom (offset + 3) rest).map (char :: ·)
                    | none =>
                        match rest with
                        | [] => .error offset
                        | fourth :: rest =>
                            match fourBytes? lead next third fourth with
                            | some char => (decodeFrom (offset + 4) rest).map (char :: ·)
                            | none => .error offset

/-- Decodes all bytes, or gives the place of the first ill-formed sequence. -/
def decode (bytes : List UInt8) : Except Nat (List Char) :=
  decodeFrom 0 bytes

def byteOrderMark : List UInt8 := [0xef, 0xbb, 0xbf]

/-- The bytes after a leading byte-order mark, or all of them when there is none. -/
def dropMark (bytes : List UInt8) : List UInt8 :=
  if byteOrderMark.isPrefixOf bytes then bytes.drop byteOrderMark.length else bytes

end VersionCatalog.Text.Utf8
