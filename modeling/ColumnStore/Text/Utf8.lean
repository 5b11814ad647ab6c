/-!
# Bytes as text

Text is stored as UTF-8. `Utf8.decode` reads bytes back as characters and refuses bytes that are
not the shortest form of any character; it then tells how many bytes in front form characters.
-/

set_option autoImplicit false

namespace ColumnStore

namespace Utf8

/-- A character of which some bytes have been read. -/
structure Pending where
  /-- The bits read so far. -/
  code : Nat
  /-- How many bytes are still missing. -/
  missing : Nat
  /-- The range in which the next byte must lie. -/
  low : UInt8
  high : UInt8

/-- What a first byte opens: a character of several bytes. The ranges of the second byte leave out
forms that are too long, surrogates and numbers above the last character. -/
def opens (byte : UInt8) : Option Pending :=
  if 0xC2 ≤ byte ∧ byte ≤ 0xDF then some ⟨byte.toNat - 0xC0, 1, 0x80, 0xBF⟩
  else if byte = 0xE0 then some ⟨0, 2, 0xA0, 0xBF⟩
  else if byte = 0xED then some ⟨0xD, 2, 0x80, 0x9F⟩
  else if 0xE1 ≤ byte ∧ byte ≤ 0xEF then some ⟨byte.toNat - 0xE0, 2, 0x80, 0xBF⟩
  else if byte = 0xF0 then some ⟨0, 3, 0x90, 0xBF⟩
  else if 0xF1 ≤ byte ∧ byte ≤ 0xF3 then some ⟨byte.toNat - 0xF0, 3, 0x80, 0xBF⟩
  else if byte = 0xF4 then some ⟨4, 3, 0x80, 0x8F⟩
  else none

/-- Reads on, with the count of bytes in front of the current character, the part of it that has
been read, and the characters so far, last one first. -/
def decodeFrom (valid : Nat) (pending : Option Pending) (read : List Char) :
    List UInt8 → Except Nat (List Char)
  | [] =>
    match pending with
    | none => .ok read.reverse
    | some _ => .error valid
  | byte :: rest =>
    match pending with
    | none =>
      if byte < 0x80 then decodeFrom (valid + 1) none (Char.ofNat byte.toNat :: read) rest
      else
        match opens byte with
        | none => .error valid
        | some pending => decodeFrom valid (some pending) read rest
    | some pending =>
      if pending.low ≤ byte ∧ byte ≤ pending.high then
        let code := pending.code * 64 + (byte.toNat - 0x80)
        if pending.missing ≤ 1 then
          let c := Char.ofNat code
          decodeFrom (valid + c.utf8Size) none (c :: read) rest
        else decodeFrom valid (some ⟨code, pending.missing - 1, 0x80, 0xBF⟩) read rest
      else .error valid

/-- The text of bytes, or how many bytes in front form characters. -/
def decode (bytes : List UInt8) : Except Nat String :=
  (decodeFrom 0 none [] bytes).map String.ofList

end Utf8

end ColumnStore
