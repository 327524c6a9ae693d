import FieldInjection.Text.Basic

/-!
# UTF-8

Reading bytes as text.  A character takes one to four bytes; overlong forms, surrogates and code
points past the last one are not text.

## Main Definitions

* `decodeUtf8?`: the text that some bytes are the UTF-8 form of.
-/

namespace FieldInjection

/-- Whether a byte continues a character. -/
def isContinuation (byte : UInt8) : Bool :=
  0x80 ≤ byte.toNat && byte.toNat ≤ 0xBF

/-- The six bits of a byte that continues a character. -/
def continuationBits (byte : UInt8) : Nat :=
  byte.toNat - 0x80

/-- Whether a code point may be written with `length` bytes. -/
def isEncodable (length code : Nat) : Bool :=
  match length with
  | 2 => 0x80 ≤ code
  | 3 => 0x800 ≤ code && !(0xD800 ≤ code && code ≤ 0xDFFF)
  | _ => 0x10000 ≤ code && code ≤ 0x10FFFF

/-- The text that some bytes are the UTF-8 form of. -/
def decodeUtf8? : List UInt8 → Option Text
  | [] => some []
  | a :: rest =>
    if a.toNat < 0x80 then (decodeUtf8? rest).map (Char.ofNat a.toNat :: ·)
    else
      match rest with
      | [] => none
      | b :: afterTwo =>
        if !isContinuation b then none
        else if 0xC0 ≤ a.toNat && a.toNat < 0xE0 then
          let code := (a.toNat - 0xC0) * 0x40 + continuationBits b
          if isEncodable 2 code then (decodeUtf8? afterTwo).map (Char.ofNat code :: ·) else none
        else
          match afterTwo with
          | [] => none
          | c :: afterThree =>
            if !isContinuation c then none
            else if 0xE0 ≤ a.toNat && a.toNat < 0xF0 then
              let code := (a.toNat - 0xE0) * 0x1000 + continuationBits b * 0x40 + continuationBits c
              if isEncodable 3 code then (decodeUtf8? afterThree).map (Char.ofNat code :: ·)
              else none
            else
              match afterThree with
              | [] => none
              | d :: afterFour =>
                if isContinuation d && 0xF0 ≤ a.toNat && a.toNat < 0xF8 then
                  let code := (a.toNat - 0xF0) * 0x40000 + continuationBits b * 0x1000 +
                    continuationBits c * 0x40 + continuationBits d
                  if isEncodable 4 code then (decodeUtf8? afterFour).map (Char.ofNat code :: ·)
                  else none
                else none

end FieldInjection
