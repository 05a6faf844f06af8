/-!
# UTF-8 — texts as bytes and back

`encode` writes each character as one to four bytes. `decode` accepts exactly what `encode`
produces: overlong forms, surrogates, code points past U+10FFFF and cut sequences are refused.
-/

namespace TableCompiler.Text.Utf8

/-- The bytes of a list of characters. -/
def encodeChars (cs : List Char) : List UInt8 :=
  cs.flatMap String.utf8EncodeChar

/-- The bytes of a text. -/
def encode (s : String) : List UInt8 :=
  encodeChars s.toList

/-- The six payload bits of a continuation byte. -/
def payload? (b : UInt8) : Option Nat :=
  if 0x80 ≤ b && b < 0xC0 then some (b.toNat - 0x80) else none

/-- A code point read from a sequence whose lead byte announces code points from `least` on. -/
def scalar? (least n : Nat) : Option Char :=
  if least ≤ n && (n < 0xD800 || (0xE000 ≤ n && n < 0x110000)) then some (Char.ofNat n) else none

/-- Reads characters until the bytes end; `none` if they are not UTF-8. -/
def decodeChars : List UInt8 → Option (List Char)
  | [] => some []
  | a :: rest =>
    if a < 0x80 then (decodeChars rest).map (Char.ofNat a.toNat :: ·)
    else if a < 0xC0 then none
    else match rest with
      | [] => none
      | b :: rest =>
        match payload? b with
        | none => none
        | some y =>
          if a < 0xE0 then
            match scalar? 0x80 ((a.toNat - 0xC0) * 64 + y) with
            | none => none
            | some c => (decodeChars rest).map (c :: ·)
          else match rest with
            | [] => none
            | d :: rest =>
              match payload? d with
              | none => none
              | some z =>
                if a < 0xF0 then
                  match scalar? 0x800 (((a.toNat - 0xE0) * 64 + y) * 64 + z) with
                  | none => none
                  | some c => (decodeChars rest).map (c :: ·)
                else if a < 0xF8 then
                  match rest with
                  | [] => none
                  | e :: rest =>
                    match payload? e with
                    | none => none
                    | some w =>
                      match scalar? 0x10000 ((((a.toNat - 0xF0) * 64 + y) * 64 + z) * 64 + w) with
                      | none => none
                      | some c => (decodeChars rest).map (c :: ·)
                else none

/-- The text that the bytes encode; `none` if they are not UTF-8. -/
def decode (bytes : List UInt8) : Option String :=
  (decodeChars bytes).map String.ofList

theorem encode_append (s t : String) : encode (s ++ t) = encode s ++ encode t := by
  simp [encode, encodeChars]

end TableCompiler.Text.Utf8
