/-
UTF-8, as far as reading files needs it: `encode` writes a text as bytes and `decode?` reads bytes
strictly. Overlong forms, surrogates and values beyond U+10FFFF are refused.
-/
import CrawlFilter.Text

namespace CrawlFilter

/-- the content of a file or stream -/
abbrev Bytes := List UInt8

namespace Utf8

def encode (t : Text) : Bytes :=
  t.flatMap String.utf8EncodeChar

/-- the six bits that a continuation byte carries -/
def tail? (b : UInt8) : Option Nat :=
  if 0x80 ≤ b.toNat ∧ b.toNat < 0xC0 then some (b.toNat - 0x80) else none

/-- the code point with this number, if it is at least `least` and not a surrogate -/
def scalar? (least n : Nat) : Option Char :=
  if least ≤ n ∧ n.isValidChar then some (Char.ofNat n) else none

def two? (a b : UInt8) : Option Char := do
  let x ← tail? b
  if 0xC0 ≤ a.toNat ∧ a.toNat < 0xE0 then scalar? 0x80 ((a.toNat - 0xC0) * 64 + x) else none

def three? (a b c : UInt8) : Option Char := do
  let x ← tail? b
  let y ← tail? c
  if 0xE0 ≤ a.toNat ∧ a.toNat < 0xF0 then scalar? 0x800 (((a.toNat - 0xE0) * 64 + x) * 64 + y) else none

def four? (a b c d : UInt8) : Option Char := do
  let x ← tail? b
  let y ← tail? c
  let z ← tail? d
  if 0xF0 ≤ a.toNat ∧ a.toNat < 0xF8 then
    scalar? 0x10000 ((((a.toNat - 0xF0) * 64 + x) * 64 + y) * 64 + z)
  else none

/-- The text that the bytes encode; `none` if they are not UTF-8. The first byte of a character
fixes how many follow, so at most one of the forms fits. -/
def decode? : Bytes → Option Text
  | [] => some []
  | a :: rest =>
    if a.toNat < 0x80 then (decode? rest).map (Char.ofNat a.toNat :: ·)
    else match rest with
      | [] => none
      | b :: rest =>
        match two? a b with
        | some ch => (decode? rest).map (ch :: ·)
        | none => match rest with
          | [] => none
          | c :: rest =>
            match three? a b c with
            | some ch => (decode? rest).map (ch :: ·)
            | none => match rest with
              | [] => none
              | d :: rest =>
                match four? a b c d with
                | some ch => (decode? rest).map (ch :: ·)
                | none => none

end Utf8

end CrawlFilter
