/-!
Decoding UTF-8 with replacement: each well-formed sequence gives its character, and each
maximal part of a sequence that cannot be completed gives one replacement character, after
which decoding goes on with the byte that broke it.
-/

namespace ClassAtlas.Text

def replacementChar : Char := '�'

def inByteRange (lo hi : Nat) (b : UInt8) : Bool := lo ≤ b.toNat && b.toNat ≤ hi

/-- What a leading byte asks for: the number of continuation bytes (zero when it can lead no
sequence), the range allowed for the first of them, and the bits it contributes. -/
def leadOf (n : Nat) : Nat × Nat × Nat × Nat :=
  if 0xC2 ≤ n && n ≤ 0xDF then (1, 0x80, 0xBF, n &&& 0x1F)
  else if n = 0xE0 then (2, 0xA0, 0xBF, n &&& 0x0F)
  else if n = 0xED then (2, 0x80, 0x9F, n &&& 0x0F)
  else if 0xE1 ≤ n && n ≤ 0xEF then (2, 0x80, 0xBF, n &&& 0x0F)
  else if n = 0xF0 then (3, 0x90, 0xBF, n &&& 0x07)
  else if n = 0xF4 then (3, 0x80, 0x8F, n &&& 0x07)
  else if 0xF1 ≤ n && n ≤ 0xF3 then (3, 0x80, 0xBF, n &&& 0x07)
  else (0, 0, 0, 0)

/-- Reads `need` continuation bytes onto the bits `acc`, the first within `lo` to `hi` and the
others within 0x80 to 0xBF: the code point and the bytes after them, or, when the sequence
breaks, `none` and the bytes from the one that broke it. -/
def continueBytes : Nat → Nat → Nat → Nat → (bytes : List UInt8) →
    Option Nat × {l : List UInt8 // l.length ≤ bytes.length}
  | 0, _, _, acc, bytes => (some acc, ⟨bytes, Nat.le_refl _⟩)
  | _ + 1, _, _, _, [] => (none, ⟨[], Nat.le_refl _⟩)
  | need + 1, lo, hi, acc, c :: rest =>
    if inByteRange lo hi c then
      let (r, ⟨after, h⟩) := continueBytes need 0x80 0xBF (acc * 64 + (c.toNat &&& 0x3F)) rest
      (r, ⟨after, by simp only [List.length_cons]; omega⟩)
    else (none, ⟨c :: rest, Nat.le_refl _⟩)

/-- Decodes bytes with replacement. -/
def decodeBytes (bytes : List UInt8) : List Char :=
  match bytes with
  | [] => []
  | b :: rest =>
    let n := b.toNat
    if n < 0x80 then Char.ofNat n :: decodeBytes rest
    else
      let (need, lo, hi, bits) := leadOf n
      if need = 0 then replacementChar :: decodeBytes rest
      else
        match continueBytes need lo hi bits rest with
        | (some v, ⟨after, _⟩) => Char.ofNat v :: decodeBytes after
        | (none, ⟨after, _⟩) => replacementChar :: decodeBytes after
termination_by bytes.length
decreasing_by all_goals simp only [List.length_cons]; omega

def decodeUtf8 (bytes : ByteArray) : String := String.ofList (decodeBytes bytes.toList)

end ClassAtlas.Text
