/-!
# Checksums

Two numbers of 32 bits that tell whether bytes have changed.  `crc32` is the remainder of a division
of polynomials; `adler32` is the sum of the bytes beside the sum of those sums.
-/

namespace LoadDispatch.Compression

/-- The divisor of `crc32`, the highest power in the lowest bit. -/
def crcDivisor : UInt32 := 0xEDB88320

/-- Divides by one bit more. -/
def crcStep (r : UInt32) : UInt32 :=
  if r &&& 1 = 1 then (r >>> 1) ^^^ crcDivisor else r >>> 1

/-- Takes one byte more. -/
def crcByte (r : UInt32) (b : UInt8) : UInt32 :=
  Nat.repeat crcStep 8 (r ^^^ b.toUInt32)

/-- The remainder of bytes. -/
def crc32 (bytes : List UInt8) : UInt32 :=
  bytes.foldl crcByte 0xFFFFFFFF ^^^ 0xFFFFFFFF

/-- What the sums are counted modulo. -/
def adlerModulus : Nat := 65521

/-- The sum of bytes, and the sum of the sums. -/
def adlerSums (bytes : List UInt8) : Nat × Nat :=
  bytes.foldl
    (fun (low, high) b =>
      let low := (low + b.toNat) % adlerModulus
      (low, (high + low) % adlerModulus))
    (1, 0)

/-- The sums of bytes in one number. -/
def adler32 (bytes : List UInt8) : Nat :=
  let (low, high) := adlerSums bytes
  high * 65536 + low

end LoadDispatch.Compression
