import LoadDispatch.Compression.Checksum
import LoadDispatch.Compression.Inflate

/-!
# Formats of compressed data

Deflated data comes bare, or in one of two formats with a header in front and a checksum behind: the
one of `zlib` streams and the one of `gzip` files.  Data that is cut off is inflated as far as it
goes, and what stands behind the end is left out.
-/

namespace LoadDispatch.Compression

/-- The formats. -/
inductive Format where
  | bare | zlib | gzip
deriving DecidableEq, Repr

/-- Reads the header of a `zlib` stream. -/
def zlibHeader : Bits Unit := do
  let head ← Bits.number 16
  let low := head % 256
  if (low * 256 + head / 256) % 31 ≠ 0 then Bits.fail .header
  else if low % 16 ≠ 8 then Bits.fail .method
  else if 7 < low / 16 then Bits.fail .window
  else if (head / 256).testBit 5 then do
    let _ ← Bits.number 32
    Bits.fail .dictionary
  else pure ()

/-- Passes over bytes up to a zero.  The fuel is the number of bytes. -/
def skipText : Nat → Bits Unit
  | 0 => pure ()
  | fuel + 1 => do if (← Bits.number 8) = 0 then pure () else skipText fuel

/-- Reads the header of a `gzip` file. -/
def gzipHeader (bytes : List UInt8) : Bits Unit := do
  if (← Bits.number 16) ≠ 0x8B1F then Bits.fail .header
  else
    let kind ← Bits.number 16
    let flags := kind / 256
    if kind % 256 ≠ 8 then Bits.fail .method
    else if 32 ≤ flags then Bits.fail .flags
    else do
      let _ ← Bits.number 48
      if flags.testBit 2 then
        let length ← Bits.number 16
        let _ ← Bits.number (8 * length)
      if flags.testBit 3 then skipText bytes.length
      if flags.testBit 4 then skipText bytes.length
      if flags.testBit 1 then
        let passed := bytes.length - (← Bits.left) / 8
        let sum ← Bits.number 16
        if sum ≠ (crc32 (bytes.take passed)).toNat % 65536 then Bits.fail .headerChecksum

/-- Reads the header of a format. -/
def Format.header (bytes : List UInt8) : Format → Bits Unit
  | .bare => pure ()
  | .zlib => zlibHeader
  | .gzip => gzipHeader bytes

/-- A number of 32 bits with its bytes in the other order. -/
def swapped (n : Nat) : Nat :=
  ((n % 256 * 256 + n / 256 % 256) * 256 + n / 65536 % 256) * 256 + n / 16777216

/-- Reads what stands behind the data, and refuses it if it does not fit. -/
def Format.trailer (out : List UInt8) : Format → Bits Unit
  | .bare => pure ()
  | .zlib => do
    if swapped (← Bits.number 32) ≠ adler32 out then Bits.fail .checksum
  | .gzip => do
    if (← Bits.number 32) ≠ (crc32 out).toNat then Bits.fail .checksum
    else if (← Bits.number 32) ≠ out.length % Nat.pow 2 32 then Bits.fail .length

/-- The bytes that data of a format stands for, as far as it goes. -/
def Format.expand (f : Format) (bytes : List UInt8) : Except Defect (List UInt8) :=
  match f.header bytes (Bits.ofBytes bytes) with
  | .cutOff => .ok []
  | .defect d => .error d
  | .got () rest =>
    match inflate rest with
    | .cutOff out => .ok out.toList
    | .defect d => .error d
    | .upTo out rest =>
      match f.trailer out.toList (Bits.align rest) with
      | .defect d => .error d
      | _ => .ok out.toList

end LoadDispatch.Compression
