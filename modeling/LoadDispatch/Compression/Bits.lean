/-!
# Reading bits

Compressed data is read bit by bit, the lowest bit of a byte first.  A reading goes on, or the bits
end before it does, or it meets a defect.
-/

namespace LoadDispatch.Compression

/-- What is wrong with compressed data. -/
inductive Defect where
  /-- The data does not begin as it should. -/
  | header
  /-- The method is unknown. -/
  | method
  /-- The window is too large. -/
  | window
  /-- A dictionary is needed. -/
  | dictionary
  /-- There are flags that nobody knows. -/
  | flags
  /-- The header has another checksum. -/
  | headerChecksum
  /-- The type of a block is unknown. -/
  | blockType
  /-- The two lengths of a stored block do not agree. -/
  | storedLengths
  /-- A block has more symbols than there are. -/
  | tooManySymbols
  /-- The lengths of the codes for lengths make no code. -/
  | codeLengths
  /-- A length is repeated that is not there, or too often. -/
  | lengthRepeat
  /-- The end of the block has no code. -/
  | noBlockEnd
  /-- The lengths of the codes for literals make no code. -/
  | literalLengths
  /-- The lengths of the codes for distances make no code. -/
  | distanceLengths
  /-- A code stands for no literal. -/
  | literalCode
  /-- A code stands for no distance. -/
  | distanceCode
  /-- A distance leads in front of the beginning. -/
  | tooFarBack
  /-- The data has another checksum. -/
  | checksum
  /-- The data has another length. -/
  | length
deriving DecidableEq, Repr

/-- What a reading of bits comes to. -/
inductive Progress (α : Type) where
  /-- A value, and the bits that are left. -/
  | got (value : α) (rest : List Bool)
  /-- The bits end too early. -/
  | cutOff
  /-- Something is wrong. -/
  | defect (d : Defect)

/-- A reading of bits. -/
def Bits (α : Type) : Type := List Bool → Progress α

namespace Bits

/-- A value that needs no bits. -/
def pure {α : Type} (a : α) : Bits α := fun bits => .got a bits

/-- One reading behind another. -/
def bind {α β : Type} (x : Bits α) (f : α → Bits β) : Bits β := fun bits =>
  match x bits with
  | .got a rest => f a rest
  | .cutOff => .cutOff
  | .defect d => .defect d

instance : Monad Bits where
  pure := pure
  bind := bind

/-- A defect. -/
def fail {α : Type} (d : Defect) : Bits α := fun _ => .defect d

/-- The number of bits that are left. -/
def left : Bits Nat := fun bits => .got bits.length bits

/-- The number that bits write, the lowest first. -/
def value : List Bool → Nat
  | [] => 0
  | b :: rest => b.toNat + 2 * value rest

/-- A number of so many bits. -/
def number (count : Nat) : Bits Nat := fun bits =>
  if bits.length < count then .cutOff else .got (value (bits.take count)) (bits.drop count)

/-- The bits of a byte. -/
def ofByte (b : UInt8) : List Bool :=
  (List.range 8).map fun i => b.toNat.testBit i

/-- The bits of bytes. -/
def ofBytes (bytes : List UInt8) : List Bool :=
  bytes.flatMap ofByte

/-- The whole bytes of bits. -/
def toBytes : List Bool → List UInt8
  | a :: b :: c :: d :: e :: f :: g :: h :: rest =>
    UInt8.ofNat (value [a, b, c, d, e, f, g, h]) :: toBytes rest
  | _ => []

/-- The bits behind those that complete a byte. -/
def align (bits : List Bool) : List Bool :=
  bits.drop (bits.length % 8)

end Bits

end LoadDispatch.Compression
