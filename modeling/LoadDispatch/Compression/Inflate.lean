import LoadDispatch.Compression.Huffman

/-!
# Inflating

Deflated data is a sequence of blocks.  A block holds bytes as they are, or symbols in a code that
is fixed or comes in front of them.  A symbol is a byte, the end of the block, or the length of a
piece that was there before, with its distance behind it.

The data may be cut off anywhere.  What is complete up to there is inflated, and it is no defect.
-/

namespace LoadDispatch.Compression

/-- How far data is inflated. -/
inductive Inflated where
  /-- To an end, with the bits behind it. -/
  | upTo (out : Array UInt8) (rest : List Bool)
  /-- The data is cut off. -/
  | cutOff (out : Array UInt8)
  /-- Something is wrong. -/
  | defect (d : Defect)

/-! ## Lengths and distances -/

/-- The bases of lengths and the bits that are added to each. -/
def lengthBases : List (Nat × Nat) := [
  (3, 0), (4, 0), (5, 0), (6, 0), (7, 0), (8, 0), (9, 0), (10, 0), (11, 1), (13, 1), (15, 1),
  (17, 1), (19, 2), (23, 2), (27, 2), (31, 2), (35, 3), (43, 3), (51, 3), (59, 3), (67, 4), (83, 4),
  (99, 4), (115, 4), (131, 5), (163, 5), (195, 5), (227, 5), (258, 0)]

/-- The bases of distances and the bits that are added to each. -/
def distanceBases : List (Nat × Nat) := [
  (1, 0), (2, 0), (3, 0), (4, 0), (5, 1), (7, 1), (9, 2), (13, 2), (17, 3), (25, 3), (33, 4),
  (49, 4), (65, 5), (97, 5), (129, 6), (193, 6), (257, 7), (385, 7), (513, 8), (769, 8), (1025, 9),
  (1537, 9), (2049, 10), (3073, 10), (4097, 11), (6145, 11), (8193, 12), (12289, 12), (16385, 13),
  (24577, 13)]

/-- A base and what is added to it. -/
def based (base : Nat × Nat) : Bits Nat := do
  pure (base.1 + (← Bits.number base.2))

/-- The length and the distance of a piece, behind the symbol of the length. -/
def piece (distances : Code) (symbol : Nat) : Bits (Nat × Nat) :=
  match lengthBases[symbol]? with
  | none => Bits.fail .literalCode
  | some base => do
    let length ← based base
    let symbol ← distances.read
    match symbol.bind (distanceBases[·]?) with
    | none => Bits.fail .distanceCode
    | some base => pure (length, ← based base)

/-- Copies bytes from a distance, one by one, so that a piece may reach into itself. -/
def copy (distance : Nat) : Nat → Array UInt8 → Array UInt8
  | 0, out => out
  | n + 1, out => copy distance n (out.push (out.getD (out.size - distance) 0))

/-- The symbol that ends a block. -/
def blockEnd : Nat := 256

/-- Inflates the symbols of a block.  The fuel is the number of bits. -/
def inflateSymbols (literals distances : Code) : Nat → Array UInt8 → List Bool → Inflated
  | 0, out, _ => .cutOff out
  | fuel + 1, out, bits =>
    match literals.read bits with
    | .cutOff => .cutOff out
    | .defect d => .defect d
    | .got none _ => .defect .literalCode
    | .got (some symbol) rest =>
      if symbol < blockEnd then
        inflateSymbols literals distances fuel (out.push (UInt8.ofNat symbol)) rest
      else if symbol = blockEnd then .upTo out rest
      else
        match piece distances (symbol - blockEnd - 1) rest with
        | .cutOff => .cutOff out
        | .defect d => .defect d
        | .got (length, distance) rest =>
          if out.size < distance then .defect .tooFarBack
          else inflateSymbols literals distances fuel (copy distance length out) rest

/-! ## Codes -/

/-- The lengths of the fixed code for literals. -/
def fixedLengths : List Nat :=
  List.replicate 144 8 ++ List.replicate 112 9 ++ List.replicate 24 7 ++ List.replicate 8 8

/-- The fixed code for literals. -/
def fixedLiterals : Code :=
  (Code.ofLengths? false fixedLengths).getD ⟨[], #[]⟩

/-- The fixed code for distances. -/
def fixedDistances : Code :=
  (Code.ofLengths? false (List.replicate 32 5)).getD ⟨[], #[]⟩

/-- The order in which the lengths of the code for lengths are sent. -/
def lengthOrder : List Nat :=
  [16, 17, 18, 0, 8, 7, 9, 6, 10, 5, 11, 4, 12, 3, 13, 2, 14, 1, 15]

/-- Numbers of three bits. -/
def smallNumbers : Nat → Bits (List Nat)
  | 0 => pure []
  | n + 1 => do
    let first ← Bits.number 3
    pure (first :: (← smallNumbers n))

/-- The length that is repeated and how often, for a symbol that repeats. -/
def repetition (before : List Nat) (symbol : Nat) : Bits (Nat × Nat) :=
  if symbol = 16 then do
    let times ← Bits.number 2
    match before with
    | [] => Bits.fail .lengthRepeat
    | last :: _ => pure (last, 3 + times)
  else if symbol = 17 then do pure (0, 3 + (← Bits.number 3))
  else do pure (0, 11 + (← Bits.number 7))

/-- So many lengths, behind others in reverse order.  The fuel is the number of lengths. -/
def readLengths (code : Code) (total : Nat) : Nat → List Nat → Bits (List Nat)
  | 0, done => pure done.reverse
  | fuel + 1, done =>
    if total ≤ done.length then pure done.reverse
    else do
      -- a code without symbols stands for the length 0
      let symbol := (← code.read).getD 0
      if symbol < 16 then readLengths code total fuel (symbol :: done)
      else
        let (length, times) ← repetition done symbol
        if total < done.length + times then Bits.fail .lengthRepeat
        else readLengths code total fuel (List.replicate times length ++ done)

/-- The codes in front of a block. -/
def blockCodes : Bits (Code × Code) := do
  let sizes ← Bits.number 14
  let literals := sizes % 32 + 257
  let distances := sizes / 32 % 32 + 1
  if 286 < literals ∨ 30 < distances then Bits.fail .tooManySymbols
  else
    let sent ← smallNumbers (sizes / 1024 + 4)
    let lengths := (List.range 19).map fun i => ((lengthOrder.zip sent).lookup i).getD 0
    match Code.ofLengths? false lengths with
    | none => Bits.fail .codeLengths
    | some code =>
      let all ← readLengths code (literals + distances) (literals + distances) []
      if all.getD blockEnd 0 = 0 then Bits.fail .noBlockEnd
      else
        match Code.ofLengths? true (all.take literals) with
        | none => Bits.fail .literalLengths
        | some literalCode =>
          match Code.ofLengths? true (all.drop literals) with
          | none => Bits.fail .distanceLengths
          | some distanceCode => pure (literalCode, distanceCode)

/-! ## Blocks -/

/-- Takes the bytes of a stored block. -/
def inflateStored (out : Array UInt8) (bits : List Bool) : Inflated :=
  match Bits.number 32 (Bits.align bits) with
  | .cutOff => .cutOff out
  | .defect d => .defect d
  | .got lengths rest =>
    let length := lengths % 65536
    if length + lengths / 65536 ≠ 65535 then .defect .storedLengths
    else
      let taken := out ++ (Bits.toBytes (rest.take (8 * length))).toArray
      if rest.length < 8 * length then .cutOff taken else .upTo taken (rest.drop (8 * length))

/-- Inflates a block of a type. -/
def inflateBlock (type : Nat) (out : Array UInt8) (bits : List Bool) : Inflated :=
  if type = 0 then inflateStored out bits
  else if type = 1 then inflateSymbols fixedLiterals fixedDistances (bits.length + 1) out bits
  else if type = 2 then
    match blockCodes bits with
    | .cutOff => .cutOff out
    | .defect d => .defect d
    | .got (literals, distances) rest =>
      inflateSymbols literals distances (rest.length + 1) out rest
  else .defect .blockType

/-- Inflates blocks up to the last one.  The fuel is the number of bits. -/
def inflateBlocks : Nat → Array UInt8 → List Bool → Inflated
  | 0, out, _ => .cutOff out
  | fuel + 1, out, bits =>
    match Bits.number 3 bits with
    | .cutOff => .cutOff out
    | .defect d => .defect d
    | .got head rest =>
      match inflateBlock (head / 2) out rest with
      | .upTo out rest => if head % 2 = 1 then .upTo out rest else inflateBlocks fuel out rest
      | ending => ending

/-- Inflates data. -/
def inflate (bits : List Bool) : Inflated :=
  inflateBlocks (bits.length + 1) #[] bits

end LoadDispatch.Compression
