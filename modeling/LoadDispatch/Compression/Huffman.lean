import LoadDispatch.Compression.Bits

/-!
# Codes of different lengths

A code gives every symbol a sequence of bits, a frequent one a short one, such that no sequence
begins with another.  It is told by the lengths alone: the sequences of one length are numbers in a
row, in the order of the symbols, behind those of the lengths before.
-/

namespace LoadDispatch.Compression

/-- A code. -/
structure Code where
  /-- The number of symbols of each length, from 1 on. -/
  counts : List Nat
  /-- The symbols, by length. -/
  symbols : Array Nat

namespace Code

/-- The greatest length. -/
def longest : Nat := 15

/-- The symbols with a length, in order. -/
def symbolsOf (lengths : List Nat) (length : Nat) : List Nat :=
  (lengths.zipIdx.filter fun (l, _) => l == length).map (·.2)

/-- The sequences that are left of one length when those of smaller lengths are given out; `none` if
there are fewer than are needed. -/
def room? : List Nat → Option Nat :=
  List.foldl (fun left count =>
    left.bind fun n => if 2 * n < count then none else some (2 * n - count))
    (some 1)

/-- The code of some lengths, 0 for a symbol without a sequence, if it is one.  A code has to use
all sequences.  A code of a single bit may leave out one of them where `loose` is set, and a code
without symbols is one. -/
def ofLengths? (loose : Bool) (lengths : List Nat) : Option Code :=
  let greatest := lengths.foldl max 0
  let groups := (List.range (max 1 greatest)).map fun i => symbolsOf lengths (i + 1)
  let counts := groups.map List.length
  let code : Code := { counts, symbols := groups.flatten.toArray }
  if greatest = 0 then some code
  else
    match room? counts with
    | some 0 => some code
    | some _ => if loose ∧ greatest = 1 then some code else none
    | none => none

/-- Walks along a sequence, behind the bits `code`, of which the symbols of smaller lengths end at
`first`, and are `index` in number.  The answer is no symbol if there is none of the sequence. -/
def walk (symbols : Array Nat) : List Nat → Nat → Nat → Nat → Bits (Option Nat)
  | [], _, _, _, bits => .got none bits
  | _ :: _, _, _, _, [] => .cutOff
  | count :: counts, code, first, index, b :: rest =>
    let code := 2 * code + b.toNat
    if code < first + count then .got symbols[index + (code - first)]? rest
    else walk symbols counts code (2 * (first + count)) (index + count) rest

/-- The symbol of the sequence in front. -/
def read (c : Code) : Bits (Option Nat) :=
  walk c.symbols c.counts 0 0 0

end Code

end LoadDispatch.Compression
