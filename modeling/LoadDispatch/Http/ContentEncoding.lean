import LoadDispatch.Compression.Format
import LoadDispatch.Text.Blank

/-!
# Content encodings

A body may be sent compressed, even more than once; a header lists how, in the order in which it was
done.  Encodings that nobody knows are passed over.

Servers do not agree on what `deflate` means, so data that is no `zlib` stream is taken for bare
deflated data.
-/

namespace LoadDispatch.Http

/-- The encodings of a body. -/
inductive ContentEncoding where
  | identity | gzip | deflate
deriving DecidableEq, Repr

namespace ContentEncoding

/-- The encoding of a name, if it is known. -/
def ofName? (name : String) : Option ContentEncoding :=
  [("identity", .identity), ("gzip", .gzip), ("deflate", .deflate)].lookup name

/-- The known encodings that a header lists. -/
def ofHeader (value : String) : List ContentEncoding :=
  (List.splitOn ',' value.toList).filterMap fun piece =>
    ofName? (String.ofList ((Text.stripWhile Text.isBlank piece).map Char.toLower))

/-- The bytes that were encoded. -/
def decode (bytes : List UInt8) :
    ContentEncoding → Except Compression.Defect (List UInt8)
  | .identity => .ok bytes
  | .gzip => Compression.Format.gzip.expand bytes
  | .deflate =>
    match Compression.Format.zlib.expand bytes with
    | .ok decoded => .ok decoded
    | .error _ => Compression.Format.bare.expand bytes

/-- The bytes that were encoded by one encoding after the other; the last one is undone first. -/
def decodeAll (encodings : List ContentEncoding) (bytes : List UInt8) :
    Except Compression.Defect (List UInt8) :=
  encodings.foldr (fun e decoded => decoded.bind fun bytes => e.decode bytes) (.ok bytes)

end ContentEncoding

end LoadDispatch.Http
