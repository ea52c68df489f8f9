import LoadDispatch.Http.Message

/-!
# Messages on the wire

A request as the bytes that are sent, and a response out of the bytes that come back until the
server closes the connection.  Every request asks the server to close, so the end of a response
without a length of its own is the end of the bytes.
-/

namespace LoadDispatch.Http.Wire

/-- A line with its end. -/
def line (s : String) : String :=
  s ++ "\r\n"

/-- Where a request goes on its server. -/
def requestTarget (u : Url) : String :=
  (if u.path = "" then "/" else u.path) ++
  match u.query with
  | some q => "?" ++ q
  | none => ""

/-- The host of a URL as a header names it. -/
def hostHeader (u : Url) : String :=
  ({ u with userinfo := "" } : Url).authority

/-- A request as it is sent. -/
def requestBytes (r : Request) : List UInt8 :=
  let body := Text.utf8Bytes (r.body.getD "")
  let head := line s!"{r.method} {requestTarget r.url} HTTP/1.1" ++
    line s!"Host: {hostHeader r.url}" ++ line "Accept: */*" ++ line "Accept-Encoding: identity" ++
    line "Connection: close" ++
    (match r.body with
    | some _ => line s!"Content-Length: {body.length}" ++ line "Content-Type: application/json"
    | none => "") ++ line ""
  head.toUTF8.toList ++ body

/-- Cuts bytes behind their first empty line: the head of a message, and the rest. -/
def cutHead : List UInt8 → Option (List UInt8 × List UInt8)
  | [] => none
  | b :: rest =>
    if [0x0D, 0x0A, 0x0D, 0x0A].isPrefixOf (b :: rest) then some ([], rest.drop 3)
    else (cutHead rest).map fun (head, body) => (b :: head, body)

/-- Cuts bytes behind their first line end. -/
def cutLine : List UInt8 → Option (List UInt8 × List UInt8)
  | [] => none
  | b :: rest =>
    if [0x0D, 0x0A].isPrefixOf (b :: rest) then some ([], rest.drop 1)
    else (cutLine rest).map fun (text, behind) => (b :: text, behind)

/-- A header line as a name and a value. -/
def header? (text : List Char) : Option (String × String) :=
  let name := text.takeWhile (· != ':')
  match text.drop name.length with
  | _ :: value =>
    some (String.ofList name, String.ofList (Text.stripWhile Text.isBlank value))
  | [] => none

/-- The status code in the first line of a response. -/
def statusCode? (first : List Char) : Option Nat :=
  match List.splitOn ' ' first with
  | version :: code :: _ =>
    if "HTTP/".toList.isPrefixOf version ∧ code.length = 3 ∧ code.all Char.isDigit then
      some (Text.decimalValue code)
    else none
  | _ => none

/-- The number that hexadecimal digits write, up to the first other character. -/
def hexNumber (cs : List Char) : Nat :=
  ((cs.takeWhile Url.isHexDigit).filterMap Text.hexValue?).foldl (fun n d => 16 * n + d) 0

/-- The text of bytes, each a character. -/
def latinChars (bytes : List UInt8) : List Char :=
  bytes.map fun b => Char.ofNat b.toNat

/-- The body of a message that is sent in chunks, each behind a line with its size.  The fuel is
the number of bytes. -/
def chunks? : Nat → List UInt8 → Option (List UInt8)
  | 0, _ => none
  | fuel + 1, bytes =>
    (cutLine bytes).bind fun (first, rest) =>
      let size := hexNumber (latinChars first)
      if size = 0 then some []
      else if rest.length < size + 2 then none
      else (chunks? fuel (rest.drop (size + 2))).map (rest.take size ++ ·)

/-- The body of a response, by what its headers say of it. -/
def body? (response : Response) (bytes : List UInt8) : Option (List UInt8) :=
  if (response.header? "transfer-encoding").any (·.toLower == "chunked") then
    chunks? (bytes.length + 1) bytes
  else
    match (response.header? "content-length").bind String.toNat? with
    | some n => if bytes.length < n then none else some (bytes.take n)
    | none => some bytes

/-- The response that bytes write, if they write one in full. -/
def response? (bytes : List UInt8) : Option Response := do
  let (head, rest) ← cutHead bytes
  let lines := (List.splitOn '\n' (latinChars head)).map fun cs =>
    if cs.getLast? = some '\r' then cs.dropLast else cs
  let first ← lines.head?
  let code ← statusCode? first
  let response : Response :=
    { code, headers := (lines.drop 1).filterMap header?, room := .usual }
  let body ← body? response rest
  pure { response with body }

end LoadDispatch.Http.Wire
