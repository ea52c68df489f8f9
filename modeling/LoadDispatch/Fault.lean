import LoadDispatch.Compression.Bits
import LoadDispatch.Schema.Report
import LoadDispatch.Text.Charset.Reading
import LoadDispatch.Text.Unencodable
import LoadDispatch.Url.Basic

/-!
# Faults

What goes wrong in an operation is a `Fault`, and a fault is a cause: the constructors say what went
wrong, with the data a reader of the message needs.  An operation may also be ended from outside, by
cancelling it or by interrupting the program; nothing here handles that or is about it, and it is no
fault.  Two functions interpret a fault.

* `Fault.kind` is the family under which it is reported.  Only one family is ever absorbed, the
  faults of the job service (`FaultKind.jobService`): a submission or a status query that fails
  with one of them counts as a failed job.  All others end the operation.
* `Fault.message` is its text.

Faults that come from outside, from a connection or a service that is not part of this library,
are kept as they are: a kind and a text (`Fault.outside`).
-/

namespace LoadDispatch

/-- What can go wrong with a connection. -/
inductive TransportFault where
  | connect | connectTimeout | readTimeout | writeTimeout | poolTimeout
  | read | write | close | remoteProtocol | localProtocol | unsupportedProtocol
  | proxy | decoding | tooManyRedirects
deriving DecidableEq, Repr

/-- The name of a transport fault. -/
def TransportFault.label : TransportFault → String
  | .connect => "ConnectError"
  | .connectTimeout => "ConnectTimeout"
  | .readTimeout => "ReadTimeout"
  | .writeTimeout => "WriteTimeout"
  | .poolTimeout => "PoolTimeout"
  | .read => "ReadError"
  | .write => "WriteError"
  | .close => "CloseError"
  | .remoteProtocol => "RemoteProtocolError"
  | .localProtocol => "LocalProtocolError"
  | .unsupportedProtocol => "UnsupportedProtocol"
  | .proxy => "ProxyError"
  | .decoding => "DecodingError"
  | .tooManyRedirects => "TooManyRedirects"

/-- The families of faults. -/
inductive FaultKind where
  /-- A load that cannot be done. -/
  | load
  /-- File metadata that cannot be had. -/
  | metadata
  /-- A path that may not be read. -/
  | permission
  /-- A path that does not exist. -/
  | pathNotFound
  /-- A job status that nobody knows. -/
  | unexpectedStatus
  /-- A call to the job service that failed. -/
  | jobService
  /-- An operation that is not possible in the present state. -/
  | runtime
  /-- A value that is not admitted. -/
  | value
  /-- A look-up without result. -/
  | lookup
  /-- A fault of the operating system. -/
  | system
  /-- A request that got no response. -/
  | transport (fault : TransportFault)
  /-- A text that is no URL. -/
  | url
  /-- A name of a host that breaks a rule for names. -/
  | name
  /-- A name of a host with a character that no name has. -/
  | nameCode
  /-- A name of a host with a character beside the wrong ones. -/
  | nameContext
  /-- A name of a host whose directions do not go together. -/
  | nameDirection
  /-- Bytes without a text. -/
  | undecodable
  /-- A byte that the encoding of a text has no place for. -/
  | byteOutOfRange
  /-- A text without bytes. -/
  | unencodable
  /-- A value of the wrong kind. -/
  | mismatch
  /-- A condition that does not hold. -/
  | assertion
  /-- A value that is nested too deep. -/
  | depth
  /-- A value that its schema refuses. -/
  | validation
deriving DecidableEq, Repr

/-- The name under which a family is reported. -/
def FaultKind.label : FaultKind → String
  | .load => "DistributedLoadError"
  | .metadata => "FileSystemMetadataError"
  | .permission => "FileSystemPermissionError"
  | .pathNotFound => "PathNotFoundError"
  | .unexpectedStatus => "UnexpectedJobStatusError"
  | .jobService => "JobServiceClientError"
  | .runtime => "RuntimeError"
  | .value => "ValueError"
  | .lookup => "LookupError"
  | .system => "OSError"
  | .transport fault => fault.label
  | .url => "InvalidURL"
  | .name => "IDNAError"
  | .nameCode => "InvalidCodepoint"
  | .nameContext => "InvalidCodepointContext"
  | .nameDirection => "IDNABidiError"
  | .undecodable => "UnicodeError"
  | .byteOutOfRange => "UnicodeDecodeError"
  | .unencodable => "UnicodeEncodeError"
  | .mismatch => "TypeError"
  | .assertion => "AssertionError"
  | .depth => "RecursionError"
  | .validation => "ValidationError"

/-- All transport faults. -/
def TransportFault.all : List TransportFault :=
  [.connect, .connectTimeout, .readTimeout, .writeTimeout, .poolTimeout, .read, .write, .close,
    .remoteProtocol, .localProtocol, .unsupportedProtocol, .proxy, .decoding, .tooManyRedirects]

/-- The families that a fault from outside may belong to. -/
def FaultKind.all : List FaultKind :=
  [.load, .metadata, .permission, .pathNotFound, .unexpectedStatus, .jobService, .runtime, .value,
    .lookup, .system, .url, .undecodable, .validation] ++ TransportFault.all.map .transport

/-- The family of a fault from outside, by its name. -/
def FaultKind.ofLabel? (label : String) : Option FaultKind :=
  FaultKind.all.find? (·.label == label)

/-- The faults that a load reports as its own: those of the load, of the file metadata and of the
job service.  The command line prints them; all others are defects and are not caught. -/
def FaultKind.isReported : FaultKind → Bool
  | .load | .metadata | .permission | .pathNotFound | .unexpectedStatus | .jobService => true
  | _ => false

/-- A request, as a message names it. -/
structure RequestLine where
  /-- The method, in upper case. -/
  method : String
  /-- The URL. -/
  url : String
deriving DecidableEq, Repr

/-- Why something failed. -/
inductive Fault where
  /-- A fault from outside, with its own text. -/
  | outside (kind : FaultKind) (text : String)
  /-- A retry budget needs at least one attempt. -/
  | noAttempts
  /-- A pool needs room for at least one attempt. -/
  | noCapacity
  /-- A load needs at least one replica. -/
  | noReplication
  /-- Nothing is in flight, so no slot will become free. -/
  | nothingInFlight
  /-- The session of the attempt is closed. -/
  | attemptReleased (path : String)
  /-- The job service sent a status that is none of its words. -/
  | unreadableStatus (text : String)
  /-- A status reached the pool that the pool has no rule for. -/
  | unhandledStatus (text : String)
  /-- An endpoint is blank. -/
  | emptyEndpoint (name : String) (kind : FaultKind)
  /-- A request on a closed client. -/
  | clientClosed
  /-- A text is no URL. -/
  | url (refusal : Url.Refusal)
  /-- The host of a URL has no name. -/
  | hostName (fault : Url.NameFault)
  /-- A response sends the client on to what is no URL. -/
  | badLocation (refusal : Url.Refusal)
  /-- The body of a response has no text in its encoding. -/
  | unreadable (why : Text.Charset.Unreadable)
  /-- The body of a response cannot be expanded. -/
  | compressed (defect : Compression.Defect)
  /-- The segments of a parameter have no order; the later one has no number, or the one before. -/
  | unordered (laterIsBare : Bool)
  /-- A text has no bytes in an encoding. -/
  | unencodable (text : Text.Unencodable)
  /-- A JSON text is nested too deep, in an object or in an array. -/
  | tooDeep (inObject : Bool)
  /-- A response to a URL without scheme. -/
  | urlType (url : String)
  /-- A value was refused by its schema. -/
  | refused (report : Schema.Report)
  /-- The request to the job service got no response. -/
  | jobRequest (request : RequestLine) (reason : String)
  /-- The job service answered with a failure. -/
  | jobResponse (request : RequestLine) (code : Nat) (detail : String)
  /-- The body of the job service's answer is no JSON. -/
  | jobBody (request : RequestLine)
  /-- The body of the job service's answer is no JSON object. -/
  | jobBodyKind (request : RequestLine)
  /-- The answer to a submission does not fit. -/
  | jobSubmission (report : Schema.Report)
  /-- The answer to a status query does not fit. -/
  | jobStatus (report : Schema.Report)
  /-- The request for metadata got no response. -/
  | pathRequest (url path reason : String)
  /-- The path does not exist. -/
  | pathAbsent (path detail : String)
  /-- The path may not be read. -/
  | pathDenied (path detail : String)
  /-- The metadata service answered with another failure. -/
  | pathResponse (request : RequestLine) (code : Nat) (detail : String)
  /-- The body of the metadata is no JSON. -/
  | pathBody (url path : String)
  /-- The status of a path does not fit. -/
  | pathStatus (path : String) (report : Schema.Report)
  /-- The listing of a folder does not fit. -/
  | pathListing (path : String) (report : Schema.Report)
  /-- The level of a log is none of the known levels. -/
  | logLevel (name : String)
deriving DecidableEq, Repr

namespace Fault

/-- The family of bytes without a text. -/
def unreadableKind : Text.Charset.Unreadable → FaultKind
  | .markMissing _ | .unfinished | .noReplacement | .undefined => .undecodable
  | .noCharacters => .runtime
  | .beyondAscii .. => .byteOutOfRange
  | .noText => .assertion
  | .noBytes => .mismatch

/-- The text of bytes without a text. -/
def unreadableMessage : Text.Charset.Unreadable → String
  | .markMissing encoding => s!"{encoding} stream does not start with BOM"
  | .unfinished => "pending buffer overflow"
  | .noCharacters => "internal codec error"
  | .beyondAscii byte position =>
    let digits := String.ofList (Text.hexField 2 byte.toNat)
    s!"'ascii' codec can't decode byte 0x{digits} in position " ++
      s!"{position}: ordinal not in range(128)"
  | .noReplacement => "Unsupported error handling replace"
  | .undefined => "undefined encoding"
  | .noText => ""
  | .noBytes => "descriptor 'translate' for 'str' objects doesn't apply to a 'bytes' object"

/-- The family of a refusal of a URL. -/
def refusalKind : Url.Refusal → FaultKind
  | .unencodable _ => .unencodable
  | _ => .url

/-- The family of a name that is refused. -/
def nameKind : Url.NameFault → FaultKind
  | .foreign .. => .nameCode
  | .context .. => .nameContext
  | .unknownDirection .. | .firstDirection _ | .direction .. | .mixedDigits | .lastDirection =>
    .nameDirection
  | _ => .name

/-- What is said of compressed data with a defect. -/
def defectMessage : Compression.Defect → String
  | .header => "incorrect header check"
  | .method => "unknown compression method"
  | .window => "invalid window size"
  | .dictionary => "need dictionary"
  | .flags => "unknown header flags set"
  | .headerChecksum => "header crc mismatch"
  | .blockType => "invalid block type"
  | .storedLengths => "invalid stored block lengths"
  | .tooManySymbols => "too many length or distance symbols"
  | .codeLengths => "invalid code lengths set"
  | .lengthRepeat => "invalid bit length repeat"
  | .noBlockEnd => "invalid code -- missing end-of-block"
  | .literalLengths => "invalid literal/lengths set"
  | .distanceLengths => "invalid distances set"
  | .literalCode => "invalid literal/length code"
  | .distanceCode => "invalid distance code"
  | .tooFarBack => "invalid distance too far back"
  | .checksum => "incorrect data check"
  | .length => "incorrect length check"

/-- The family of a fault. -/
def kind : Fault → FaultKind
  | .outside kind _ => kind
  | .noAttempts | .noCapacity | .noReplication | .urlType _ | .logLevel _ => .value
  | .nothingInFlight | .attemptReleased _ | .clientClosed => .runtime
  | .unreadableStatus _ | .unhandledStatus _ => .unexpectedStatus
  | .emptyEndpoint _ kind => kind
  | .url refusal => refusalKind refusal
  | .hostName fault => nameKind fault
  | .badLocation _ => .transport .remoteProtocol
  | .unreadable why => unreadableKind why
  | .compressed _ => .transport .decoding
  | .unordered _ => .mismatch
  | .unencodable _ => .unencodable
  | .tooDeep _ => .depth
  | .refused _ => .validation
  | .jobRequest .. | .jobResponse .. | .jobBody _ | .jobBodyKind _ | .jobSubmission _
  | .jobStatus _ => .jobService
  | .pathAbsent .. => .pathNotFound
  | .pathDenied .. => .permission
  | .pathRequest .. | .pathResponse .. | .pathBody .. | .pathStatus .. | .pathListing .. =>
    .metadata

/-- The text of a fault. -/
def message : Fault → String
  | .outside _ text => text
  | .noAttempts => "max_attempts must be >= 1."
  | .noCapacity => "capacity must be >= 1."
  | .noReplication => "replication must be >= 1."
  | .nothingInFlight => "Cannot wait for a slot with no job attempts in flight."
  | .attemptReleased path => s!"Job attempt for '{path}' is already released."
  | .unreadableStatus text => s!"Unexpected job status '{text}'."
  | .unhandledStatus text => s!"Unexpected job status: {text}"
  | .emptyEndpoint name _ => s!"{name} endpoint cannot be empty."
  | .clientClosed => "Cannot send a request, as the client has been closed."
  | .url refusal => refusal.message
  | .hostName fault => fault.message
  | .badLocation refusal => s!"Invalid URL in location header: {refusal.message}."
  | .unreadable why => unreadableMessage why
  | .compressed .dictionary => "Error 2 while decompressing data"
  | .compressed defect => s!"Error -3 while decompressing data: {defectMessage defect}"
  | .unordered laterIsBare =>
    let (later, earlier) := if laterIsBare then ("NoneType", "int") else ("int", "NoneType")
    s!"'<' not supported between instances of '{later}' and '{earlier}'"
  | .unencodable text => text.message
  | .tooDeep inObject =>
    let place := if inObject then "object" else "array"
    s!"maximum recursion depth exceeded while decoding a JSON {place} from a unicode string"
  | .urlType target => s!"unknown url type: {Text.quoted target}"
  | .refused report => report.summary
  | .jobRequest r reason => s!"{r.method} {r.url} failed: {reason}"
  | .jobResponse r code detail => s!"{r.method} {r.url} failed: {code} {detail}"
  | .jobBody r => s!"{r.method} {r.url} returned invalid JSON."
  | .jobBodyKind r => s!"{r.method} {r.url} returned non-object JSON."
  | .jobSubmission report => s!"Malformed job submission response: {report.summary}"
  | .jobStatus report => s!"Malformed job status response: {report.summary}"
  | .pathRequest target path reason => s!"GET {target} failed for '{path}': {reason}"
  | .pathAbsent path detail => s!"Path '{path}' does not exist: {detail}"
  | .pathDenied path detail => s!"Access to '{path}' denied: {detail}"
  | .pathResponse r code detail => s!"{r.method} {r.url} failed: {code} {detail}"
  | .pathBody target path => s!"GET {target} returned invalid JSON for '{path}'."
  | .pathStatus path report => s!"Malformed status for '{path}': {report.summary}"
  | .pathListing path report => s!"Malformed listing for '{path}': {report.summary}"
  | .logLevel name => s!"Unknown level: {Text.quoted name}"

/-- The report behind a fault, if a schema refused something. -/
def report? : Fault → Option Schema.Report
  | .refused report | .jobSubmission report | .jobStatus report | .pathStatus _ report
  | .pathListing _ report => some report
  | _ => none

/-- A fault as it is named inside another message. -/
def named (f : Fault) : String :=
  s!"{f.kind.label}({Text.quoted f.message})"

/-- Whether a fault is one of the job service, which the retry budget absorbs. -/
def isJobService (f : Fault) : Bool :=
  f.kind == .jobService

/-- What is noted on a fault that ended a load when closing the sessions failed too. -/
def closeNote (closing : Fault) : String :=
  s!"Releasing in-flight job sessions also failed: {closing.named}"

end Fault

end LoadDispatch
