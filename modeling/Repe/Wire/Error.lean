import Repe.Lib.Exec
import Repe.Lib.Bytes

/-! Protocol constants, the wire enumerations, and the errors a call can report. -/

namespace Repe

def repeSpec : UInt16 := 0x1507

def repeVersion : UInt8 := 1

def headerSize : Nat := 48

/-- High-level error codes carried in the header's `ec` field. -/
inductive ErrorCode where
  | ok
  | versionMismatch
  | invalidHeader
  | invalidQuery
  | invalidBody
  | parseError
  | methodNotFound
  | timeout
  | resourceExhausted
  | internalError
  | applicationErrorBase
  deriving DecidableEq, Repr

namespace ErrorCode

def toU32 : ErrorCode → UInt32
  | .ok => 0
  | .versionMismatch => 1
  | .invalidHeader => 2
  | .invalidQuery => 3
  | .invalidBody => 4
  | .parseError => 5
  | .methodNotFound => 6
  | .timeout => 7
  | .resourceExhausted => 8
  | .internalError => 9
  | .applicationErrorBase => 4096

/-- `ErrorCode::try_from`, which refuses every other number. -/
def tryFrom (value : UInt32) : Option ErrorCode :=
  [ok, versionMismatch, invalidHeader, invalidQuery, invalidBody, parseError, methodNotFound,
    timeout, resourceExhausted, internalError, applicationErrorBase].find? (·.toU32 == value)

def display : ErrorCode → String
  | .ok => "OK"
  | .versionMismatch => "Version mismatch"
  | .invalidHeader => "Invalid header"
  | .invalidQuery => "Invalid query"
  | .invalidBody => "Invalid body"
  | .parseError => "Parse error"
  | .methodNotFound => "Method not found"
  | .timeout => "Timeout"
  | .resourceExhausted => "Resource exhausted"
  | .internalError => "Internal error"
  | .applicationErrorBase => "Application error"

end ErrorCode

inductive QueryFormat where
  | rawBinary
  | jsonPointer
  deriving DecidableEq, Repr

def QueryFormat.toU16 : QueryFormat → UInt16
  | .rawBinary => 0
  | .jsonPointer => 1

inductive BodyFormat where
  | rawBinary
  | beve
  | json
  | utf8
  deriving DecidableEq, Repr

def BodyFormat.toU16 : BodyFormat → UInt16
  | .rawBinary => 0
  | .beve => 1
  | .json => 2
  | .utf8 => 3

inductive ErrorKind where
  | alreadyExists
  | brokenPipe
  | connectionAborted
  | connectionRefused
  | connectionReset
  | interrupted
  | invalidData
  | invalidInput
  | notConnected
  | timedOut
  | unexpectedEof
  | wouldBlock
  | other
  deriving DecidableEq, Repr

/-- An I/O error: the kind callers match on, and its `Display` text. -/
structure IoError where
  kind : ErrorKind
  message : String
  deriving DecidableEq, Repr

/-- The error a reader reports when its stream ends inside a value. -/
def IoError.unexpectedEof : IoError := ⟨.unexpectedEof, "unexpected end of file"⟩

def IoError.earlyEof : IoError := ⟨.unexpectedEof, "early eof"⟩

/-- The error a system call reports when a signal cut it short. -/
def IoError.interrupted : IoError := ⟨.interrupted, "operation interrupted"⟩

/-- A failure of the body codec: where it was found, and its `Display` text. -/
structure StructioError where
  offset : Nat
  message : String
  deriving DecidableEq, Repr

inductive RepeError where
  | versionMismatch (version : UInt8)
  | invalidSpec (spec : UInt16)
  | invalidHeaderLength (length : Nat)
  | lengthMismatch (expected got : UInt64)
  | bufferTooSmall (need have_ : Nat)
  | frameLengthOverflow (queryLength bodyLength : UInt64)
  | responseIdMismatch (expected got : UInt64)
  | io (error : IoError)
  | json (source : StructioError)
  | beve (source : StructioError)
  | unknownEnumValue (value : UInt64)
  | unexpectedBodyFormat (expected : BodyFormat) (got : UInt16)
  | serverError (code : ErrorCode) (message : String)
  | messageTooLarge (size limit : Nat)
  deriving DecidableEq, Repr

namespace RepeError

/-- The code an error is reported under when it becomes a response. -/
def toErrorCode : RepeError → ErrorCode
  | .versionMismatch _ => .versionMismatch
  | .invalidSpec _ => .invalidHeader
  | .invalidHeaderLength _ => .invalidHeader
  | .lengthMismatch .. => .invalidHeader
  | .bufferTooSmall .. => .parseError
  | .frameLengthOverflow .. => .invalidHeader
  | .responseIdMismatch .. => .invalidHeader
  | .io _ => .parseError
  | .json _ => .parseError
  | .beve _ => .parseError
  | .unknownEnumValue _ => .parseError
  | .unexpectedBodyFormat .. => .invalidBody
  | .serverError code _ => code
  -- Not a retryable code: an oversized response is oversized every time.
  | .messageTooLarge .. => .internalError

/-- `0x{value:04x}`. -/
def hexSpec (value : UInt16) : String :=
  let digits := Nat.toDigits 16 value.toNat
  "0x" ++ String.ofList (List.replicate (4 - digits.length) '0' ++ digits)

/-- The `Debug` text of a body format. -/
def formatName : BodyFormat → String
  | .rawBinary => "RawBinary"
  | .beve => "Beve"
  | .json => "Json"
  | .utf8 => "Utf8"

def display : RepeError → String
  | .versionMismatch version => s!"version mismatch: {version}"
  | .invalidSpec spec => s!"invalid spec magic: {hexSpec spec}"
  | .invalidHeaderLength length => s!"invalid header length: expected 48, got {length}"
  | .lengthMismatch expected got => s!"header length mismatch: expected {expected}, got {got}"
  | .bufferTooSmall need have_ => s!"buffer too small: need {need} bytes, have {have_}"
  | .frameLengthOverflow queryLength bodyLength =>
    "frame lengths are not representable: 48-byte header + query "
      ++ s!"{queryLength} + body {bodyLength}"
  | .responseIdMismatch expected got => s!"response id mismatch: expected {expected}, got {got}"
  | .io error => "io error: " ++ error.message
  | .json source => "json error: " ++ source.message
  | .beve source => "beve error: " ++ source.message
  | .unknownEnumValue value => s!"unknown value for enum conversion: {value}"
  | .unexpectedBodyFormat expected got =>
    s!"unexpected body format: expected {formatName expected}, got format code {got}"
  | .serverError code message => s!"server error {code.display}: {message}"
  | .messageTooLarge size limit =>
    s!"outbound message of {size} bytes exceeds the assumed peer frame limit of {limit} bytes"

end RepeError

def utf8Bytes (text : String) : Bytes :=
  text.toUTF8.data.toList

end Repe
