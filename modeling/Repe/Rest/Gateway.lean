import Repe.Lib.Percent
import Repe.Server.Registry

/-! The REST gateway: from the target of an HTTP request to the call it makes on the registry. -/

namespace Repe

/-- `percent_decode`: the text a URL segment stands for. -/
def percentDecode (segment : Path) : Except String Path :=
  if ¬ segment.contains '%' then .ok segment
  else match Percent.decode (Utf8.encode segment) with
    | .error .truncated => .error "truncated percent-escape in request path"
    | .error .invalid => .error "invalid percent-escape in request path"
    | .ok bytes =>
      match Utf8.fromUtf8 bytes with
      | some text => .ok text
      | none => .error "percent-escape decoded to invalid UTF-8"

/-- `path.strip_suffix('/').unwrap_or(path)`. -/
def stripTrailing (path : Path) : Path :=
  if path.getLast? = some '/' then path.dropLast else path

/-- The pointer of the segments behind the leading separator: each is decoded, and then escaped. -/
def segmentsToPointer (segments : List Path) : Except String Path :=
  match segments with
  | [] => .ok []
  | segment :: rest => do
    let token ← percentDecode segment
    let pointer ← segmentsToPointer rest
    return '/' :: JsonPointer.escapeToken token ++ pointer

/-- `path_to_pointer`: map a URL path below the mount onto a JSON Pointer. -/
def pathToPointer (path : Path) : Except String Path :=
  if path = [] ∨ path = ['/'] then .ok []
  else
    -- A trailing separator names the same resource.
    let path := stripTrailing path
    if path = [] then .ok []
    else if path.head? ≠ some '/' then .error "request path must be absolute"
    else segmentsToPointer ((path.splitOn '/').drop 1)

structure RestConfig where
  readOnly : Bool := false
  acceptBeveBodies : Bool := true
  deriving DecidableEq, Repr

/-- `RestRequest`: the parts of an HTTP request that decide what is called. -/
structure RestRequest where
  method : String
  target : Path
  contentType : Option Path := none
  body : Bytes := []
  deriving DecidableEq, Repr

/-- The path of a target, without its query string and fragment. -/
def RestRequest.path (request : RestRequest) : Path :=
  request.target.takeWhile fun char => char ≠ '?' && char ≠ '#'

structure RestGateway (M : Type → Type) (C : Type) where
  registry : Registry M C
  mount : Path
  config : RestConfig

inductive RestAction where
  | allow (methods : String)
  | methodNotAllowed (methods detail : String)
  | problem (status : Nat) (detail : String)
  /-- `invoke`: the function at a pointer is called with these parameters. -/
  | invoke (pointer : Path) (params : Option RequestBody)
  deriving DecidableEq, Repr

/-- `char::is_whitespace`. -/
def isWhitespace (char : Char) : Bool :=
  let value := char.toNat
  (9 ≤ value && value ≤ 13) || value == 0x20 || value == 0x85 || value == 0xA0 || value == 0x1680
    || (0x2000 ≤ value && value ≤ 0x200A) || value == 0x2028 || value == 0x2029
    || value == 0x202F || value == 0x205F || value == 0x3000

/-- `bare_media`: what stands before the delimiter, trimmed and in lower case. -/
def bareMedia (value : Path) (delimiter : Char) : Path :=
  let front := value.takeWhile (· ≠ delimiter)
  ((front.dropWhile isWhitespace).rdropWhile isWhitespace).map Char.toLower

variable {M : Type → Type} {C : Type}

namespace RestGateway

/-- `RestGateway::with_config`. -/
def withConfig (mount : Path) (registry : Registry M C) (config : RestConfig) : RestGateway M C :=
  ⟨registry, Mount.normalizeMount mount, config⟩

def allow (gateway : RestGateway M C) : String :=
  if gateway.config.readOnly then "GET, HEAD, OPTIONS" else "GET, HEAD, PUT, POST, OPTIONS"

/-- `body_format`: the format of a request body by its `Content-Type`. -/
def bodyFormat (gateway : RestGateway M C) (contentType : Option Path) :
    Except String BodyFormat :=
  match contentType with
  -- A missing header is JSON.
  | none => .ok .json
  | some value =>
    let media := String.ofList (bareMedia value ';')
    if media = "" ∨ media = "application/json" ∨ media = "text/json"
        ∨ media = "application/x-www-form-urlencoded" then .ok .json
    else if media = "application/x-beve" ∨ media = "application/beve" then
      if gateway.config.acceptBeveBodies then .ok .beve
      else .error ("BEVE request bodies are disabled; enable `RestConfig::accept_beve_bodies` "
        ++ "or send application/json")
    else .error "unsupported Content-Type; send application/json"

/-- `call`: a `PUT` or `POST`, which needs a body. -/
def call (gateway : RestGateway M C) (pointer : Path) (request : RestRequest) : RestAction :=
  if gateway.config.readOnly then
    .methodNotAllowed "GET, HEAD, OPTIONS" "this gateway is configured read-only"
  else if request.body.isEmpty then
    .problem 400 "a body is required; send `null` for a call that takes no arguments"
  else match gateway.bodyFormat request.contentType with
    | .error detail => .problem 415 detail
    | .ok format => .invoke pointer (some ⟨request.body, format⟩)

def respond (gateway : RestGateway M C) (request : RestRequest) : RestAction :=
  let path := request.path
  -- A question about the server as a whole never reaches the mount.
  if request.method = "OPTIONS" ∧ path = ['*'] then .allow gateway.allow
  else match Mount.stripMount gateway.mount path with
    | none =>
      .problem 404 ("`" ++ String.ofList path ++ "` is not under this gateway's mount")
    | some remainder =>
      match pathToPointer remainder with
      | .error detail => .problem 400 detail
      | .ok pointer =>
        if request.method = "GET" ∨ request.method = "HEAD" then .invoke pointer none
        else if request.method = "PUT" ∨ request.method = "POST" then gateway.call pointer request
        else if request.method = "OPTIONS" then .allow gateway.allow
        else .methodNotAllowed gateway.allow "unsupported method"

end RestGateway

example : pathToPointer "/items/a%2Fb/".toList = .ok "/items/a~1b".toList := by decide

end Repe
