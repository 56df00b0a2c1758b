import Repe.Lib.Utf8Laws
import Repe.Server.Mount

/-! JSON Pointers: the reference tokens of one, the escapes inside a token, and the check of both. -/

namespace Repe

structure MalformedPointer where
  deriving DecidableEq, Repr

namespace JsonPointer

/-- `addresses_root`: the two spellings of the root. -/
def addressesRoot (pointer : Path) : Bool :=
  pointer.isEmpty || pointer == ['/']

def unescape : Path → Except MalformedPointer Path
  | [] => .ok []
  | '~' :: '0' :: rest => (unescape rest).map ('~' :: ·)
  | '~' :: '1' :: rest => (unescape rest).map ('/' :: ·)
  | char :: rest =>
    -- Anything else behind a tilde, or nothing at all.
    if char = '~' then .error ⟨⟩ else (unescape rest).map (char :: ·)

/-- `unescape_token`: a token without a tilde is handed back as it is. -/
def unescapeToken (token : Path) : Except MalformedPointer Path :=
  if ¬ token.contains '~' then .ok token else unescape token

def parse (pointer : Path) : Except MalformedPointer (List Path) :=
  if addressesRoot pointer then .ok []
  else if pointer.head? ≠ some '/' then .error ⟨⟩
  else ((pointer.drop 1).splitOn '/').mapM unescapeToken

/-- `str::replace` of one character. -/
def replace (text : Path) (old : Char) (new : Path) : Path :=
  text.flatMap fun char => if char = old then new else [char]

/-- `escape_token`: the tilde first, so that it does not escape what the separator becomes. -/
def escapeToken (token : Path) : Path :=
  if ¬ token.contains '~' ∧ ¬ token.contains '/' then token
  else replace (replace token '~' ['~', '0']) '/' ['~', '1']

/-- Whether every tilde byte is followed by one of the two digits. -/
def escapesComplete : Bytes → Bool
  | [] => true
  | 0x7E :: 0x30 :: rest => escapesComplete rest
  | 0x7E :: 0x31 :: rest => escapesComplete rest
  | byte :: rest => if byte = 0x7E then false else escapesComplete rest

/-- `validate_escapes`: the check of a pointer that builds no tokens. -/
def validateEscapes (pointer : Path) : Except MalformedPointer Unit :=
  if addressesRoot pointer then .ok ()
  else if pointer.head? ≠ some '/' then .error ⟨⟩
  -- The bytes are scanned, not the characters.
  else if escapesComplete (Utf8.encode pointer) then .ok () else .error ⟨⟩

def canonical (tokens : List Path) : Path :=
  -- No tokens at all are written as the second spelling of the root.
  if tokens.isEmpty then ['/']
  else tokens.foldl (fun out token => out ++ ['/'] ++ escapeToken token) []

end JsonPointer

end Repe
