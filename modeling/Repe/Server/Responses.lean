import Repe.Server.Router

/-! The responses the crate builds for a request: errors under its id, and encoded bodies. -/

namespace Repe

/-- `create_error_response_for`: an error frame with a request's id and query. -/
def createErrorResponseFor (id : UInt64) (query : Bytes) (code : ErrorCode) (text : String) :
    Message :=
  let error := createErrorMessage code (utf8Bytes text)
  let queryLength := UInt64.ofNat query.length
  { error with
    query
    header := { error.header with
      id, queryLength
      length := UInt64.ofNat headerSize + queryLength + error.header.bodyLength } }

def createErrorResponseLike (request : Message) (code : ErrorCode) (text : String) : Message :=
  createErrorResponseFor request.header.id request.query code text

/-- `create_body_response_unstamped`: a response with an encoded body and no query. -/
def createBodyResponseUnstamped (request : Message) (body : Bytes) (format : BodyFormat) : Message :=
  MessageBuilder.build
    { id := request.header.id
      -- A query format this build does not know is answered as raw binary.
      queryFormat := ((QueryFormat.tryFrom request.header.queryFormat).getD .rawBinary).toU16
      body
      bodyFormat := format.toU16 }

@[simp] theorem createErrorResponseFor_id (id : UInt64) (query : Bytes) (code : ErrorCode)
    (text : String) : (createErrorResponseFor id query code text).header.id = id := rfl

@[simp] theorem createErrorResponseLike_id (request : Message) (code : ErrorCode) (text : String) :
    (createErrorResponseLike request code text).header.id = request.header.id := rfl

@[simp] theorem createBodyResponseUnstamped_id (request : Message) (body : Bytes)
    (format : BodyFormat) :
    (createBodyResponseUnstamped request body format).header.id = request.header.id := rfl

end Repe
