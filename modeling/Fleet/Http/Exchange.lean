import Fleet.Json.Basic

namespace Fleet
namespace Http

/-!
# Requests and responses

What the service sees of a request and what it says in return.  A response has a body only if it is a
document; the texts with which a request is turned away have no meaning and are left out.
-/

/-- What a request asks to be done. -/
inductive Method where
  | get
  | head
  | post
  | put
  | options
  | other
  deriving DecidableEq

/-- The method of a name, in which case matters. -/
def Method.ofText : String → Method
  | "GET" => get
  | "HEAD" => head
  | "POST" => post
  | "PUT" => put
  | "OPTIONS" => options
  | _ => other

/-- A request. -/
structure Request where
  method : String
  /-- The path as it was sent, with a query if there is one. -/
  target : String
  contentType : Option String
  body : ByteArray

/-- How a request went. -/
inductive Status where
  | ok
  | accepted
  | noContent
  | badRequest
  | notFound
  | methodNotAllowed
  | tooLarge
  | unsupportedMediaType
  | unprocessable
  | unavailable
  deriving DecidableEq

def Status.code : Status → Nat
  | ok => 200
  | accepted => 202
  | noContent => 204
  | badRequest => 400
  | notFound => 404
  | methodNotAllowed => 405
  | tooLarge => 413
  | unsupportedMediaType => 415
  | unprocessable => 422
  | unavailable => 503

/-- A response. -/
structure Response where
  status : Status
  body : Option Json

def Response.bare (status : Status) : Response :=
  ⟨status, none⟩

end Http
end Fleet
