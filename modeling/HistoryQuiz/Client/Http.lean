import HistoryQuiz.Client.Js
import Mathlib.Data.BitVec

/-!
# Requests and responses

What the routes of the client read of a request, what they answer, and what they throw.
The session travels in one cookie: a request carries its data, and a response may
replace it or remove it. Signing and encoding of the cookie are Remix's; a request
without a cookie, or with one that Remix does not accept, carries the empty session.
-/

namespace HistoryQuiz

namespace Client

open Js

/-! ## Session data -/

inductive SessionKey where
  | userId
  | oidcState
  | oidcNonce
  | oidcCodeVerifier
  | oidcRedirectTo
  | csrfToken
deriving DecidableEq, Repr

/-- The data of a session: what `session.get` returns for a key. -/
abbrev Session := SessionKey → Option Json

namespace Session

def empty : Session := fun _ => none

def set (session : Session) (key : SessionKey) (value : String) : Session :=
  Function.update session key (some (.str value))

def unset (session : Session) (key : SessionKey) : Session := Function.update session key none

@[simp] theorem set_apply (session : Session) (key key' : SessionKey) (value : String) :
    session.set key value key' = if key' = key then some (.str value) else session key' := by
  unfold set
  rw [Function.update_apply]

@[simp] theorem unset_apply (session : Session) (key key' : SessionKey) :
    session.unset key key' = if key' = key then none else session key' := by
  unfold unset
  rw [Function.update_apply]

end Session

/-! ## Requests and responses -/

inductive FormDataEntryValue where
  | text (value : String)
  | file
deriving DecidableEq, Repr

abbrev FormData := List (String × FormDataEntryValue)

/-- `formData.get(name)`: the first value. -/
def FormData.get (formData : FormData) (name : String) : Option FormDataEntryValue :=
  formData.lookup name

/-- A request: the parts of its URL, the headers that the routes read, the data of its
session, and its form data, unless `request.formData()` throws. -/
structure Request where
  origin : String
  pathname : String
  search : String
  searchParams : List (String × String)
  contentLength : Option String
  xRequestId : Option String
  session : Session
  formData : Option FormData

/-- `url.searchParams.get(name)`: the first value. -/
def Request.searchParam (request : Request) (name : String) : Option String :=
  request.searchParams.lookup name

/-- A `Set-Cookie` header: `commitSession` or `destroySession`. Remix throws for a session whose
cookie has more than 4096 characters; here every session has a cookie. -/
inductive SetCookie where
  | commitSession (session : Session)
  | destroySession

/-- The session that the browser holds after a response. -/
def Session.store (session : Session) : Option SetCookie → Session
  | none => session
  | some (.commitSession session') => session'
  | some .destroySession => .empty

/-- A response: its status, the headers that the routes set, and the data of its body. -/
structure Response (Data : Type) where
  status : ℕ
  location : Option String
  setCookie : Option SetCookie
  xRequestId : Option String
  data : Option Data

/-- `json(data, { headers, status })`. -/
def json {Data : Type} (data : Data) (status : ℕ) (setCookie : Option SetCookie)
    (xRequestId : Option String) : Response Data :=
  ⟨status, none, setCookie, xRequestId, some data⟩

/-- `redirect(url, { headers })`. The platform throws for a URL with a line break, a NUL or a
character above U+00FF; here there is a response for every URL. -/
def redirect {Data : Type} (url : String) (setCookie : Option SetCookie)
    (xRequestId : Option String) : Response Data :=
  ⟨302, some url, setCookie, xRequestId, none⟩

/-! ## What is thrown -/

inductive MetadataValue where
  | text (value : String)
  | bytes (value : List (BitVec 8))
deriving DecidableEq, Repr

/-- The `ServiceError` of a failed call. -/
structure ServiceError where
  code : ℕ
  details : String
  metadata : String → List MetadataValue

/-- An error that is thrown: an `OidcFlowError`, a `GrpcCallError`, an `Error`, or what
the language, the platform or a library throws. -/
inductive Thrown where
  | oidcFlowError (message : String) (status : ℕ)
  | grpcCallError (grpcError : ServiceError) (requestId : String)
  | error (message : String)
  | platform

structure FieldViolation where
  description : String
  field : String
deriving DecidableEq, Repr

/-- The body of an error response. -/
structure ErrorPayload where
  code : Option String
  message : String
  fieldViolations : List FieldViolation
  requestId : Option String
deriving DecidableEq, Repr

/-- What leaves a route that does not return: a response, or an error that Remix
answers for it. -/
inductive Raised where
  | response (response : Response ErrorPayload)
  | thrown (error : Thrown)

end Client

end HistoryQuiz
