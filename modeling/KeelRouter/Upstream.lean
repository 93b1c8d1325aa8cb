import KeelRouter.CountingBody
import Mathlib.Data.List.DropRight

/-!
# Requests to a backend

A request is rebuilt for the backend it was routed to, with the client's method
and headers, and sent through a pooled client.  Parsing a URI and assembling a
request are left to the HTTP library.
-/

namespace KeelRouter

inductive UpstreamError where
  | connect (reason : String)
  | build (reason : String)
deriving DecidableEq

def UpstreamError.message : UpstreamError → String
  | .connect reason => "upstream connect failed: " ++ reason
  | .build reason => "upstream request build failed: " ++ reason

/-- The parts of a client's request that are forwarded.  Header names are in
lower case. -/
structure RequestParts where
  method : String
  pathAndQuery : Option String
  headers : List (String × List UInt8)
deriving DecidableEq

structure UpstreamRequest where
  method : String
  uri : String
  headers : List (String × List UInt8)
  body : List UInt8
deriving DecidableEq

/-- The URI parser and the request builder of the HTTP library. -/
structure HttpLibrary where
  parseUri : String → Except String String
  build : UpstreamRequest → Except String UpstreamRequest

def HttpLibrary.accepting : HttpLibrary where
  parseUri := .ok
  build := .ok

/-- `uri.trim_end_matches('/')` -/
def trimEndSlashes (uri : String) : String :=
  String.ofList (uri.toList.rdropWhile fun char => char = '/')

/-- `upstream::rebuild_request` -/
def rebuildRequest (http : HttpLibrary) (parts : RequestParts) (body : List UInt8)
    (backendUri : String) : Except UpstreamError UpstreamRequest := do
  let pathAndQuery := parts.pathAndQuery.getD "/"
  let uri ← (http.parseUri (trimEndSlashes backendUri ++ pathAndQuery)).mapError .build
  let headers := parts.headers.filter fun header =>
    !(header.1 = "host" || header.1 = "content-length")
  (http.build { method := parts.method, uri, headers, body }).mapError .build

/-- The request has the client's method and headers, but for the two that are made
anew, and the client's path on the base of the backend. -/
def BuiltFrom (http : HttpLibrary) (parts : RequestParts) (base : String) (body : List UInt8)
    (request : UpstreamRequest) : Prop :=
  ∃ uri, http.parseUri (trimEndSlashes base ++ parts.pathAndQuery.getD "/") = .ok uri ∧
    http.build {
      method := parts.method
      uri
      headers := parts.headers.filter fun header =>
        !(header.1 = "host" || header.1 = "content-length")
      body } = .ok request

theorem mapError_eq_ok {α ε ε' : Type} {result : Except ε α} {convert : ε → ε'} {value : α} :
    result.mapError convert = .ok value ↔ result = .ok value := by
  cases result <;> simp [Except.mapError]

theorem rebuildRequest_eq_ok {http : HttpLibrary} {parts : RequestParts} {body : List UInt8}
    {base : String} {request : UpstreamRequest}
    (rebuilt : rebuildRequest http parts body base = .ok request) :
    BuiltFrom http parts base body request := by
  unfold rebuildRequest at rebuilt
  dsimp only at rebuilt
  cases parsed : (http.parseUri (trimEndSlashes base ++ parts.pathAndQuery.getD "/")).mapError
      UpstreamError.build with
  | error reason =>
      rw [parsed] at rebuilt
      cases rebuilt
  | ok uri =>
      rw [parsed] at rebuilt
      exact ⟨uri, mapError_eq_ok.mp parsed, mapError_eq_ok.mp rebuilt⟩

/-- `upstream::dispatch`, given what the client's connection answers: the
status of the response, or the text of its error. -/
def dispatchAnswer (answer : Except String StatusCode) : Except UpstreamError StatusCode :=
  answer.mapError .connect

end KeelRouter
