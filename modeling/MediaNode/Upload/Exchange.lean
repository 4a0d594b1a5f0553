import MediaNode.Upload

/-!
# The exchange of an upload

An upload posts the file. A server may answer with another place: after 301, 302
and 303 that place is only asked for, after 307 and 308 the file is posted again.
The upload succeeds unless the last answer reports an error.
-/
namespace MediaNode.Upload

/-- A request to a web server. -/
structure Request where
  method : String
  url : Url
  body : List UInt8
deriving DecidableEq, Repr, Inhabited

/-- What a server did with a request. -/
inductive Reply where
  /-- An answer: the status, its wording, and another place. -/
  | answer (status : Nat) (reason : String) (location : Option String)
  /-- No usable answer. -/
  | broken
deriving DecidableEq, Repr, Inhabited

/-- What an upload does next. -/
inductive Next where
  | send (request : Request)
  | done (outcome : Except Fault Unit)
deriving Inhabited

/-- Milliseconds after which an upload is given up. -/
def patience : Nat := 60000

/-- The request that posts a file. Name and password are no part of its URL. -/
def post (target : Url) (body : List UInt8) : Request :=
  { method := "POST", url := target.withoutUser, body }

/-- The path and the query, as the server gets them. -/
def Request.target (request : Request) : String :=
  request.url.pathText ++ (request.url.query.map ("?" ++ ·)).getD ""

/-- The place that a location names, seen from a URL. -/
def place (url : Url) (location : String) : Option Url :=
  match location.toList with
  | '/' :: _ => some (url.withPath location.toList)
  | _ => (Url.parse location).toOption

/-- The request to another place. -/
def Request.redirected (request : Request) (status : Nat) (location : String) : Option Request :=
  if [301, 302, 303].contains status then
    (place request.url location).map fun url => { method := "GET", url, body := [] }
  else if [307, 308].contains status then
    (place request.url location).map fun url => { request with url }
  else none

/-- What the last answer means. -/
def outcome (url : Url) (status : Nat) (reason : String) : Except Fault Unit :=
  let told (who : String) : Except Fault Unit := .error <| .upload <|
    "HTTP status " ++ who ++ " error (" ++ Text.decimal status ++ " " ++ reason ++
      ") for url (" ++ url.text ++ ")"
  if 400 ≤ status ∧ status < 500 then told "client"
  else if 500 ≤ status ∧ status < 600 then told "server"
  else .ok ()

/-- What follows on a reply. -/
def next (request : Request) : Reply → Next
  | .broken => .done (.error (unsent request.url))
  | .answer status reason location =>
    match location.bind (request.redirected status) with
    | some request => .send request
    | none => .done (outcome request.url status reason)

end MediaNode.Upload
