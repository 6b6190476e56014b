import GatewayOperator.Text.Quoted

/-!
# Requests over the network

## Main Definitions

* `Authorization` — how a request identifies its sender.
* `HttpRequest`, `HttpResponse` — what is sent and what comes back.
* `contentType` — the type of a body.
* `HttpRequest.shown` — a request in diagnostic texts, without any password or token.
-/

namespace GatewayOperator

/-- The methods that are used. -/
inductive HttpMethod where
  /-- Reads. -/
  | get
  /-- Sends a body. -/
  | post
  deriving DecidableEq, Repr, Inhabited

/-- The name of a method. -/
def HttpMethod.name : HttpMethod → String
  | .get => "GET"
  | .post => "POST"

/-- How a request identifies its sender. -/
inductive Authorization where
  /-- By a name and a password. -/
  | basic (username password : String)
  /-- By a token. -/
  | bearer (token : String)
  deriving DecidableEq, Repr, Inhabited

/-- A request. -/
structure HttpRequest where
  /-- The method. -/
  method : HttpMethod
  /-- The address. -/
  url : String
  /-- The headers, in order. -/
  headers : List (String × String) := []
  /-- The body. -/
  body : Option String := none
  /-- How the sender identifies itself. -/
  authorization : Option Authorization := none
  /-- Whether any certificate is accepted. -/
  insecureTls : Bool := false
  deriving DecidableEq, Repr, Inhabited

/-- An answer. -/
structure HttpResponse where
  /-- The status code. -/
  status : Nat
  /-- The body. -/
  body : String
  deriving DecidableEq, Repr, Inhabited

/-- Whether an answer reports success. -/
def HttpResponse.isSuccess (r : HttpResponse) : Bool := 200 ≤ r.status && r.status < 300

theorem HttpResponse.isSuccess_iff {r : HttpResponse} :
    r.isSuccess = true ↔ 200 ≤ r.status ∧ r.status < 300 := by
  simp [HttpResponse.isSuccess]

/-- The type of a body: an object, or else a form. -/
def contentType (body : String) : String :=
  match body.toList with
  | '\x7b' :: _ => "application/json"
  | _ => "application/x-www-form-urlencoded"

/-- What stands for a password or a token in diagnostic texts. -/
def redacted : String := "<redacted>"

/-- How a sender identifies itself, in diagnostic texts. -/
def Authorization.shown : Authorization → String
  | .basic username _ =>
    Text.shownRecord "Basic"
      [("username", Text.quoted username), ("password", Text.quoted redacted)]
  | .bearer _ => "Bearer(" ++ Text.quoted redacted ++ ")"

/-- A method in diagnostic texts. -/
def HttpMethod.shown : HttpMethod → String
  | .get => "Get"
  | .post => "Post"

/-- A request in diagnostic texts. -/
def HttpRequest.shown (r : HttpRequest) : String :=
  Text.shownRecord "HttpRequest"
    [("method", r.method.shown), ("url", Text.quoted r.url),
      ("headers", Text.shownList (r.headers.map fun h =>
        "(" ++ Text.quoted h.1 ++ ", " ++ Text.quoted h.2 ++ ")")),
      ("body", Text.quotedOption r.body),
      ("auth", Text.shownOption Authorization.shown r.authorization),
      ("insecure_tls", Text.shownBool r.insecureTls)]

end GatewayOperator
