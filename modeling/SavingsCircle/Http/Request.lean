import SavingsCircle.Http.Locator
import SavingsCircle.Http.MediaType
import SavingsCircle.Http.Parameters
import SavingsCircle.Http.Reply
import SavingsCircle.Json.Reader

/-!
# Requests

A request has a method, a target, and possibly an authorization header and a body. A request whose
method is not known, or whose target cannot be one, is not read any further; nor is one whose target
and headers are too long.
-/

namespace SavingsCircle.Http

/-- The methods that the service tells apart. -/
inductive Method where
  | get
  | head
  | post
  | put
  | options
  | other
  deriving DecidableEq

namespace Method

/-- The methods that are known and not told apart. -/
def others : List String :=
  ["ACL", "BIND", "CHECKOUT", "CONNECT", "COPY", "DELETE", "LINK", "LOCK", "M-SEARCH", "MERGE",
    "MKACTIVITY", "MKCALENDAR", "MKCOL", "MOVE", "NOTIFY", "PATCH", "PROPFIND", "PROPPATCH",
    "PURGE", "QUERY", "REBIND", "REPORT", "SEARCH", "SOURCE", "SUBSCRIBE", "TRACE", "UNBIND",
    "UNLINK", "UNLOCK", "UNSUBSCRIBE"]

/-- The method of a name, in capital or small letters; without a name something is to be got. -/
def ofName? (name : String) : Option Method :=
  match name.toUpper with
  | "" | "GET" => some .get
  | "HEAD" => some .head
  | "POST" => some .post
  | "PUT" => some .put
  | "OPTIONS" => some .options
  | capital => if capital ∈ others then some .other else none

/-- The method whose routes answer a request: asking for the head only is asking without wanting
the body. -/
def routed : Method → Method
  | .head => .get
  | method => method

end Method

structure Request where
  method : String
  target : String
  authorization : Option String
  contentType : Option String
  body : Option String

/-- The value of a header as it arrives: spaces and tabs around it are dropped. -/
def headerValue (written : String) : String :=
  let isPadding (c : Char) := c = ' ' || c = '\t'
  let cs := written.toList.dropWhile isPadding
  String.ofList (cs.reverse.dropWhile isPadding).reverse

namespace Request

/-- The characters of the target; without any the root is meant. -/
def targetChars (request : Request) : List Char :=
  if request.target = "" then ['/'] else request.target.toList

/-- The method, if it is a known one and the target can be one. -/
def method? (request : Request) : Option Method :=
  if Locator.isWellFormed request.targetChars then Method.ofName? request.method else none

/-- The length from which on the head of a request is too long. -/
def headLimit : Nat := 16 * 1024

/-- How long the head is: its target, and the names and values of its headers. -/
def headLength (request : Request) : Nat :=
  let header (name : String) (value : Option String) : Nat :=
    (value.map fun value => name.length + value.length).getD 0
  request.target.length + header "authorization" request.authorization +
    header "content-type" request.contentType

def locator (request : Request) : Locator := Locator.read request.targetChars

def query (request : Request) : Json := Parameters.read request.locator.query

def mediaType? (request : Request) : Option MediaType := request.contentType.bind MediaType.read?

/-- The largest body that is read, in bytes. -/
def maxBody : Nat := 1024 * 1024

/-- The JSON value of the body. Without a body, or with one that is not JSON, the value is an empty
object; a body of JSON has to be an object or an array. -/
def payload (request : Request) : Except Refusal Json :=
  let unreadable : Except Refusal Json := .error (.internal "Unreadable body.")
  match request.body, request.mediaType? with
  | some body, some type =>
    if !type.isJson then .ok (.object [])
    else
      match type.encoding? with
      | none => unreadable
      | some encoding =>
        if maxBody < body.utf8ByteSize then unreadable
        else
          match encoding.decode body with
          | [] => .ok (.object [])
          | units =>
            match Json.readUnits? units with
            | some (.object members) => .ok (.object members)
            | some (.array items) => .ok (.array items)
            | _ => unreadable
  | _, _ => .ok (.object [])

end Request

end SavingsCircle.Http
