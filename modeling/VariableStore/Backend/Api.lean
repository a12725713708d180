import VariableStore.Backend
import VariableStore.Config
import VariableStore.Text.Encoded
import VariableStore.Text.Utf8
import VariableStore.Url.Basic
/-!
The backend behind the interface of a platform, and the requests by which it is reached.
-/
namespace VariableStore.Http

/-! ## Requests

Requests over HTTP and the answers to them, as far as a client that stores bytes sees them.
-/

inductive Method where
  | get
  | put
  deriving DecidableEq, Repr

/-- A request: what is asked of the host, the headers by name, and the bytes that go with it. -/
structure Request where
  method : Method
  target : String
  headers : List (String × String)
  body : Bytes
  deriving DecidableEq, Repr

def Request.header? (r : Request) (name : String) : Option String := r.headers.lookup name

/-- Whether a text can be the value of a header: it has no controls other than tabs. -/
def isHeaderValue (s : String) : Bool := (Utf8.encode s).all fun b => b = 9 || (32 ≤ b && b ≠ 127)

/-- An answer: a status, and the bytes that came with it, or nothing if they broke off. -/
structure Response where
  status : Nat
  body : Option Bytes
  deriving DecidableEq, Repr

def Response.isSuccess (r : Response) : Bool := 200 ≤ r.status && r.status < 300

/-- The bytes of an answer. An answer without content has none, whatever came with it. -/
def Response.content? (r : Response) : Option Bytes := if r.status = 204 then some [] else r.body

def statusNames : List (Nat × String) :=
  [(100, "Continue"), (101, "Switching Protocols"), (102, "Processing"), (103, "Early Hints"),
   (200, "OK"), (201, "Created"), (202, "Accepted"), (203, "Non Authoritative Information"),
   (204, "No Content"), (205, "Reset Content"), (206, "Partial Content"), (207, "Multi-Status"),
   (208, "Already Reported"), (226, "IM Used"),
   (300, "Multiple Choices"), (301, "Moved Permanently"), (302, "Found"), (303, "See Other"),
   (304, "Not Modified"), (305, "Use Proxy"), (307, "Temporary Redirect"), (308, "Permanent Redirect"),
   (400, "Bad Request"), (401, "Unauthorized"), (402, "Payment Required"), (403, "Forbidden"),
   (404, "Not Found"), (405, "Method Not Allowed"), (406, "Not Acceptable"),
   (407, "Proxy Authentication Required"), (408, "Request Timeout"), (409, "Conflict"), (410, "Gone"),
   (411, "Length Required"), (412, "Precondition Failed"), (413, "Payload Too Large"),
   (414, "URI Too Long"), (415, "Unsupported Media Type"), (416, "Range Not Satisfiable"),
   (417, "Expectation Failed"), (418, "I'm a teapot"), (421, "Misdirected Request"),
   (422, "Unprocessable Entity"), (423, "Locked"), (424, "Failed Dependency"), (425, "Too Early"),
   (426, "Upgrade Required"), (428, "Precondition Required"), (429, "Too Many Requests"),
   (431, "Request Header Fields Too Large"), (451, "Unavailable For Legal Reasons"),
   (500, "Internal Server Error"), (501, "Not Implemented"), (502, "Bad Gateway"),
   (503, "Service Unavailable"), (504, "Gateway Timeout"), (505, "HTTP Version Not Supported"),
   (506, "Variant Also Negotiates"), (507, "Insufficient Storage"), (508, "Loop Detected"),
   (510, "Not Extended"), (511, "Network Authentication Required")]

def statusText (status : Nat) : String :=
  toString status ++ " " ++ (statusNames.lookup status).getD "<unknown status code>"

/-- Somebody who answers requests, perhaps not at all. -/
abbrev Exchange (σ : Type) := Request → σ → Option Response × σ

end VariableStore.Http

/-! ## The interface

The backend behind the interface of a platform. A key is one segment of a URL, percent encoded, and the context goes
along as a header. The interface can create and read, and it never says whether an entry is new. It cannot tell an
empty entry from none.
-/

namespace VariableStore

/-- Where the interface is: a base URL without slashes at its end, the space for keys, and a token. -/
structure Endpoint where
  base : String
  space : String
  token : Option String
  deriving DecidableEq, Repr

namespace Endpoint

def withoutSlashes (cs : List Char) : List Char := (cs.reverse.dropWhile (· = '/')).reverse

/-- The interface that settings describe. The base must be a URL. -/
def ofSettings? (s : ApiSettings) : Except StorageError Endpoint :=
  match Url.ofText? s.baseUrl with
  | some url => .ok ⟨String.ofList (withoutSlashes url.chars), s.space, s.token⟩
  | none => .error (.failure "invalid API base URL " true)

/-- What the URLs of all keys have in front. -/
def front (e : Endpoint) : String := e.base ++ "/internal/" ++ e.space ++ "/keyValue/"

def url (e : Endpoint) (key : String) : String := e.front ++ Percent.encode key

def schemes : List (List Char) := ["http".toList, "https".toList]

/-- A request for a key, unless its URL or one of its headers cannot be sent. -/
def request? (e : Endpoint) (method : Http.Method) (context key : String) (headers : List (String × String))
    (body : Bytes) : Option Http.Request := do
  let url ← Url.ofText? (e.url key)
  let headers := ("db-context", context) :: (e.token.map fun token => ("authorization", token)).toList ++ headers
  if schemes.contains url.scheme && headers.all fun header => Http.isHeaderValue header.2 then
    some ⟨method, url.target, headers, body⟩
  else none

/-- How a request for a key fails that does not get through. -/
def lost (key : String) : StorageError := .failure ("HTTP error for key " ++ key ++ ": ") true

def send {σ : Type} (exchange : Http.Exchange σ) (key : String) (request : Option Http.Request) (s : σ) :
    Except StorageError Http.Response × σ :=
  match request with
  | none => (.error (lost key), s)
  | some request =>
    match exchange request s with
    | (some response, s) => (.ok response, s)
    | (none, s) => (.error (lost key), s)

/-- What an answer to a creation says. -/
def acknowledged (key : String) (response : Http.Response) : Except StorageError WriteAck :=
  if response.isSuccess then .ok .accepted
  else .error (.invalidResponse key ("create returned status " ++ Http.statusText response.status))

/-- What an answer to a reading says. -/
def found (key : String) (response : Http.Response) : Except StorageError (Option Bytes) :=
  if response.status = 404 then .ok none
  else if response.isSuccess then
    match response.content? with
    | none => .error (lost key)
    | some [] => .ok none
    | some content => .ok (some content)
  else .error (.invalidResponse key ("read returned status " ++ Http.statusText response.status))

def backend {σ : Type} (e : Endpoint) (exchange : Http.Exchange σ) : Backend σ where
  create context key value s :=
    let (answer, s) := send exchange key
      (e.request? .put context key [("content-type", "application/octet-stream")] value) s
    (answer.bind (acknowledged key), s)
  read context key s :=
    let (answer, s) := send exchange key (e.request? .get context key [] []) s
    (answer.bind (found key), s)

end Endpoint

end VariableStore
