import BlockVolumes.Http.Uri
import BlockVolumes.Json.Value

/-!
Requests and replies.
-/

namespace BlockVolumes.Http

def isMethod (s : String) : Bool :=
  s != "" && s.toList.all fun c => c.isAlphanum || "!#$%&'*+-.^_|~\x60".toList.contains c

structure Request where
  method : String
  uri : Uri
  body : List UInt8

inductive Body
  | none
  | text (content : String)
  | json (content : Json)

/-- `allow` names the methods that would have been allowed. -/
structure Reply where
  status : Nat
  body : Body
  allow : Option String

namespace Reply

def json (content : Json) : Reply := ⟨200, .json content, none⟩

def text (status : Nat) (content : String) : Reply := ⟨status, .text content, none⟩

def empty (status : Nat) : Reply := ⟨status, .none, none⟩

def contentType (r : Reply) : Option String :=
  match r.body with
  | .none => none
  | .text _ => some "text/plain; charset=utf-8"
  | .json _ => some "application/json"

def content (r : Reply) : String :=
  match r.body with
  | .none => ""
  | .text content => content
  | .json content => content.compact

/-- A request may ask for all but the body. -/
def contentFor (r : Reply) (method : String) : String := if method = "HEAD" then "" else r.content

end Reply

def bodyLimit : Nat := 2 * 1024 * 1024

def tooLarge : Reply := .text 413 "Failed to buffer the request body: length limit exceeded"

def badId : Reply := .text 400 "Invalid URL: Invalid UTF-8 in \x60id\x60"

end BlockVolumes.Http
