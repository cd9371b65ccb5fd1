import ModuleCatalog.Release.Lookup

/-!
Requests over HTTP, as the program makes them through a client library. What addresses the library
takes, how it follows redirects, how it decodes a text and when it gives a request up are its own
business: a network says what the library hands over for each address.
-/
namespace ModuleCatalog.Http

/-- What the library hands over for a response: the status, the address in the location header if
that is there and readable, and the bytes of the body and its text, unless it breaks off or stalls
before its end. -/
structure Response where
  status : Nat
  location : Option String
  body : Option ByteArray
  text : Option String

/-- What becomes of a request for each address: the last response where redirects are followed, and
the first where they are not. There is no response where the address is none, the host cannot be
reached, redirects lead too far or the time runs out. -/
structure Network where
  get : String → Option Response
  getDirect : String → Option Response

def Network.offline : Network :=
  ⟨fun _ => none, fun _ => none⟩

def isSuccess (status : Nat) : Bool :=
  200 ≤ status && status < 300

def text (net : Network) (url : String) : Answer String :=
  match net.get url with
  | none => .failed (.unreachable url)
  | some r =>
    if !isSuccess r.status then .failed (.status url r.status)
    else
      match r.text with
      | none => .failed (.unreachable url)
      | some text => .got text

def location (net : Network) (url : String) : Answer (Option String) :=
  match net.getDirect url with
  | none => .failed (.unreachable url)
  | some r => .got r.location

def transport (net : Network) : Transport where
  text url := ⟨0, text net url⟩
  location url := ⟨0, location net url⟩

end ModuleCatalog.Http
