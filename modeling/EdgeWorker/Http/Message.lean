import EdgeWorker.Http.Header
import EdgeWorker.Http.Status
import EdgeWorker.Http.Target

/-!
Requests and responses with their bodies.
-/

namespace EdgeWorker.Http

/-- The method of a request: a token, which keeps the case of its letters. -/
structure Method where
  name : String
  deriving DecidableEq, Repr

namespace Method

def get : Method := ⟨"GET"⟩
def head : Method := ⟨"HEAD"⟩
def post : Method := ⟨"POST"⟩
def put : Method := ⟨"PUT"⟩

def ofText? (text : String) : Option Method :=
  if text != "" && text.toList.all Ascii.isToken then some ⟨text⟩ else none

end Method

structure Request where
  method : Method
  target : Target
  headers : Headers
  body : Bytes
  deriving DecidableEq

structure Response where
  status : Status
  headers : Headers
  body : Bytes
  deriving DecidableEq

def Response.plain (status : Status) (body : Bytes) : Response := ⟨status, Keyed.empty, body⟩

end EdgeWorker.Http
