import EdgeWorker.Url.Reader

/-!
The scope of a worker: the address below which it answers, made of an origin and a base path.
-/

namespace EdgeWorker

open EdgeWorker.Text

/-- A base path with one slash at each end. -/
def normalizeBasePath (path : String) : String :=
  let inner := trimBy (· == '/') (trim path.toList)
  if inner.isEmpty then "/" else "/" ++ String.ofList inner ++ "/"

/-- Why an origin gives no scope. -/
inductive OriginFault where
  | url (e : Url.UrlError)
  | noHost
  deriving DecidableEq, Repr

def OriginFault.message : OriginFault → String
  | .url e => e.message
  | .noHost => "origin has no host"

/-- An origin that gives no scope. -/
structure OriginError where
  origin : String
  fault : OriginFault
  deriving DecidableEq, Repr

def OriginError.message (e : OriginError) : String :=
  s!"Invalid origin '{e.origin}': {e.fault.message}"

/-- The scope of a worker. -/
structure Scope where
  base : Url
  deriving DecidableEq, Repr

namespace Scope

/-- The scope of an origin and a base path. An origin without a host is reported as it was read. -/
def of (origin basePath : String) : Except OriginError Scope :=
  match Url.ofText origin with
  | .error e => .error ⟨origin, .url e⟩
  | .ok url =>
    if url.host?.isNone then .error ⟨url.text, .noHost⟩
    else .ok ⟨{ url.withPath (normalizeBasePath basePath) with query := none, fragment := none }⟩

/-- The path of the scope, with a slash at its end. -/
def basePath (s : Scope) : String := s.base.path.text

/-- The address of a path, which may be relative to the scope or complete. -/
def resolve (s : Scope) (path : String) : Except Url.UrlError Url := s.base.resolve path

/-- The path under which a declared route is found. -/
def routeKey (s : Scope) (declared : String) : String :=
  s.basePath ++ String.ofList (declared.toList.dropWhile (· == '/'))

end Scope

/-- The key under which the answer of an address is stored. -/
def cacheKey (url : Url) : String := url.withoutFragment.text

end EdgeWorker
