import EdgeWorker.Url.Host

/-!
Addresses in their parts, and their written form.
-/

namespace EdgeWorker

namespace Url

/-- Who is addressed: a user, a host as it is written, and a port that is not the one of the
scheme. -/
structure Authority where
  user : String
  password : Option String
  host : String
  port : Option Nat
  deriving DecidableEq, Repr

/-- The path of an address: one text that nothing is relative to, or segments. -/
inductive Path where
  | flat (text : String)
  | segments (segments : List String)
  deriving DecidableEq, Repr

end Url

structure Url where
  scheme : String
  authority : Option Url.Authority
  path : Url.Path
  query : Option String
  fragment : Option String
  deriving DecidableEq, Repr

namespace Url

/-- The ports of the schemes of the web. -/
def webPorts : List (String × Option Nat) :=
  [("http", some 80), ("https", some 443), ("ws", some 80), ("wss", some 443), ("ftp", some 21), ("file", none)]

def isWeb (scheme : String) : Bool := (webPorts.lookup scheme).isSome

/-- The port of a scheme. -/
def defaultPort? (scheme : String) : Option Nat := (webPorts.lookup scheme).bind id

def Path.text : Path → String
  | .flat s => s
  | .segments ss => String.join (ss.map ("/" ++ ·))

def Authority.text (a : Authority) : String :=
  let user := match a.password with
    | some p => a.user ++ ":" ++ p ++ "@"
    | none => if a.user == "" then "" else a.user ++ "@"
  user ++ a.host ++ match a.port with
    | some p => ":" ++ toString p
    | none => ""

/-- The part before the path. A path that begins like an authority is kept from being one. -/
def front (u : Url) : String :=
  u.scheme ++ ":" ++ match u.authority, u.path with
    | some a, _ => "//" ++ a.text
    | none, .segments ("" :: _ :: _) => "/."
    | none, _ => ""

/-- A part behind a mark, if it is there. -/
def behind (mark : String) : Option String → String
  | some s => mark ++ s
  | none => ""

def text (u : Url) : String := u.front ++ u.path.text ++ behind "?" u.query ++ behind "#" u.fragment

/-- The host, if there is one that is not empty. -/
def host? (u : Url) : Option String :=
  u.authority.bind fun a => if a.host == "" then none else some a.host

/-- The written form of the origin; only schemes with a port of their own have one. -/
def origin (u : Url) : String :=
  match u.authority, defaultPort? u.scheme with
  | some a, some _ => u.scheme ++ "://" ++ Authority.text ⟨"", none, a.host, a.port⟩
  | _, _ => "null"

def withoutFragment (u : Url) : Url := { u with fragment := none }

end Url
end EdgeWorker
