import EdgeWorker.Json.Record

/-!
The envelopes of remote calls and of their replies.
-/

namespace EdgeWorker.Rpc

open EdgeWorker.Json

/-- A call: its method, and its parameters as an array. -/
structure Call where
  method : String
  params : List Value
  id : Nat
  version : String
  deriving Inhabited

namespace Call

/-- The version of the protocol that calls name. -/
def currentVersion : String := "1.1"

/-- The call of a method with one parameter. -/
def of (method : String) (params : Value) : Call := ⟨method, [params], 1, currentVersion⟩

def reader : Reader Call := fun depth t =>
  match Fields.of? ["method", "params", "id", "jsonrpc"] depth t with
  | none => none
  | some fs =>
    match fs.required "method" Reader.string, fs.required "params" (Reader.list Reader.value),
      fs.required "id" (Reader.int 0 greatestInt), fs.required "jsonrpc" Reader.string with
    | some method, some params, some id, some version => some ⟨method, params, id.toNat, version⟩
    | _, _, _, _ => none

def text (c : Call) : String :=
  String.ofList <| record
    [("method", quote c.method), ("params", brackets (writeItems c.params)), ("id", writeInt c.id),
     ("jsonrpc", quote c.version)]

end Call

inductive Failure where
  | plain (message : String)
  | coded (message : String) (code : Option Int)
  | other (v : Value)

namespace Failure

def of (message : String) : Failure := .coded message none

/-- The message of a failure; the JSON text of what is no message. -/
def text : Failure → String
  | .plain s => s
  | .coded s _ => s
  | .other v => v.text

/-- Reads an object with a message and possibly a code. -/
def readCoded : Reader Failure
  | depth, .object members =>
    match Fields.of? ["message", "code"] depth (.object members) with
    | none => none
    | some fs =>
      match fs.required "message" Reader.string,
        fs.defaulted "code" (Reader.nullable (Reader.int leastInt greatestSigned)) none with
      | some message, some code => some (.coded message code)
      | _, _ => none
  | _, _ => none

/-- Reads a failure: a string, else an object with a message, else anything. -/
def reader : Reader Failure := Reader.buffered fun depth t =>
  match t with
  | .string (some s) => some (.plain s)
  | t =>
    match readCoded depth t with
    | some f => some f
    | none => (t.value? depth).map .other

def json : Failure → List Char
  | .plain s => quote s
  | .coded s code => record (("message", quote s) :: (code.toList.map fun n => ("code", writeInt n)))
  | .other v => v.write

end Failure

structure Reply where
  result : Option Value
  failure : Option Failure
  id : Option Value
  deriving Inhabited

namespace Reply

def success (v : Value) : Reply := ⟨some v, none, none⟩

def failed (message : String) : Reply := ⟨none, some (.of message), none⟩

def withId (r : Reply) (id : Option Value) : Reply := { r with id }

/-- Reads a reply; every member may be null or missing. -/
def reader : Reader Reply := fun depth t =>
  match Fields.of? ["result", "error", "id"] depth t with
  | none => none
  | some fs =>
    match fs.defaulted "result" (Reader.nullable Reader.value) none,
      fs.defaulted "error" (Reader.nullable Failure.reader) none,
      fs.defaulted "id" (Reader.nullable Reader.value) none with
    | some result, some failure, some id => some ⟨result, failure, id⟩
    | _, _, _ => none

/-- The JSON text of a reply; absent members are left out. -/
def text (r : Reply) : String :=
  String.ofList <| record <|
    (r.result.toList.map fun v => ("result", v.write))
      ++ (r.failure.toList.map fun f => ("error", f.json))
      ++ (r.id.toList.map fun v => ("id", v.write))

/-- What came of the call: the message of a failure, or the result, null if there is none. -/
def outcome (r : Reply) : Except String Value :=
  match r.failure with
  | some f => .error f.text
  | none => .ok (r.result.getD .null)

end Reply
end EdgeWorker.Rpc
