import EdgeWorker.Action
import EdgeWorker.Cache.Storage
import EdgeWorker.Log.Record
import EdgeWorker.Route.Manifest
import EdgeWorker.Rpc.Envelope

/-!
The other side of remote calls: a call is handed to the handler of its method, provided that a
route names the method. There is a reply to every body.
-/

namespace EdgeWorker.Rpc

open EdgeWorker.Json

/-- How a handler ends. -/
inductive Outcome where
  | returned (result : Value)
  | failed (message : String)
  /-- The handler broke down. -/
  | panicked

/-- What a dispatcher asks of its surroundings. -/
inductive DispatchQuestion where
  | log (record : Log.Record)
  /-- To run the handler of a method. -/
  | handle (method : String) (params : Value)

abbrev DispatchAnswer : DispatchQuestion → Type
  | .log _ => Unit
  | .handle _ _ => Outcome

/-- A computation of a dispatcher. -/
abbrev Dispatch := Action DispatchQuestion DispatchAnswer

/-- A dispatcher: the path of each method that a route names, and the methods that have a handler. -/
structure Dispatcher where
  routes : Keyed String String
  handled : List String

namespace Dispatcher

/-- The routes with one more, unless they have its method. -/
def addRoute (routes : Keyed String String) (s : Route.Spec) : Keyed String String :=
  match s.rpcFunction, s.rpcPath with
  | some function, some path => routes.alter function fun first => first.getD path
  | _, _ => routes

/-- The dispatcher of a manifest, without handlers. The first route of a method counts. -/
def ofManifest (m : Route.Manifest) : Dispatcher :=
  ⟨(m.specs.map Prod.snd).foldl addRoute Keyed.empty, []⟩

/-- The dispatcher with a handler for a method. -/
def register (d : Dispatcher) (method : String) : Dispatcher := { d with handled := method :: d.handled }

/-- The path of the route that names a method. -/
def routeFor (d : Dispatcher) (method : String) : Option String := d.routes.get? method

/-- The methods that routes name, sorted. -/
def methods (d : Dispatcher) : List String := Cache.sorted d.routes.keys

end Dispatcher

def invalidRequest : String := "Invalid request"

def routeNotFound : String := "Route not found"

def methodNotFound : String := "Method not found"

/-- The method and the parameters of a call; parameters may be anything but null. -/
def callOf? (body : Value) : Option (String × Value) :=
  match (body.member? "method").bind Value.string?, body.member? "params" with
  | some _, some .null => none
  | some method, some params => some (method, params)
  | _, _ => none

/-- What a handler is given: the sole element of an array of one, else the parameters themselves. -/
def argument : Value → Value
  | .array [v] => v
  | v => v

/-- The reply to a call of a method whose handler has ended. -/
def Outcome.reply (method : String) : Outcome → Reply
  | returned result => .success result
  | failed message => .failed message
  | panicked => .failed s!"{method} panicked"

/-- The record of a handler that has ended. -/
def Outcome.record (method : String) : Outcome → Log.Record
  | returned result =>
    ⟨.info, Log.rpcTarget, "RPC call succeeded",
      [("method", .string method), ("result", .string result.text)]⟩
  | failed message =>
    ⟨.error, Log.rpcTarget, "RPC handler failed", [("method", .string method), Log.errorField message]⟩
  | panicked => ⟨.error, Log.rpcTarget, "RPC handler panicked", [("method", .string method)]⟩

namespace Dispatcher

def report (level : Log.Level) (message : String) (fields : List (String × String)) : Dispatch Unit :=
  let record : Log.Record := ⟨level, Log.rpcTarget, message, fields.map fun (k, v) => (k, .string v)⟩
  Action.question (DispatchQuestion.log record)

/-- Runs the handler of a method. -/
def handle (method : String) (params : Value) : Dispatch Outcome :=
  Action.question (DispatchQuestion.handle method params)

/-- The reply to a call of a method. -/
def reply (d : Dispatcher) (method : String) (params : Value) : Dispatch Reply := do
  report .info "RPC request received" [("method", method), ("params", params.text)]
  let some path := d.routeFor method
    | report .error "route not found for method" [("method", method)]
      return .failed routeNotFound
  report .info "route matched" [("method", method), ("rpc_path", path)]
  if !d.handled.contains method then
    report .error "method not found" [("method", method)]
    return .failed methodNotFound
  let outcome ← handle method (argument params)
  Action.question (DispatchQuestion.log (outcome.record method))
  return outcome.reply method

/-- The reply to a body. The identifier of a call is that of its reply. -/
def dispatch (d : Dispatcher) (body : Bytes) : Dispatch Reply := do
  match Value.ofBytes? body with
  | none =>
    report .error "invalid RPC request body" []
    return .failed invalidRequest
  | some request =>
    let id := request.member? "id"
    match callOf? request with
    | none =>
      report .error "invalid RPC request" [("request", request.text)]
      return (Reply.failed invalidRequest).withId id
    | some (method, params) => return (← d.reply method params).withId id

def dispatchBytes (d : Dispatcher) (body : Bytes) : Dispatch Bytes := do
  return Text.bytes (← d.dispatch body).text

end Dispatcher
end EdgeWorker.Rpc
