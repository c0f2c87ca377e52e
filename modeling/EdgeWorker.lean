import EdgeWorker.Main
import EdgeWorker.Host.Memory
import EdgeWorker.Rpc.Dispatch
import EdgeWorker.Text.Quoted
import EdgeWorker.Worker.Serve
import EdgeWorker.Proofs.Template.Session
import EdgeWorker.Proofs.Host.Storage
import EdgeWorker.Proofs.Template.Cycle
import EdgeWorker.Proofs.Template.Ledger
import EdgeWorker.Proofs.Template.History
import EdgeWorker.Proofs.Template.Served
import EdgeWorker.Proofs.Json.Literal
import EdgeWorker.Proofs.Json.Written
import EdgeWorker.Proofs.Cache.Entry
import EdgeWorker.Proofs.Cache.Contents
import EdgeWorker.Proofs.Cache.Key
import EdgeWorker.Proofs.Cache.Persistent
import EdgeWorker.Proofs.Cache.Agreement
import EdgeWorker.Proofs.Cache.Undo
import EdgeWorker.Proofs.Cache.Rollback
import EdgeWorker.Proofs.Cache.Frame
import EdgeWorker.Proofs.Cache.Isolation
import EdgeWorker.Proofs.Cache.Writers
import EdgeWorker.Proofs.Cache.Current
import EdgeWorker.Proofs.Cache.Marker
import EdgeWorker.Proofs.Route.Load
import EdgeWorker.Proofs.Worker.Answer
import EdgeWorker.Proofs.Worker.Lifecycle
import EdgeWorker.Proofs.Worker.Stages
import EdgeWorker.Proofs.Worker.Visit
import EdgeWorker.Proofs.Worker.Deployment
import EdgeWorker.Proofs.Worker.Ready
import EdgeWorker.Proofs.Worker.Mark
import EdgeWorker.Proofs.Cache.Install
import EdgeWorker.Proofs.Cache.Pruning
import EdgeWorker.Proofs.Worker.Transparency
import EdgeWorker.Proofs.Route.Spec
import EdgeWorker.Proofs.Route.Grammar
import EdgeWorker.Proofs.Route.Loading
import EdgeWorker.Proofs.Rpc.Dispatched
import EdgeWorker.Proofs.Rpc.Reply
import EdgeWorker.Proofs.Rpc.Routes
import EdgeWorker.Proofs.Worker.Deed
import EdgeWorker.Proofs.Worker.Failure
import EdgeWorker.Proofs.Cache.Deletion
import EdgeWorker.Proofs.Rpc.Classified
import EdgeWorker.Proofs.Params
import EdgeWorker.Proofs.Cache.Storing
import EdgeWorker.Proofs.Cache.Listing
import EdgeWorker.Proofs.Template.Occurrence
import EdgeWorker.Proofs.Worker.Upstream
import EdgeWorker.Proofs.Log.Lines
