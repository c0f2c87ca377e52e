import EdgeWorker.Cache.Error
import EdgeWorker.Template.View

/-!
What goes wrong between a template's path and its page.
-/

namespace EdgeWorker.Template

/-- Why a source cannot be had. -/
inductive SourceFault where
  | cache (e : Cache.Error)
  | address (e : Url.UrlError)
  | fetch (e : Fetch.Error)
  deriving DecidableEq

def SourceFault.message : SourceFault → String
  | .cache e => e.message
  | .address e => e.message
  | .fetch e => e.message

/-- Why there is no page. -/
inductive Error where
  /-- The source at a path cannot be had. -/
  | source (path : String) (fault : SourceFault)
  /-- The answer at a path is not that of a success. -/
  | status (path : String) (status : Http.Status)
  /-- The source of a template or a partial is none. -/
  | malformed (name : String)
  | render (name : String) (fault : Fault)
  /-- A partial includes itself; the names of the partials on the way there. -/
  | cycle (chain : List String)
  /-- No error of a worker: the load was cut off by the bound on its steps that makes it end. It would
  have gone on. -/
  | endless (path : String)
  deriving DecidableEq

def Error.message : Error → String
  | .source path fault => s!"failed to load {path}: {fault.message}"
  | .status path s => s!"{path} answered with status {s.code}"
  | .malformed name => s!"failed to compile {name}: malformed template"
  | .render name fault => s!"failed to render {name}: {fault.message}"
  | .cycle chain => "partial inclusion cycle: " ++ String.intercalate " -> " chain
  | .endless _ => ""

end EdgeWorker.Template
