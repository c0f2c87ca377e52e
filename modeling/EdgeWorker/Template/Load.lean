import EdgeWorker.Keyed
import EdgeWorker.Template.Error
import EdgeWorker.Template.Reader
import EdgeWorker.Template.Reference

/-!
Loading a template. Its source is read from the cache or else fetched, and the partials it refers
to are fetched and registered depth first, so that a partial is registered after those it refers to
itself. A load stops at every question to its surroundings, and other loads over the same library
may go on in the meantime.
-/

namespace EdgeWorker.Template

/-- The compiled templates and partials by name, the paths whose templates are complete, and the
names of the partials that are. -/
structure Library where
  registry : Keyed String Template
  compiled : List String
  loaded : List String

namespace Library

def empty : Library := ⟨Keyed.empty, [], []⟩

def isCompiled (l : Library) (path : String) : Bool := l.compiled.contains path

def isLoaded (l : Library) (name : String) : Bool := l.loaded.contains name

def addPartial (l : Library) (name source : String) : Except Error Library :=
  match ofText? source with
  | some t => .ok { l with registry := l.registry.put name t, loaded := name :: l.loaded }
  | none => .error (.malformed name)

def addTemplate (l : Library) (path source : String) : Except Error Library :=
  match ofText? source with
  | some t => .ok { l with registry := l.registry.put path t, compiled := path :: l.compiled }
  | none => .error (.malformed path)

end Library

/-- A source whose references are being followed: its name, unless it is the template itself, and
the references that are left. -/
structure Frame where
  name : Option String
  source : String
  pending : List String
  deriving DecidableEq

def Frame.of (name : Option String) (source : String) : Frame := ⟨name, source, partialNames source⟩

/-- The names on the way to where a load is, outermost first. -/
def chainOf (frames : List Frame) : List String := frames.reverse.filterMap Frame.name

/-- What happened to the library. -/
inductive Event where
  | partialRegistered (name : String)
  | templateCompiled (path : String)
  deriving DecidableEq

/-- Where the frames of a load lead to. -/
inductive Progress where
  /-- A partial has to be fetched. -/
  | needs (name : String) (frames : List Frame)
  | failed (e : Error)
  | complete

/-- The number of steps that frames take at most. -/
def workOf : List Frame → Nat
  | [] => 0
  | f :: frames => f.pending.length + 1 + workOf frames

/-- Follows references until a partial has to be fetched, innermost frame first. A frame without
references left is registered. -/
def Library.settle (l : Library) : List Frame → Library × List Event × Progress
  | [] => (l, [], .complete)
  | ⟨none, _, []⟩ :: frames => l.settle frames
  | ⟨some name, source, []⟩ :: frames =>
    match l.addPartial name source with
    | .error e => (l, [], .failed e)
    | .ok l =>
      let (l, events, progress) := l.settle frames
      (l, .partialRegistered name :: events, progress)
  | ⟨owner, source, name :: pending⟩ :: frames =>
    let here := ⟨owner, source, pending⟩ :: frames
    if here.any fun f => f.name = some name then (l, [], .failed (.cycle (chainOf here ++ [name])))
    else if l.isLoaded name then l.settle here
    else (l, [], .needs name here)
termination_by frames => workOf frames
decreasing_by all_goals (simp only [workOf, List.length_cons, List.length_nil]; omega)

/-- A load, by what it waits for. -/
inductive Load where
  /-- The entry of the cache for the path. -/
  | atCache (path : String)
  /-- The source at the path. -/
  | atNetwork (path : String)
  /-- A partial that the template with this source needs. -/
  | atPart (path source name : String) (frames : List Frame)
  /-- Nothing more. -/
  | done (outcome : Except Error Unit)

namespace Load

/-- A load of a path. A template that is complete is not loaded again. -/
def begin (l : Library) (path : String) : Load :=
  if l.isCompiled path then .done (.ok ()) else .atCache path

/-- Goes on with the frames of a source, and registers the template when they are done. -/
def advance (l : Library) (path source : String) (frames : List Frame) : Library × List Event × Load :=
  match l.settle frames with
  | (l, events, .needs name frames) => (l, events, .atPart path source name frames)
  | (l, events, .failed e) => (l, events, .done (.error e))
  | (l, events, .complete) =>
    match l.addTemplate path source with
    | .ok l => (l, events ++ [.templateCompiled path], .done (.ok ()))
    | .error e => (l, events, .done (.error e))

def withSource (l : Library) (path source : String) : Library × List Event × Load :=
  advance l path source [Frame.of none source]

def afterCache (l : Library) (path : String) :
    Except Error (Option String) → Library × List Event × Load
  | .error e => (l, [], .done (.error e))
  | .ok none => (l, [], .atNetwork path)
  | .ok (some source) => withSource l path source

def afterSource (l : Library) (path : String) : Except Error String → Library × List Event × Load
  | .error e => (l, [], .done (.error e))
  | .ok source => withSource l path source

def afterPart (l : Library) (path source name : String) (frames : List Frame) :
    Except Error String → Library × List Event × Load
  | .error e => (l, [], .done (.error e))
  | .ok text => advance l path source (Frame.of (some name) text :: frames)

end Load

/-- Surroundings of loads: what the cache has for a path, what the network has for it, and the path
of a partial. -/
structure Site where
  cached : String → Except Error (Option String)
  fetched : String → Except Error String
  partialPath : String → String

/-- One step of a load, up to its next question. -/
def Load.step (site : Site) (l : Library) : Load → Library × List Event × Load
  | .atCache path => afterCache l path (site.cached path)
  | .atNetwork path => afterSource l path (site.fetched path)
  | .atPart path source name frames =>
    afterPart l path source name frames (site.fetched (site.partialPath name))
  | .done outcome => (l, [], .done outcome)

end EdgeWorker.Template
