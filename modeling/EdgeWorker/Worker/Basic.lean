import EdgeWorker.Route.Load
import EdgeWorker.Template.Engine
import EdgeWorker.Worker.Error
import EdgeWorker.Worker.Phase

/-!
Workers: a configuration with a table of routes, an engine for pages, the current generation of a
cache, and the phase that the worker is in.
-/

namespace EdgeWorker

open EdgeWorker.Host EdgeWorker.Json

structure Worker where
  config : Config
  table : Route.Table
  engine : Template.Engine
  phase : Phase

namespace Worker

/-- A worker without routes. -/
def of (c : Config) : Except ConfigError Worker :=
  match Route.Table.ofConfig c with
  | .ok table => .ok ⟨c, table, .of ⟨table.scope, c.cacheName⟩ c.partialDir, .parsed⟩
  | .error e => .error e

def scope (w : Worker) : Scope := w.table.scope

def cache (w : Worker) : Cache.Current := w.engine.cache

def leastLevel (w : Worker) : Log.Level := (Log.Level.ofText w.config.logLevel).toOption.getD .info

/-- Loads the routes of the configuration; the number of declarations. -/
def loadRoutes (w : Worker) : Job (Nat × Worker) := do
  let (count, table) ← w.table.loadOrLog w.cache w.config.routesFile
  return (count, { w with table })

/-- The worker of a configuration with its routes. -/
def bootstrap (c : Config) : Attempt ConfigError Worker := do
  let (_, w) ← (← settled (of c)).loadRoutes
  return w

def enter (w : Worker) (phase : Phase) : Job Worker := do
  log ⟨.debug, Log.interceptorTarget, "worker phase changed", [("phase", .string phase.name)]⟩
  return { w with phase }

end Worker
end EdgeWorker
