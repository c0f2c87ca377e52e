import EdgeWorker.Proofs.Cache.Manifest
import EdgeWorker.Proofs.Keyed
import EdgeWorker.Route.Table

/-!
What a table of routes holds, whatever was registered in it.

* `addEach_eq` — the routes and the list of a table after routes were added one after another (`addAll_spec` for those of
  a manifest), which to add again changes nothing (`addAll_addAll`);
* `lookup_addEach_of_last`, `exists_of_lookup_addEach` — the last route of a path counts;
* `Lists` — the template of every route is to be cached;
* `Registration`, `registered_spec` — the table after any row of registrations.
-/

namespace EdgeWorker.Route

open EdgeWorker.Cache

namespace Table

variable {t : Table} {m : Manifest} {routes : List (String × Spec)} {path : String}

/-! ### Routes one after another -/

def addEach (t : Table) (routes : List (String × Spec)) : Table :=
  routes.foldl (fun t (declared, spec) => t.add declared spec) t

theorem addAll_eq_addEach (t : Table) (m : Manifest) : t.addAll m = t.addEach m.specs := rfl

theorem addEach_append (t : Table) (routes more : List (String × Spec)) :
    t.addEach (routes ++ more) = (t.addEach routes).addEach more := List.foldl_append

def entriesOf (t : Table) (routes : List (String × Spec)) : List (String × Descriptor) :=
  routes.map fun r => (t.scope.routeKey r.1, t.describe r.2)

def templatesIn (t : Table) (routes : List (String × Spec)) : List String :=
  routes.filterMap fun r => (t.describe r.2).templatePath

/-- What is added does not depend on the routes that are there. -/
theorem addEach_eq (t : Table) (routes : List (String × Spec)) : t.addEach routes =
    { t with
      routes := t.routes.putAll (t.entriesOf routes)
      manifest := t.manifest.insertAll (t.templatesIn routes) } := by
  induction routes generalizing t with
  | nil => rfl
  | cons r routes ih =>
    have htemplates : t.templatesIn (r :: routes) = (t.describe r.2).templatePath.toList ++ t.templatesIn routes := by
      unfold templatesIn
      rw [List.filterMap_cons]
      cases (t.describe r.2).templatePath <;> rfl
    rw [htemplates, Manifest.insertAll_append]
    exact ih (t.add r.1 r.2)

/-- To add the same routes again changes nothing. -/
theorem addEach_addEach (t : Table) (routes : List (String × Spec)) : (t.addEach routes).addEach routes = t.addEach routes := by
  rw [addEach_eq t routes, addEach_eq]
  congr 1
  · exact Keyed.putAll_putAll t.routes (t.entriesOf routes)
  · exact Manifest.insertAll_insertAll t.manifest (t.templatesIn routes)

theorem addAll_addAll (t : Table) (m : Manifest) : (t.addAll m).addAll m = t.addAll m := t.addEach_addEach m.specs

/-! ### What is found -/

theorem scope_addEach (t : Table) (routes : List (String × Spec)) : (t.addEach routes).scope = t.scope := by
  rw [addEach_eq]

theorem describe_addEach (t : Table) (routes : List (String × Spec)) : (t.addEach routes).describe = t.describe := by
  rw [addEach_eq]
  rfl

theorem lookup_addEach (t : Table) (routes : List (String × Spec)) (path : String) :
    (t.addEach routes).lookup path = ((Keyed.ofList (t.entriesOf routes)).get? path).or (t.lookup path) := by
  rw [addEach_eq]
  exact Keyed.get?_putAll _ _ _

/-- A path that no added route has is answered as before. -/
theorem lookup_addEach_of_forall_ne (h : ∀ r ∈ routes, t.scope.routeKey r.1 ≠ path) :
    (t.addEach routes).lookup path = t.lookup path := by
  have hnone : path ∉ (t.entriesOf routes).map Prod.fst := by
    rw [entriesOf, List.map_map]
    intro hmem
    obtain ⟨r, hr, he⟩ := List.mem_map.1 hmem
    exact h r hr he
  rw [lookup_addEach, Keyed.get?_ofList_eq_none hnone, Option.none_or]

/-- The last route of a path counts. -/
theorem lookup_addEach_of_last {before after : List (String × Spec)} {r : String × Spec}
    (hafter : ∀ r' ∈ after, t.scope.routeKey r'.1 ≠ t.scope.routeKey r.1) :
    (t.addEach (before ++ r :: after)).lookup (t.scope.routeKey r.1) = some (t.describe r.2) := by
  have hput : (t.addEach (before ++ [r])).lookup (t.scope.routeKey r.1) = some (t.describe r.2) := by
    rw [addEach_append, ← scope_addEach t before, ← describe_addEach t before]
    exact Keyed.get?_put_self _ _ _
  rw [List.append_cons, addEach_append, lookup_addEach_of_forall_ne, hput]
  rw [scope_addEach]
  exact hafter

/-- What is found was added, or was there before. -/
theorem exists_of_lookup_addEach {d : Descriptor} (h : (t.addEach routes).lookup path = some d) :
    (∃ r ∈ routes, t.scope.routeKey r.1 = path ∧ t.describe r.2 = d) ∨ t.lookup path = some d := by
  rw [lookup_addEach, Option.or_eq_some_iff] at h
  refine h.imp (fun hget => ?_) And.right
  obtain ⟨r, hr, he⟩ := List.mem_map.1 (Keyed.mem_of_get?_ofList hget)
  exact ⟨r, hr, congrArg Prod.fst he, congrArg Prod.snd he⟩

theorem isSome_lookup_addEach_of_mem {r : String × Spec} (hr : r ∈ routes) :
    ((t.addEach routes).lookup (t.scope.routeKey r.1)).isSome := by
  have hkey : t.scope.routeKey r.1 ∈ (t.addEach routes).routes.keys := by
    rw [addEach_eq]
    refine Keyed.mem_keys_putAll.2 (.inr ?_)
    rw [entriesOf, List.map_map]
    exact List.mem_map_of_mem hr
  exact Keyed.mem_keys.1 hkey

/-! ### What is to be cached -/

theorem mem_templatesOf : path ∈ t.templatesOf m ↔ ∃ spec ∈ m.specs, (t.describe spec.2).templatePath = some path := by
  unfold templatesOf
  rw [Manifest.mem_ofPaths, List.mem_filterMap]

theorem slash_mem_of_templatePath {spec : Spec} (h : (t.describe spec).templatePath = some path) : '/' ∈ path.toList := by
  obtain ⟨file, -, rfl⟩ := Option.map_eq_some_iff.1 h
  unfold templatePath
  simp

theorem slash_mem_of_templatesOf (h : path ∈ t.templatesOf m) : '/' ∈ path.toList := by
  obtain ⟨spec, -, hspec⟩ := mem_templatesOf.1 h
  exact slash_mem_of_templatePath hspec

theorem mem_paths_addEach : path ∈ (t.addEach routes).manifest.paths ↔
    path ∈ t.manifest.paths ∨ ∃ r ∈ routes, (t.describe r.2).templatePath = some path := by
  rw [addEach_eq, Manifest.mem_insertAll, templatesIn, List.mem_filterMap]

/-- With the routes of a manifest a table has the same scope, and its templates are to be cached too. -/
theorem addAll_spec (t : Table) (m : Manifest) : (t.addAll m).scope = t.scope ∧ (t.addAll m).templateDir = t.templateDir ∧
    ∀ path, path ∈ (t.addAll m).manifest.paths ↔ path ∈ t.manifest.paths ∨ path ∈ t.templatesOf m := by
  simp only [mem_templatesOf]
  refine ⟨t.scope_addEach m.specs, ?_, fun path => mem_paths_addEach⟩
  rw [addAll_eq_addEach, addEach_eq]

/-- The template of every route is to be cached. -/
def Lists (t : Table) : Prop :=
  ∀ key d path, t.lookup key = some d → d.templatePath = some path → path ∈ t.manifest.paths ∧ '/' ∈ path.toList

theorem Lists.addEach (h : t.Lists) (routes : List (String × Spec)) : (t.addEach routes).Lists := by
  intro key d path hd hpath
  rw [mem_paths_addEach]
  rcases exists_of_lookup_addEach hd with ⟨r, hr, -, rfl⟩ | hd
  · exact ⟨.inr ⟨r, hr, hpath⟩, slash_mem_of_templatePath hpath⟩
  · exact (h key d path hd hpath).imp_left .inl

theorem Lists.addAll (h : t.Lists) (m : Manifest) : (t.addAll m).Lists := h.addEach m.specs

/-! ### Tables without routes at first -/

variable {scope : Scope} {dir : String} {assets : Cache.Manifest}

theorem lookup_empty (scope : Scope) (dir : String) (assets : Cache.Manifest) (path : String) :
    (Table.empty scope dir assets).lookup path = none := rfl

theorem lists_empty (scope : Scope) (dir : String) (assets : Cache.Manifest) : (Table.empty scope dir assets).Lists := by
  intro key d path hd
  rw [lookup_empty] at hd
  cases hd

theorem isSome_lookup_addEach_empty :
    (((Table.empty scope dir assets).addEach routes).lookup path).isSome ↔ ∃ r ∈ routes, path = scope.routeKey r.1 := by
  constructor
  · intro h
    obtain ⟨d, hd⟩ := Option.isSome_iff_exists.1 h
    rcases exists_of_lookup_addEach hd with ⟨r, hr, hkey, -⟩ | hnone
    · exact ⟨r, hr, hkey.symm⟩
    · rw [lookup_empty] at hnone
      cases hnone
  · rintro ⟨r, hr, rfl⟩
    exact isSome_lookup_addEach_of_mem hr

end Table

/-! ### Registrations -/

/-- What is registered in a table: one route, or those of a manifest. -/
inductive Registration where
  | route (declared : String) (spec : Spec)
  | manifest (m : Manifest)

def Registration.routes : Registration → List (String × Spec)
  | route declared spec => [(declared, spec)]
  | manifest m => m.specs

namespace Table

def register (t : Table) : Registration → Table
  | .route declared spec => t.add declared spec
  | .manifest m => t.addAll m

def registerAll (t : Table) (rs : List Registration) : Table := rs.foldl register t

/-- It does not matter which routes were registered together. -/
theorem registerAll_eq_addEach (t : Table) (rs : List Registration) :
    t.registerAll rs = t.addEach (rs.flatMap Registration.routes) := by
  unfold registerAll
  induction rs generalizing t with
  | nil => rfl
  | cons r rs ih =>
    have hr : t.register r = t.addEach r.routes := by cases r <;> rfl
    rw [List.foldl_cons, ih, hr, List.flatMap_cons, addEach_append]

/-- After any registrations, a path is found if it is that of a registered route, and the last route of the path counts.
The assets and the templates of all routes are listed in the order in which they came first, and each of them once; among
them is the template of every route that is found. To register a manifest again changes nothing. -/
theorem registered_spec (scope : Scope) (dir : String) (assets : List String) (rs : List Registration) :
    let start := Table.empty scope dir (.ofPaths assets)
    let t := start.registerAll rs
    let routes := rs.flatMap Registration.routes
    (∀ path, (t.lookup path).isSome ↔
      ∃ r ∈ routes, path = scope.basePath ++ String.ofList (r.1.toList.dropWhile (· == '/'))) ∧
    (∀ before r after, routes = before ++ r :: after → (∀ r' ∈ after, scope.routeKey r'.1 ≠ scope.routeKey r.1) →
      t.lookup (scope.routeKey r.1) = some (start.describe r.2)) ∧
    t.manifest.paths = (assets ++ routes.filterMap fun r => (start.describe r.2).templatePath).eraseDups ∧
    t.manifest.paths.Nodup ∧
    (∀ path d template, t.lookup path = some d → d.templatePath = some template → t.manifest.contains template = true) ∧
    ∀ m, (t.addAll m).addAll m = t.addAll m := by
  intro start t routes
  have ht : t = start.addEach routes := start.registerAll_eq_addEach rs
  have hpaths : t.manifest = .ofPaths (assets ++ routes.filterMap fun r => (start.describe r.2).templatePath) := by
    rw [ht, addEach_eq]
    exact (Manifest.insertAll_append _ _ _).symm
  refine ⟨fun path => ?_, fun before r after hroutes hafter => ?_, ?_, ?_, fun path d template hd htemplate => ?_,
    t.addAll_addAll⟩
  · rw [ht]
    exact isSome_lookup_addEach_empty
  · rw [ht, hroutes]
    exact lookup_addEach_of_last hafter
  · rw [hpaths, Manifest.paths_ofPaths]
  · rw [hpaths]
    exact Manifest.nodup_paths_ofPaths _
  · have hlists : t.Lists := ht ▸ (lists_empty scope dir _).addEach routes
    exact List.contains_iff_mem.2 (hlists path d template hd htemplate).1

def appScope : Scope := ⟨⟨"https", some ⟨"", none, "e.c", none⟩, .segments ["app", ""], none, none⟩⟩

/-- A route, and a manifest with a route that takes its path. -/
def colliding : List Registration :=
  [.route "tasks" ⟨none, none, some "a"⟩, .manifest (.ofList [("/tasks", .compact "f@p=>b"), ("x", .compact "=>a")])]

/-- The later route is found, and the templates of both are listed. -/
theorem registered_spec_of_colliding : let t := (Table.empty appScope "t/" (.ofPaths ["i", "t/b", "i"])).registerAll colliding
    t.lookup "/app/tasks" = some ⟨some "t/b", some "p", some "f"⟩ ∧ t.manifest.paths = ["i", "t/b", "t/a"] ∧
      t.manifest.contains "t/b" = true := by
  obtain ⟨-, hlast, hpaths, -, hlisted, -⟩ := registered_spec appScope "t/" ["i", "t/b", "i"] colliding
  have hlookup := hlast [("tasks", ⟨none, none, some "a"⟩)] ("/tasks", Entry.spec (.compact "f@p=>b"))
    [("x", Entry.spec (.compact "=>a"))] rfl (by decide +kernel)
  have hfound : (Table.empty appScope "t/" (.ofPaths ["i", "t/b", "i"])).describe (Entry.spec (.compact "f@p=>b")) =
      ⟨some "t/b", some "p", some "f"⟩ := by decide +kernel
  rw [hfound] at hlookup
  exact ⟨hlookup, hpaths.trans (by decide +kernel), hlisted _ _ _ hlookup rfl⟩

end Table
end EdgeWorker.Route
