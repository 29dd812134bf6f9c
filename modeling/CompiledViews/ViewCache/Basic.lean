import CompiledViews.Disk.Change
import CompiledViews.ViewName

/-!
# The view cache

Before a template is rendered its source is copied into the view cache, where the engine finds it
under a name: `{root}/home.html` becomes the artifact `{views}/cache/home.jinja` with the render
name `cache/home`. The copy is made again when the source may have changed since.

An artifact is never older than its source: when a source is dated after the moment of copying, the
artifact takes over that date. As long as such a date is not reached every check finds the artifact
expired, which costs time and never freshness.
-/

namespace CompiledViews

/-- The first segment of the render names of artifacts, and the name of their directory. -/
def cacheNamespace : Text := "cache".toList

/-- Where artifacts and compiled output are kept. -/
structure ViewCache where
  /-- The directory of the artifacts. -/
  directory : Path
  /-- The directory of the engine's compiled output. -/
  outputs : Path

/-- Why the view cache could not do its work. -/
inductive ViewCacheError
  /-- A directory of the cache could not be created. -/
  | directory (path : Path) (fault : IoFault)
  /-- A source or an artifact could not be read or written. -/
  | io (path : Path) (fault : IoFault)
  /-- The path has no name to take a view id from. -/
  | noViewId (path : Path)
  deriving DecidableEq

def ViewCacheError.message (wording : Wording) : ViewCacheError → String
  | directory path fault => s!"Failed to create cache directory {path.toString}: {wording.io fault}"
  | io path fault => s!"I/O error on {path.toString}: {wording.io fault}"
  | noViewId path => s!"Cannot derive a view identifier from {path.toString}"

/-- A template that is to be rendered. -/
structure TemplateSource where
  path : Path
  viewId : Text
  modified : Time

/-- The copy of a source in the view cache. -/
structure Artifact where
  /-- The name under which the engine renders it. -/
  renderName : Text
  path : Path
  modified : Time
  content : ByteArray

/-- What a check of an artifact found. -/
structure CacheCheck where
  viewId : Text
  renderName : Text
  /-- Whether the artifact was written in the course of the check. -/
  refreshed : Bool
  deriving DecidableEq

/-- The name under which the engine renders the artifact of a view. -/
def renderName (viewId : Text) : Text := cacheNamespace ++ '/' :: viewId

/-- The view id that the source's path has to have. -/
def requireViewId (source : Path) : Except ViewCacheError Text :=
  match source.viewId? with
  | some viewId => .ok viewId
  | none => .error (.noViewId source)

/-- Whether something made of a source has to be made again. Times that are equal do not tell which
came first, so they count as expired. -/
def isExpired (source target : Time) : Bool := target ≤ source

def modifiedAt (path : Path) (disk : Disk) : Except ViewCacheError Time :=
  (disk.modified path).mapError (.io path)

def TemplateSource.ofPath (path : Path) (disk : Disk) : Except ViewCacheError TemplateSource := do
  let viewId ← requireViewId path
  return ⟨path, viewId, ← modifiedAt path disk⟩

namespace ViewCache

open Disk

/-- Creates the cache's directories where they are missing. -/
def ensureDirectories (cache : ViewCache) : Action ViewCacheError Unit := do
  for directory in [cache.outputs, cache.directory] do
    if !(← get).isDirectory directory then
      (makeDirectories directory).adapt (.directory directory)

/-- Where the artifact of a view is. -/
def artifactPath (cache : ViewCache) (viewId : Text) : Path :=
  cache.directory.join ⟨viewId ++ '.' :: artifactExtension⟩

/-- Whether the artifact of a source is missing or may be older than the source. -/
def isStale (cache : ViewCache) (source : Path) (disk : Disk) : Except ViewCacheError Bool := do
  let artifact := cache.artifactPath (← requireViewId source)
  match disk.modified artifact with
  | .ok written => return isExpired (← modifiedAt source disk) written
  | .error .notFound => return true
  | .error fault => .error (.io artifact fault)

/-- Copies a source to its artifact, byte by byte, and answers the render name. -/
def refresh (cache : ViewCache) (source : Path) : Action ViewCacheError Text := do
  let viewId ← query fun _ ↦ requireViewId source
  let artifact := cache.artifactPath viewId
  let modified ← query (modifiedAt source)
  let content ← query fun disk ↦ (disk.read source).mapError (.io source)
  let written ← (draft cache.directory content).adapt (.io cache.directory)
  (publish { written with modified := max written.modified modified } artifact).adapt (.io artifact)
  return renderName viewId

/-- Refreshes the artifact of a source if it is stale or if that is forced. After a refresh, and
only then, `onRefresh` is done; its result comes with the answer. -/
def ensureFreshWith {β : Type} (cache : ViewCache) (source : Path) (force : Bool)
    (onRefresh : StateM Disk β) : Action ViewCacheError (CacheCheck × Option β) := do
  let viewId ← query fun _ ↦ requireViewId source
  let stale ← if force then pure true else query (cache.isStale source)
  if stale then
    let _ ← cache.refresh source
    let result ← onRefresh
    return (⟨viewId, renderName viewId, true⟩, some result)
  else return (⟨viewId, renderName viewId, false⟩, none)

/-- Refreshes the artifact of a source if it is stale or if that is forced. -/
def ensureFresh (cache : ViewCache) (source : Path) (force : Bool) :
    Action ViewCacheError CacheCheck := do
  return (← cache.ensureFreshWith source force (pure ())).1

/-- The artifact of a view, if there is one. -/
def artifact? (cache : ViewCache) (viewId : Text) (disk : Disk) :
    Except ViewCacheError (Option Artifact) :=
  let path := cache.artifactPath viewId
  match disk.read path with
  | .ok content => do
    return some ⟨renderName viewId, path, ← modifiedAt path disk, content⟩
  | .error .notFound => .ok none
  | .error fault => .error (.io path fault)

end ViewCache

end CompiledViews
