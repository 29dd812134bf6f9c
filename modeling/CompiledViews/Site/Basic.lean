import CompiledViews.Controller.Registry
import CompiledViews.Directive.Capability
import CompiledViews.Site.Error

/-!
# Sites

A site stands between a host, which is about to include template files, and an engine, which renders
views by name. Its own part is fixed once it has begun; what changes in the course of requests is
the state of the engine, what the host does, and which capabilities are available.
-/

namespace CompiledViews

/-- What a site asks of an engine, whatever its state is. -/
structure Renderer (σ : Type) where
  /-- Renders a view with data. -/
  render : Capabilities → Text → ViewData → StateT σ (StateM Disk) (Except RenderError Text)
  /-- Whether a view can be loaded and parsed. -/
  compiles : Capabilities → Text → StateT σ (StateM Disk) Bool
  /-- Declares all that is kept of views to be out of date. -/
  invalidate : StateT σ (StateM Disk) Unit

/-- What a host changes in the course of rendering. -/
structure Hooks where
  /-- The name of the view to be rendered, given the one asked for and the data. -/
  template : Text → ViewData → Text
  /-- The data to render it with. -/
  arguments : ViewData → Text → ViewData
  /-- The page, given what has been rendered. -/
  html : Text → Text → ViewData → Text
  /-- Whether the artifact of a source is made again in any case. -/
  force : Path → Bool

def Hooks.none : Hooks := ⟨fun name _ ↦ name, fun data _ ↦ data, fun html _ _ ↦ html, fun _ ↦ false⟩

/-- The host of a site. -/
structure Host where
  /-- Whether it wants requests to be handled at all. -/
  active : Bool
  /-- Why it does not take pages at present, if it does not. -/
  refusal? : Option IoFault
  /-- The pages it has taken, in order. -/
  received : List Text
  deriving DecidableEq

/-- A host that takes pages and has none so far. -/
def Host.ready : Host := ⟨true, none, []⟩

def Host.emit (host : Host) (page : Text) : Except IoFault Host :=
  match host.refusal? with
  | some fault => .error fault
  | none => .ok { host with received := host.received ++ [page] }

/-- The part of a site that is fixed. -/
structure Site (σ : Type) where
  /-- Only what lies below this directory is rendered. -/
  root : Path
  /-- Whether artifacts are made again on every request. -/
  force : Bool
  cache : ViewCache
  controllers : ControllerRegistry
  renderer : Renderer σ
  hooks : Hooks

/-- What changes in the course of requests. -/
structure SiteState (σ : Type) where
  engine : σ
  host : Host
  capabilities : Capabilities
  /-- The controllers that have been asked for data, in order. -/
  asked : List Controller

/-- Something done with a site and a disk. -/
abbrev SiteAction (σ α : Type) := ExceptT SiteError (StateT (SiteState σ) (StateM Disk)) α

/-- How a site shows itself. -/
def Site.summary {σ : Type} (site : Site σ) : Text :=
  "RenderPipeline \x7b template_root: ".toList ++ Text.quoted site.root.spelling ++
    ", force_recompile: ".toList ++ (if site.force then "true" else "false").toList ++
    ", controllers: ".toList ++ site.controllers.summary ++ ", .. \x7d".toList

end CompiledViews
