import CompiledViews.Proofs.Site.Run

/-!
# What a request does to the next one

A request leaves nothing behind that another one could notice but an artifact and some outputs. So
when two requests come one after the other, the second is served as if the first had not been there,
unless both candidates have one view id: then they have one artifact too.

In that case the first request may put its source there, and what becomes of the second one is up to
dates alone. When its own source is not older than the artifact, it is served from its own source.
When it is older, that artifact passes for its own, and it gets what the first candidate got.

Others may do anything meanwhile but to touch artifacts and outputs. They need not date what they
edit by the clock: what is remembered of artifacts stays true all the same, since these only change
by renewals.
-/

namespace CompiledViews

open Template (Extensions)
open Disk

namespace Site

variable {site : Site ViewEngine} {directories : Directories} {plain : PlainEngine}
  {here : Location} {moment moment' moment'' : Moment ViewEngine} {asked : Text → Prop}
  {candidate other viewId : Text} {region : Location → Prop}

/-! ## Runs in which artifacts are left alone -/

/-- What others may do to the disk of a site: anything but to touch artifacts and outputs, as long
as both directories stay in place. -/
structure LeavesAlone (directories : Directories) (disk disk' : Disk) : Prop where
  spares : disk.Spares (fun l ↦ directories.viewCache.goal disk.here <+: l ∨
    directories.outputs.goal disk.here <+: l) disk'
  outputs : disk'.isDirectory directories.outputs = true
  artifacts : disk'.isDirectory directories.viewCache = true

/-- What stays true of a site in the course of such a run: both directories are in place, and what
the engine remembers of artifacts may be used. -/
structure Settled (directories : Directories) (plain : PlainEngine) (here : Location)
    (moment : Moment ViewEngine) : Prop where
  tended : Tended directories plain here moment
  outputs : moment.disk.isDirectory directories.outputs = true
  artifacts : moment.disk.isDirectory directories.viewCache = true
  faithful : ∀ viewId, '/' ∉ viewId → ViewEngine.Faithful moment.state.capabilities
    moment.state.engine moment.disk (renderName viewId)

namespace Settled

theorem start (plan : SitePlan) (f : Extensions → Extensions) (host : Host) {disk : Disk}
    (hwritten : ∀ l content time, plan.settings.directories.outputs.goal disk.here <+: l →
      disk.node? l = some (.file content time) → time ≤ disk.clock)
    (houtputs : disk.isDirectory plan.settings.directories.outputs = true)
    (hartifacts : disk.isDirectory plan.settings.directories.viewCache = true) :
    Settled plan.settings.directories (plan.plain f) disk.here
      ⟨plan.start (plan.fresh f disk.clock) host, disk⟩ where
  tended := tended_start plan f host hwritten plan.capabilities
  outputs := houtputs
  artifacts := hartifacts
  faithful _ _ := .of_expired rfl hwritten

/-- What is remembered of an artifact stays true when artifacts and outputs are spared. -/
theorem faithful_of_spares (h : Settled directories plain here moment) {disk : Disk}
    (hspares : moment.disk.Spares (fun l ↦ directories.viewCache.goal moment.disk.here <+: l ∨
      directories.outputs.goal moment.disk.here <+: l) disk) (hslash : '/' ∉ viewId) :
    ViewEngine.Faithful moment.state.capabilities moment.state.engine disk (renderName viewId) := by
  refine (h.faithful viewId hslash).of_kept hspares.here ?_ ?_
  · intro source hsource
    rw [ViewEngine.sourcePath?, h.tended.views] at hsource
    rw [Directories.goal_of_renderName hslash hsource]
    exact hspares.own _ (.inl (List.prefix_append _ _))
  · intro output houtput
    rw [ViewEngine.outputPath?, h.tended.outputs] at houtput
    rw [ViewName.goal_of_path? houtput]
    exact hspares.own _ (.inr (List.prefix_append _ _))

theorem move (h : Settled directories plain here moment) (hfits : site.Fits directories here)
    (hmove : Move site asked (LeavesAlone directories) False moment moment') :
    Settled directories plain here moment' where
  tended := by
    refine h.tended.move hfits (fun disk disk' hedit hhere ↦ ?_) hmove
    rw [← hhere]
    exact Spares.unwritten ⟨hedit.spares.here, hedit.spares.clock,
      fun l hl ↦ hedit.spares.own l (.inr hl)⟩
  outputs := hmove.isDirectory (fun _ _ hedit ↦ hedit.outputs) h.outputs
  artifacts := hmove.isDirectory (fun _ _ hedit ↦ hedit.artifacts) h.artifacts
  faithful := by
    intro viewId hslash
    cases hmove with
    | served _ hserved =>
      rw [hserved.capabilities]
      exact hserved.faithful _ (h.faithful viewId hslash)
    | waited => exact h.faithful_of_spares ⟨rfl, Nat.le_succ _, fun _ _ ↦ rfl⟩ hslash
    | renewed _ renewedId content modified =>
      exact h.tended.faithful_of_renewed hfits renewedId content modified _
    | host => exact h.faithful viewId hslash
    | switched _ hfalse => exact hfalse.elim
    | edited disk hedit => exact h.faithful_of_spares hedit.spares hslash

end Settled

theorem settled_of_run {start : Moment ViewEngine} (hfits : site.Fits directories here)
    (hstart : Settled directories plain here start)
    (hrun : Relation.ReflTransGen (Step site asked (LeavesAlone directories) False) start moment) :
    Settled directories plain here moment :=
  run_induction hfits (fun _ h ↦ h.tended) (fun _ _ h hmove ↦ h.move hfits hmove) hstart hrun

/-! ## What is left of a request -/

/-- What is left after a page has been served: of the disk, all that was seen outside of the
outputs, and of the host, whether it is active and takes pages. -/
structure LeftBy (directories : Directories) (plain : PlainEngine) (here : Location) (seen : Disk)
    (moment moment' : Moment ViewEngine) : Prop where
  settled : Settled directories plain here moment'
  capabilities : moment'.state.capabilities = moment.state.capabilities
  active : moment'.state.host.active = moment.state.host.active
  refusal? : moment'.state.host.refusal? = moment.state.host.refusal?
  outside : ∀ l, ¬directories.outputs.goal here <+: l → moment'.disk.node? l = seen.node? l

/-- Whether a request makes an artifact again. -/
def renews (site : Site ViewEngine) (candidate : Text) (moment : Moment ViewEngine) : Bool :=
  site.accepts moment.state.host candidate &&
    match (site.check candidate moment.disk).1 with
    | .ok found => found.refreshed
    | .error _ => false

theorem Settled.leftBy (h : Settled directories plain here moment)
    (hfits : site.Fits directories here) (hserved : Served moment moment') :
    LeftBy directories plain here moment.disk moment moment' where
  settled := by
    have hmove : Move site (fun _ ↦ False) (LeavesAlone directories) False moment moment' :=
      .served moment moment' hserved
    exact h.move hfits hmove
  capabilities := hserved.capabilities
  active := hserved.active
  refusal? := hserved.refusal?
  outside l hl := by
    refine hserved.loads.outside ?_ ?_
    · rw [h.tended.outputs]
      exact h.outputs
    · rw [h.tended.outputs, h.tended.here]
      exact hl

/-- What a request has done that has made an artifact: the engine has forgotten everything. -/
structure Makes (site : Site ViewEngine) (directories : Directories) (plain : PlainEngine)
    (here : Location) (candidate viewId : Text) (content : ByteArray) (modified : Time)
    (moment moment' : Moment ViewEngine) : Prop where
  accepts : site.accepts moment.state.host candidate = true
  viewId? : Path.viewId? ⟨candidate⟩ = some viewId
  isDue : site.isDue candidate moment.disk = .ok true
  clear : ¬moment.disk.HasDirectory (site.cache.artifactLocation viewId moment.disk.here)
  check : site.check candidate moment.disk = (.ok ⟨viewId, renderName viewId, true⟩,
    (site.cache.renewed viewId content modified moment.disk).tick)
  left : LeftBy directories plain here
    (site.cache.renewed viewId content modified moment.disk).tick moment moment'
  faithful : ∀ name, ViewEngine.Faithful moment'.state.capabilities moment'.state.engine
    moment'.disk name

/-- What a request may do. -/
inductive Requested (site : Site ViewEngine) (directories : Directories) (plain : PlainEngine)
    (here : Location) (candidate : Text) (moment moment' : Moment ViewEngine) : Prop
  | kept (hkept : site.renews candidate moment = false)
      (hleft : LeftBy directories plain here moment.disk moment moment')
  | made (viewId : Text) (content : ByteArray) (modified : Time)
      (hmakes : site.Makes directories plain here candidate viewId content modified moment moment')

theorem requested (h : Settled directories plain here moment) (hfits : site.Fits directories here)
    (candidate : Text) :
    site.Requested directories plain here candidate moment
      (run (site.handle candidate) moment).2 := by
  rw [run_handle_eq_check hfits.renderer]
  by_cases haccepts : site.accepts moment.state.host candidate = true
  · rw [if_pos haccepts]
    rcases hcheck : site.check candidate moment.disk with ⟨checked, after⟩
    have hchecked := site.checked candidate moment.disk
    rw [hcheck] at hchecked
    cases hchecked with
    | failed error _ hafter =>
      refine .kept (by simp [renews, hcheck]) ?_
      have hmove : Move site (fun _ ↦ False) (LeavesAlone directories) False moment
          ⟨moment.state, moment.disk.tick⟩ := .waited moment
      rcases hafter with rfl | rfl
      · exact h.leftBy hfits (.refl moment)
      · exact ⟨h.move hfits hmove, rfl, rfl, rfl, fun _ _ ↦ rfl⟩
    | fresh viewId =>
      have hserved := served_serve hfits.renderer (h.tended.apart hfits) viewId false
      exact .kept (by simp [renews, hcheck]) (h.leftBy hfits hserved)
    | renewed viewId content modified hview hdue hstat hartifact =>
      have hmove : Move site (· = candidate) (LeavesAlone directories) False moment _ :=
        .renewed moment candidate viewId content modified rfl hview hstat hartifact
      have hafter := h.move hfits hmove
      have hserved := served_serve hfits.renderer (hafter.tended.apart hfits) viewId true
      have hleft := hafter.leftBy hfits hserved
      refine .made viewId content modified ⟨haccepts, hview, hdue, hartifact, hcheck,
        ⟨hleft.settled, hleft.capabilities, hleft.active, hleft.refusal?, hleft.outside⟩,
        fun name ↦ ?_⟩
      rw [hleft.capabilities]
      exact hserved.faithful name
        (h.tended.faithful_of_renewed hfits viewId content modified name)
  · rw [if_neg haccepts]
    exact .kept (by simp [renews, haccepts]) (h.leftBy hfits (.refl moment))

/-! ## What the next request may notice -/

/-- Where artifacts of some views may have been made. -/
def Artifacts (site : Site ViewEngine) (made : Text → Prop) (disk : Disk) (l : Location) : Prop :=
  ∃ viewId, made viewId ∧ l = site.cache.artifactLocation viewId disk.here ∧ ¬disk.HasDirectory l

/-- Whether one disk may have become another one by making artifacts of some views. -/
structure Beside (site : Site ViewEngine) (made : Text → Prop) (disk disk' : Disk) : Prop where
  alike : disk.Alike (site.Artifacts made disk) disk'
  artifact : ∀ viewId, ¬made viewId → disk'.node? (site.cache.artifactLocation viewId disk.here)
    = disk.node? (site.cache.artifactLocation viewId disk.here)
  outside : ∀ l, ¬site.cache.directory.goal disk.here <+: l → disk'.node? l = disk.node? l

theorem Beside.refl {made : Text → Prop} (disk : Disk) : site.Beside made disk disk :=
  ⟨.refl disk, fun _ _ ↦ rfl, fun _ _ ↦ rfl⟩

theorem Beside.renewed (made : Text → Prop) {disk : Disk} (hmade : made viewId)
    (hclear : ¬disk.HasDirectory (site.cache.artifactLocation viewId disk.here))
    (content : ByteArray) (modified : Time) :
    site.Beside made disk (site.cache.renewed viewId content modified disk).tick where
  alike := by
    refine ⟨ViewCache.here_renewed .., fun l hl ↦ ?_⟩
    refine ViewCache.sight_renewed content modified ?_
    rintro rfl
    exact hl ⟨viewId, hmade, rfl, hclear⟩
  artifact := by
    intro other hother
    have hne : other ≠ viewId := fun heq ↦ hother (heq ▸ hmade)
    exact ViewCache.node?_renewed_of_ne hne content modified disk
  outside _ hl := ViewCache.node?_renewed_of_not_prefix content modified hl

/-- Where a request may have left something: among the outputs, or where artifacts have been
made. -/
def Touched (site : Site ViewEngine) (directories : Directories) (made : Text → Prop) (disk : Disk)
    (l : Location) : Prop :=
  directories.outputs.goal disk.here <+: l ∨ site.Artifacts made disk l

/-- Whether a candidate is neither an artifact nor an output. -/
structure Outside (directories : Directories) (candidate : Text) (here : Location) : Prop where
  artifacts : ¬directories.viewCache.goal here <+: Path.goal ⟨candidate⟩ here
  outputs : ¬directories.outputs.goal here <+: Path.goal ⟨candidate⟩ here

variable {made : Text → Prop} {seen : Disk}

theorem LeftBy.alike (hleft : LeftBy directories plain moment.disk.here seen moment moment')
    (hbeside : site.Beside made moment.disk seen) :
    moment.disk.Alike (site.Touched directories made moment.disk) moment'.disk := by
  refine ⟨hleft.settled.tended.here, fun l hl ↦ ?_⟩
  rw [Touched, not_or] at hl
  rw [sight, hleft.outside l hl.1]
  exact hbeside.alike.sight l hl.2

theorem Touched.prefix_of_artifacts {disk : Disk} {l : Location}
    (hfits : site.Fits directories here) (hl : site.Artifacts made disk l) :
    directories.viewCache.goal disk.here <+: l := by
  obtain ⟨viewId, -, rfl, -⟩ := hl
  rw [← hfits.directory]
  exact site.cache.goal_prefix_artifactLocation viewId _

/-- Nothing is touched on the way to artifacts, since there are directories. -/
theorem not_touched_of_mem_entered (hfits : site.Fits directories moment.disk.here)
    (h : Settled directories plain here moment) {l : Location}
    (hl : l ∈ entered (site.cache.directory.start moment.disk.here) site.cache.directory.names) :
    ¬site.Touched directories made moment.disk l := by
  rintro (houtput | ⟨viewId, -, -, hclear⟩)
  · exact hfits.not_prefix_of_around (hfits.around_of_mem_entered hl) houtput
  · rw [hfits.directory] at hl
    exact hclear (hasDirectory_of_isDirectory h.artifacts (List.mem_cons_of_mem _ hl))

/-- No artifact is touched but those that are made. -/
theorem not_touched_artifactLocation {disk : Disk} (hfits : site.Fits directories disk.here)
    (hmade : ¬made viewId) :
    ¬site.Touched directories made disk (site.cache.artifactLocation viewId disk.here) := by
  rintro (houtput | ⟨other, hother, heq, -⟩)
  · exact hfits.not_prefix_of_around (hfits.around_of_prefix
      (site.cache.goal_prefix_artifactLocation viewId _)) houtput
  · exact hmade (ViewCache.artifactLocation_injective heq ▸ hother)

/-- Nothing is touched on the way to a candidate that is neither an artifact nor an output. -/
theorem not_touched_of_mem_trail {disk : Disk} {host : Host}
    (hfits : site.Fits directories disk.here) (haccepts : site.accepts host candidate = true)
    (houtside : Outside directories candidate disk.here) {l : Location}
    (hl : l ∈ Path.trail ⟨candidate⟩ disk.here) : ¬site.Touched directories made disk l := by
  have hgoal := prefix_goal_of_accepts haccepts hl
  rintro (houtput | hartifact)
  · exact houtside.outputs (houtput.trans hgoal)
  · exact houtside.artifacts ((Touched.prefix_of_artifacts hfits hartifact).trans hgoal)

theorem overlooks_touched {disk : Disk} (hfits : site.Fits directories disk.here)
    (hcontrollers : site.controllers.Overlooks (fun l ↦ directories.viewCache.goal disk.here <+: l ∨
      directories.outputs.goal disk.here <+: l) disk.here) :
    site.controllers.Overlooks (site.Touched directories made disk) disk.here :=
  hcontrollers.mono fun _ hl ↦ hl.symm.imp_left (Touched.prefix_of_artifacts hfits)

/-! ## A request that leaves an artifact alone -/

theorem template_alike {disk disk' : Disk} (hfits : site.Fits directories disk.here)
    (hviews : plain.views = directories.views) (hslash : '/' ∉ viewId) (h : disk.Alike region disk')
    (hway : ∀ l ∈ entered (site.cache.directory.start disk.here) site.cache.directory.names,
      ¬region l)
    (hartifact : ¬region (site.cache.artifactLocation viewId disk.here))
    (available : Capabilities) :
    plain.template available (renderName viewId) disk'
      = plain.template available (renderName viewId) disk := by
  refine PlainEngine.template_congr fun source hsource ↦ h.stat fun l hl ↦ ?_
  rw [hviews] at hsource
  rw [ViewCache.artifactLocation, hfits.directory] at hartifact
  rw [hfits.directory] at hway
  rcases Directories.mem_trail_of_renderName hslash hsource hl with rfl | hl
  · exact hartifact
  · exact hway l hl

/-- A request that stands alone gets the same where its source and its artifact are the same, dates
included, and all else looks alike that matters. -/
theorem response_alike {seen : Disk} (hfits : site.Fits directories here)
    (h : Settled directories plain here moment)
    (hleft : LeftBy directories plain here seen moment moment')
    (halike : moment.disk.Alike region moment'.disk)
    (hview : Path.viewId? ⟨candidate⟩ = some viewId)
    (hstat : moment'.disk.stat ⟨candidate⟩ = moment.disk.stat ⟨candidate⟩)
    (hwritten : moment'.disk.stat (site.cache.artifactPath viewId)
      = moment.disk.stat (site.cache.artifactPath viewId))
    (hsource : ∀ l ∈ Path.trail ⟨candidate⟩ here, ¬region l)
    (hway : ∀ l ∈ entered (site.cache.directory.start here) site.cache.directory.names, ¬region l)
    (hartifact : ¬region (site.cache.artifactLocation viewId here))
    (hcontrollers : site.controllers.Overlooks region here)
    (halone : site.ServesWithin plain (· = renderName viewId) moment.state.capabilities viewId
      (site.check candidate moment.disk).2) :
    site.response candidate moment' = site.response candidate moment := by
  obtain rfl := h.tended.here
  have hslash := Path.not_mem_of_viewId? hview
  have hviews := h.tended.views_plain
  have hdue : site.isDue candidate moment'.disk = site.isDue candidate moment.disk := by
    rw [isDue, isDue, ViewCache.isStale_eq hview, ViewCache.isStale_eq hview, hstat, hwritten]
  have hkind := kind_of_sight (halike.sight _ hartifact)
  obtain ⟨hresult, hafter⟩ := check_alike hview hdue halike hsource hway
    (by rw [HasDirectory, hkind, HasDirectory])
  -- what stands alone before the other request stands alone after it, with the same page
  have hpage : ∀ disk disk', disk.here = moment.disk.here → disk.Alike region disk' →
      site.ServesWithin plain (· = renderName viewId) moment.state.capabilities viewId disk →
      site.ServesWithin plain (· = renderName viewId) moment.state.capabilities viewId disk' ∧
        site.plainPage plain moment.state.capabilities viewId disk'
          = site.plainPage plain moment.state.capabilities viewId disk := by
    intro disk disk' hhere halike halone
    rw [← hhere] at hfits hway hartifact hcontrollers
    refine plainPage_within halike hcontrollers halone ?_
    rintro _ rfl
    exact template_alike hfits hviews hslash halike hway hartifact _
  have hfresh : site.isDue candidate moment.disk = .ok false →
      site.ServesWithin plain (· = renderName viewId) moment.state.capabilities viewId
        moment.disk := by
    intro hfresh
    rw [check_eq site hview, hfresh] at halone
    exact halone
  have hviewId : ∀ other, Path.viewId? ⟨candidate⟩ = some other → other = viewId :=
    fun other hother ↦ Option.some.inj (hother.symm.trans hview)
  have hbefore : ∀ name, name = renderName viewId → ViewEngine.Faithful moment.state.capabilities
      moment.state.engine moment.disk name := by
    rintro _ rfl
    exact h.faithful viewId hslash
  have hafterwards : ∀ name, name = renderName viewId → ViewEngine.Faithful
      moment'.state.capabilities moment'.state.engine moment'.disk name := by
    rintro _ rfl
    exact hleft.settled.faithful viewId hslash
  rw [response_eq_plain hfits h.tended hbefore, response_eq_plain hfits hleft.settled.tended
    hafterwards, hleft.capabilities]
  · refine plainResponse_congr hleft.active hleft.refusal? hresult fun found hfound ↦ ?_
    rw [hviewId _ (site.viewId_of_check hfound)]
    exact (hpage _ _ (site.here_check candidate moment.disk)
      (hafter (by rw [hfound]; rfl)) halone).2
  · intro other hother hnew
    rw [hviewId other hother, hleft.capabilities]
    exact (hpage _ _ rfl halike (hfresh (hdue.symm.trans hnew))).1
  · intro other hother hold
    rw [hviewId other hother]
    exact hfresh hold

/-- A request that stands alone gets the same after a request that has not made its artifact. -/
theorem response_beside (hfits : site.Fits directories moment.disk.here)
    (h : Settled directories plain moment.disk.here moment)
    (hleft : LeftBy directories plain moment.disk.here seen moment moment')
    (hbeside : site.Beside made moment.disk seen) (hmade : ¬made viewId)
    (hview : Path.viewId? ⟨candidate⟩ = some viewId)
    (haccepts : site.accepts moment.state.host candidate = true)
    (houtside : Outside directories candidate moment.disk.here)
    (hcontrollers : site.controllers.Overlooks (fun l ↦
      directories.viewCache.goal moment.disk.here <+: l ∨
        directories.outputs.goal moment.disk.here <+: l) moment.disk.here)
    (halone : site.ServesWithin plain (· = renderName viewId) moment.state.capabilities viewId
      (site.check candidate moment.disk).2) :
    site.response candidate moment' = site.response candidate moment := by
  have hslash := Path.not_mem_of_viewId? hview
  have halike := hleft.alike hbeside
  have hway : ∀ l ∈ entered (site.cache.directory.start moment.disk.here)
      site.cache.directory.names, ¬site.Touched directories made moment.disk l :=
    fun l hl ↦ not_touched_of_mem_entered hfits h hl
  have hsource : ∀ l ∈ Path.trail ⟨candidate⟩ moment.disk.here,
      ¬site.Touched directories made moment.disk l :=
    fun l hl ↦ not_touched_of_mem_trail hfits haccepts houtside hl
  have hartifact := not_touched_artifactLocation hfits hmade
  have hstat : moment'.disk.stat ⟨candidate⟩ = moment.disk.stat ⟨candidate⟩ := by
    refine stat_congr halike.here (fun l hl ↦ ?_) ?_
    · exact kind_of_sight (halike.sight l (hsource l (Path.mem_trail_of_mem_way hl)))
    · have hcache := houtside.artifacts
      rw [← hfits.directory] at hcache
      rw [hleft.outside _ houtside.outputs]
      exact hbeside.outside _ hcache
  have hwritten : moment'.disk.stat (site.cache.artifactPath viewId)
      = moment.disk.stat (site.cache.artifactPath viewId) := by
    refine stat_congr halike.here (fun l hl ↦ ?_) ?_
    · rw [ViewCache.way_artifactPath _ hslash] at hl
      exact kind_of_sight (halike.sight l (hway l hl))
    · rw [ViewCache.goal_artifactPath _ hslash, ← ViewCache.artifactLocation,
        hleft.outside _ fun houtput ↦ hartifact (.inl houtput)]
      exact hbeside.artifact viewId hmade
  exact response_alike hfits h hleft halike hview hstat hwritten hsource hway hartifact
    (overlooks_touched hfits hcontrollers) halone

/-! ## A request that makes an artifact for another one -/

section Overtaking

variable {content : ByteArray} {modified : Time}

/-- Whether a request makes the very artifact that another candidate is served from. -/
def Overtakes (site : Site ViewEngine) (candidate other : Text) (moment : Moment ViewEngine) :
    Prop :=
  site.accepts moment.state.host other = true ∧ site.renews candidate moment = true ∧
    Path.viewId? ⟨candidate⟩ = Path.viewId? ⟨other⟩

instance : Decidable (site.Overtakes candidate other moment) := instDecidableAnd

/-- Where the artifact has been made by another request and passes for up to date, a candidate gets
what the other one got. -/
theorem response_overtaken (hfits : site.Fits directories moment.disk.here)
    (h : Settled directories plain moment.disk.here moment)
    (hmakes : site.Makes directories plain moment.disk.here candidate viewId content modified
      moment moment')
    (hview : Path.viewId? ⟨other⟩ = some viewId)
    (haccepts : site.accepts moment.state.host other = true)
    (hcontrollers : site.controllers.Overlooks
      (directories.outputs.goal moment.disk.here <+: ·) moment.disk.here)
    (hfresh : site.isDue other moment'.disk = .ok false) :
    site.response other moment' = site.response candidate moment := by
  have hleft := hmakes.left
  have hviews := h.tended.views_plain
  have haccepts' : site.accepts moment'.state.host other = true := by
    rw [accepts, hleft.active]
    exact haccepts
  rw [response_eq_plain_of_due hfits h.tended hmakes.isDue,
    response_eq_plain_of_faithful hfits hleft.settled.tended hmakes.faithful,
    plainResponse_of_accepts site hmakes.accepts, plainResponse_of_accepts site haccepts',
    hmakes.check, check_eq site hview, hfresh]
  dsimp only
  rw [Host.respond_congr hleft.refusal?, hleft.capabilities]
  have hseen : (site.cache.renewed viewId content modified moment.disk).tick.here
      = moment.disk.here := ViewCache.here_renewed ..
  refine congrArg _ (plainPage_alike (.of_node? (hleft.settled.tended.here.trans hseen.symm)
    hleft.outside) ?_ ?_ viewId)
  · rw [hseen]
    exact hcontrollers
  · rw [hseen, hviews]
    exact fun l hl ↦ hfits.not_prefix_of_around hl

theorem Makes.renews (hmakes : site.Makes directories plain here candidate viewId content modified
      moment moment') : site.renews candidate moment = true := by
  rw [Site.renews, hmakes.accepts, hmakes.check]
  rfl

theorem Makes.beside (hmakes : site.Makes directories plain moment.disk.here candidate viewId
      content modified moment moment') :
    site.Beside (· = viewId) moment.disk
      (site.cache.renewed viewId content modified moment.disk).tick :=
  .renewed (· = viewId) rfl hmakes.clear content modified

theorem Makes.stat (hmakes : site.Makes directories plain moment.disk.here candidate viewId content
      modified moment moment')
    (hfits : site.Fits directories moment.disk.here)
    (h : Settled directories plain moment.disk.here moment) :
    moment'.disk.stat (site.cache.artifactPath viewId)
      = .ok (.file content (max (moment.disk.clock + 1) modified)) := by
  have hleft := hmakes.left
  have halike := hleft.alike hmakes.beside
  have hnode : moment'.disk.node? (site.cache.artifactLocation viewId moment.disk.here)
      = some (.file content (max (moment.disk.clock + 1) modified)) := by
    rw [hleft.outside _ (hfits.not_prefix_of_around (hfits.around_of_prefix
      (site.cache.goal_prefix_artifactLocation viewId _))), node?_tick]
    exact ViewCache.node?_renewed_self ..
  have hrefreshed : ((site.cache.refresh ⟨candidate⟩).run.run moment.disk).1.isOk = true := by
    have hcheck := hmakes.check
    rw [check_eq site hmakes.viewId?, hmakes.isDue] at hcheck
    rcases hrefresh : (site.cache.refresh ⟨candidate⟩).run.run moment.disk with ⟨_ | _, after⟩
    · rw [hrefresh] at hcheck
      cases hcheck
    · rfl
  exact ViewCache.stat_of_refresh hmakes.viewId? hrefreshed halike.here (fun l hl ↦
    kind_of_sight (halike.sight l (not_touched_of_mem_entered hfits h hl))) hnode

/-- Where the artifact has been made by another request and does not pass for up to date, a
candidate gets what it would have got before if its artifact had been made again. -/
theorem response_recovered (hfits : site.Fits directories moment.disk.here)
    (h : Settled directories plain moment.disk.here moment)
    (hmakes : site.Makes directories plain moment.disk.here candidate viewId content modified
      moment moment')
    (hview : Path.viewId? ⟨other⟩ = some viewId)
    (haccepts : site.accepts moment.state.host other = true)
    (houtside : Outside directories other moment.disk.here)
    (hcontrollers : site.controllers.Overlooks
      (directories.outputs.goal moment.disk.here <+: ·) moment.disk.here)
    (hstale : site.isDue other moment'.disk ≠ .ok false) :
    site.response other moment' = (site.forced true).response other moment := by
  have hleft := hmakes.left
  have hviews := h.tended.views_plain
  have hwritten := hmakes.stat hfits h
  have halike := hleft.alike hmakes.beside
  have hkind : moment'.disk.HasDirectory (site.cache.artifactLocation viewId moment.disk.here) ↔
      moment.disk.HasDirectory (site.cache.artifactLocation viewId moment.disk.here) := by
    refine iff_of_false (fun hdirectory ↦ ?_) hmakes.clear
    have hnode := (stat_eq_ok hwritten).2
    rw [ViewCache.goal_artifactPath _ (Path.not_mem_of_viewId? hview), halike.here] at hnode
    rw [HasDirectory, kind, ViewCache.artifactLocation, hnode] at hdirectory
    cases hdirectory
  obtain ⟨hresult, hafter⟩ := check_alike_of_due hview
    (isDue_forced site other moment.disk) (isDue_forced site other moment'.disk) halike
    (fun l hl ↦ not_touched_of_mem_trail hfits haccepts houtside hl)
    (fun l hl ↦ not_touched_of_mem_entered hfits h hl) hkind
  have hhere := (site.forced true).here_check other moment.disk
  rw [response_eq_plain_of_faithful hfits hleft.settled.tended hmakes.faithful,
    response_eq_plain_of_due (hfits.forced true) h.tended (isDue_forced site other moment.disk),
    ← plainResponse_of_stale site hview hwritten hstale, hleft.capabilities]
  refine plainResponse_congr hleft.active hleft.refusal? hresult fun found hfound ↦ ?_
  -- once the artifact has been made again, only outputs may differ
  have houtputs : ((site.forced true).check other moment.disk).2.Alike
      (directories.outputs.goal moment.disk.here <+: ·)
      ((site.forced true).check other moment'.disk).2 := by
    refine (hafter (by rw [hfound]; rfl)).mono ?_
    rintro l ⟨houtput | ⟨_, rfl, heq, -⟩, hne⟩
    · exact houtput
    · exact absurd heq hne
  refine plainPage_alike houtputs ?_ ?_ found.viewId
  · rw [hhere]
    exact hcontrollers
  · rw [hhere, hviews]
    exact fun l hl ↦ hfits.not_prefix_of_around hl

end Overtaking

theorem Requested.makes_of_overtakes
    (hrequested : site.Requested directories plain here candidate moment moment')
    (hovertakes : site.Overtakes candidate other moment) :
    ∃ viewId content modified, Path.viewId? ⟨other⟩ = some viewId ∧
      site.Makes directories plain here candidate viewId content modified moment moment' := by
  obtain ⟨-, hrenews, hsame⟩ := hovertakes
  cases hrequested with
  | kept hkept => simp [hrenews] at hkept
  | made viewId content modified hmakes =>
    exact ⟨viewId, content, modified, hsame.symm.trans hmakes.viewId?, hmakes⟩

/-- Whether a candidate's page is made of its artifact and no other view. -/
def StandsAlone (site : Site ViewEngine) (plain : PlainEngine) (candidate : Text)
    (moment : Moment ViewEngine) : Prop :=
  ∀ viewId, Path.viewId? ⟨candidate⟩ = some viewId →
    site.ServesWithin plain (· = renderName viewId) moment.state.capabilities viewId
      (site.check candidate moment.disk).2

theorem standsAlone_of_servesWithin (hview : Path.viewId? ⟨candidate⟩ = some viewId)
    (h : site.ServesWithin plain (· = renderName viewId) moment.state.capabilities viewId
      (site.check candidate moment.disk).2) : site.StandsAlone plain candidate moment := by
  intro other hother
  obtain rfl : viewId = other := Option.some.inj (hview.symm.trans hother)
  exact h

/-- A candidate that stands alone gets the same after any request that does not overtake it. -/
theorem response_of_not_overtakes (hfits : site.Fits directories moment.disk.here)
    (h : Settled directories plain moment.disk.here moment)
    (hrequested : site.Requested directories plain moment.disk.here candidate moment moment')
    (houtside : Outside directories other moment.disk.here)
    (hcontrollers : site.controllers.Overlooks (fun l ↦
      directories.viewCache.goal moment.disk.here <+: l ∨
        directories.outputs.goal moment.disk.here <+: l) moment.disk.here)
    (halone : site.StandsAlone plain other moment)
    (hnot : ¬site.Overtakes candidate other moment) :
    site.response other moment' = site.response other moment := by
  have hleft : ∃ seen, LeftBy directories plain moment.disk.here seen moment moment' := by
    cases hrequested with
    | kept _ hleft => exact ⟨_, hleft⟩
    | made _ _ _ hmakes => exact ⟨_, hmakes.left⟩
  obtain ⟨_, hleft⟩ := hleft
  have haccepts' :
      site.accepts moment'.state.host other = site.accepts moment.state.host other := by
    rw [accepts, accepts, hleft.active]
  by_cases haccepts : site.accepts moment.state.host other = true
  · cases hview : Path.viewId? ⟨other⟩ with
    | none =>
      rw [response_of_no_viewId hfits haccepts hview,
        response_of_no_viewId hfits (haccepts'.trans haccepts) hview]
    | some otherId =>
      cases hrequested with
      | kept _ hleft =>
        have hbeside : site.Beside (fun _ ↦ False) moment.disk moment.disk := .refl moment.disk
        exact response_beside hfits h hleft hbeside not_false hview haccepts houtside hcontrollers
          (halone otherId hview)
      | made viewId _ _ hmakes =>
        have hne : otherId ≠ viewId := by
          rintro rfl
          exact hnot ⟨haccepts, hmakes.renews, hmakes.viewId?.trans hview.symm⟩
        exact response_beside hfits h hmakes.left hmakes.beside hne hview haccepts houtside
          hcontrollers (halone otherId hview)
  · rw [response_of_not_accepts hfits haccepts,
      response_of_not_accepts hfits fun h ↦ haccepts (haccepts'.symm.trans h)]

end Site

/-- **Whom a request gets in the way of.** At every moment of every run in which artifacts and
outputs are left alone, a candidate that stands alone gets the same whether or not another request
is handled just before it, unless that makes the artifact of the candidate. Then the candidate gets
what the other one got if that artifact passes for up to date, and its own page if it does not. -/
theorem response_after_request {plan : SitePlan} {f : Extensions → Extensions} {hooks : Hooks}
    {host : Host} {before disk : Disk} {site : Site ViewEngine} {state : SiteState ViewEngine}
    {moment : Moment ViewEngine} {candidate other : Text}
    (hlaunch : (plan.launch f hooks host).run.run before = (.ok (site, state), disk))
    (hapart : plan.settings.directories.views.Apart plan.settings.directories.outputs disk.here)
    (hwritten : ∀ l content time, plan.settings.directories.outputs.goal disk.here <+: l →
      disk.node? l = some (.file content time) → time ≤ disk.clock)
    (houtputs : disk.isDirectory plan.settings.directories.outputs = true)
    (hartifacts : disk.isDirectory plan.settings.directories.viewCache = true)
    (hrun : Relation.ReflTransGen
      (Site.Step site (fun _ ↦ True) (Site.LeavesAlone plan.settings.directories) False)
      ⟨state, disk⟩ moment)
    (houtside : Site.Outside plan.settings.directories other disk.here)
    (hcontrollers : site.controllers.Overlooks (fun l ↦
      plan.settings.directories.viewCache.goal disk.here <+: l ∨
        plan.settings.directories.outputs.goal disk.here <+: l) disk.here) :
    let after := (Site.run (site.handle candidate) moment).2
    (¬site.Overtakes candidate other moment → site.StandsAlone (plan.plain f) other moment →
      site.response other after = site.response other moment) ∧
    (site.Overtakes candidate other moment → site.isDue other after.disk = .ok false →
      site.response other after = site.response candidate moment) ∧
    (site.Overtakes candidate other moment → site.isDue other after.disk ≠ .ok false →
      site.response other after = (site.forced true).response other moment) := by
  obtain ⟨rfl, rfl⟩ := SitePlan.launch_eq_ok hlaunch
  have hfits := Site.fits_launched plan hooks hapart
  have hsettled := Site.settled_of_run hfits (.start plan f host hwritten houtputs hartifacts) hrun
  have hhere : moment.disk.here = disk.here := hsettled.tended.here
  rw [← hhere] at hfits hsettled houtside hcontrollers
  have hrequested := Site.requested hsettled hfits candidate
  have houtput : (plan.launched hooks).controllers.Overlooks
      (plan.settings.directories.outputs.goal moment.disk.here <+: ·) moment.disk.here :=
    hcontrollers.mono fun _ hl ↦ .inr hl
  refine ⟨fun hnot halone ↦ ?_, fun hovertakes hfresh ↦ ?_, fun hovertakes hstale ↦ ?_⟩
  · exact Site.response_of_not_overtakes hfits hsettled hrequested houtside hcontrollers halone hnot
  · obtain ⟨viewId, content, modified, hview, hmakes⟩ := hrequested.makes_of_overtakes hovertakes
    exact Site.response_overtaken hfits hsettled hmakes hview hovertakes.1 houtput hfresh
  · obtain ⟨viewId, content, modified, hview, hmakes⟩ := hrequested.makes_of_overtakes hovertakes
    exact Site.response_recovered hfits hsettled hmakes hview hovertakes.1 houtside houtput hstale

/-! ### Twins

Two templates have one name. One of them is in a directory below the other, and there is a third
template of another name, which has been requested. -/

def twinTemplates : List (List String × Node) :=
  [(["home.html"], .file (encode "1".toList) 1), (["parts"], .directory 1),
    (["parts", "home.html"], .file (encode "2".toList) 1),
    (["about.html"], .file (encode "3".toList) 1)]

def themeVisited : Moment ViewEngine :=
  (Site.run ((theme false).handle "/vwt/theme/about.html".toList)
    (themeMoment false twinTemplates)).2

def themeOvertaken : Moment ViewEngine :=
  (Site.run ((theme false).handle "/vwt/theme/home.html".toList) themeVisited).2

theorem run_themeVisited : Relation.ReflTransGen
    (Site.Step (theme false) (fun _ ↦ True)
      (Site.LeavesAlone (themePlan false).settings.directories) False)
    (themeMoment false twinTemplates) themeVisited :=
  .single (.request _ "/vwt/theme/about.html".toList trivial)

theorem response_after_request_themeVisited :
    (theme false).response "/vwt/theme/parts/home.html".toList themeOvertaken
      = (theme false).response "/vwt/theme/home.html".toList themeVisited ∧
    (theme false).response "/vwt/theme/about.html".toList themeOvertaken
      = (theme false).response "/vwt/theme/about.html".toList themeVisited := by
  have hlaunch := launch_theme false twinTemplates (by decide +kernel) (by decide +kernel)
  have hdates : ∀ entry ∈ (themeDisk twinTemplates).tick.nodes,
      entry.2.modified ≤ (themeDisk twinTemplates).tick.clock := by decide
  have hafter : ∀ other, Site.Outside (themePlan false).settings.directories other [] →
      (¬(theme false).Overtakes "/vwt/theme/home.html".toList other themeVisited →
        (theme false).StandsAlone ((themePlan false).plain id) other themeVisited →
        (theme false).response other themeOvertaken = (theme false).response other themeVisited) ∧
      ((theme false).Overtakes "/vwt/theme/home.html".toList other themeVisited →
        (theme false).isDue other themeOvertaken.disk = .ok false →
        (theme false).response other themeOvertaken
          = (theme false).response "/vwt/theme/home.html".toList themeVisited) := by
    intro other houtside
    obtain ⟨hapart, hovertaken, -⟩ := response_after_request hlaunch (by decide +kernel)
      (fun _ _ _ _ hfile ↦ modified_le_of_nodes hdates hfile) (by decide +kernel)
      (by decide +kernel) run_themeVisited houtside (overlooks_theme false _ _)
    exact ⟨hapart, hovertaken⟩
  have hfresh : (theme false).isDue "/vwt/theme/parts/home.html".toList themeOvertaken.disk
      = .ok false := toOption_eq_some_iff.mp (by decide +kernel)
  have hview : Path.viewId? ⟨"/vwt/theme/about.html".toList⟩ = some "about".toList := by
    decide +kernel
  have halone : (theme false).StandsAlone ((themePlan false).plain id)
      "/vwt/theme/about.html".toList themeVisited :=
    Site.standsAlone_of_servesWithin hview (by decide +kernel)
  refine ⟨(hafter _ ?_).2 (by decide +kernel) hfresh, (hafter _ ?_).1 (by decide +kernel) halone⟩
  · exact ⟨by decide +kernel, by decide +kernel⟩
  · exact ⟨by decide +kernel, by decide +kernel⟩

/-- One of the twins is served with the text of the other. -/
theorem emitted_themeOvertaken :
    (theme false).StandsAlone ((themePlan false).plain id) "/vwt/theme/parts/home.html".toList
      themeVisited ∧
    ((theme false).response "/vwt/theme/parts/home.html".toList themeVisited).emitted
      = ["2".toList] ∧
    ((theme false).response "/vwt/theme/parts/home.html".toList themeOvertaken).emitted
      = ["1".toList] := by
  have hview : Path.viewId? ⟨"/vwt/theme/parts/home.html".toList⟩ = some "home".toList := by
    decide +kernel
  exact ⟨Site.standsAlone_of_servesWithin hview (by decide +kernel), by decide +kernel,
    by decide +kernel⟩

end CompiledViews
