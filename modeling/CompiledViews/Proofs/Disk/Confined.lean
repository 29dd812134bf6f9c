import CompiledViews.Proofs.Disk.Dated

/-!
# What actions look at

An action may be confined to a part of the disk: of some locations it only asks whether there is
something and whether that is a directory, of others it may use everything that is there, and of the
rest it takes no notice. On two disks that agree so far, such an action has the same answer and does
the same, so they agree afterwards as well. The clock is looked at too, since it dates what is
written.

Making a directory with its ancestors asks about every location that a beginning of the path leads
to, those before a `..` included.
-/

namespace CompiledViews

/-! ## The locations that a path passes -/

namespace Path

/-- Whether some beginning of a path leads to a location. -/
def Passes (p : Path) (here l : Location) : Prop :=
  ∃ names, names <+: p.names ∧ Disk.reached (p.start here) names = l

variable {p q : Path} {here l : Location}

theorem passes_goal : p.Passes here (p.goal here) := ⟨p.names, List.prefix_rfl, rfl⟩

theorem passes_of_mem_entered (h : l ∈ Disk.entered (p.start here) p.names) : p.Passes here l :=
  Disk.exists_reached_of_mem_entered h

theorem passes_of_mem_trail (h : l ∈ p.trail here) : p.Passes here l := by
  rcases List.mem_cons.mp h with rfl | h
  · exact passes_goal
  · exact passes_of_mem_entered h

theorem Passes.of_prefix (h : q.Passes here l) (habsolute : q.isAbsolute = p.isAbsolute)
    (hnames : q.names <+: p.names) : p.Passes here l := by
  obtain ⟨names, hprefix, hl⟩ := h
  exact ⟨names, hprefix.trans hnames, by rw [← hl, start_of_isAbsolute habsolute]⟩

end Path

namespace Disk

/-! ## Disks that agree -/

/-- Whether two disks have the same clock, and agree at some locations about what is there and at
others about whether that is a directory. -/
structure Agree (here : Location) (ways contents : Location → Prop) (disk disk' : Disk) : Prop where
  start : disk.here = here
  start' : disk'.here = here
  clock : disk'.clock = disk.clock
  kind : ∀ l, ways l → disk'.kind l = disk.kind l
  node : ∀ l, contents l → disk'.node? l = disk.node? l

variable {here : Location} {ways contents : Location → Prop} {disk disk' : Disk} {p : Path}

theorem node?_touchDirectory_eq (disk : Disk) (location l : Location) :
    (disk.touchDirectory location).node? l =
      if l = location ∧ l ≠ [] ∧ disk.kind l = some true then some (.directory disk.clock)
      else disk.node? l := by
  rw [touchDirectory]
  split
  · next time hnode =>
    by_cases hroot : location = []
    · subst hroot
      rw [node?_put_root, if_neg fun h ↦ h.2.1 h.1]
    · rw [node?_put _ _ _ _ hroot]
      by_cases h : l = location
      · subst h
        rw [if_pos rfl, if_pos ⟨rfl, hroot, hasDirectory_of_node hnode⟩]
      · rw [if_neg h, if_neg fun hl ↦ h hl.1]
  · next hnode =>
    rw [if_neg]
    rintro ⟨rfl, -, hkind⟩
    obtain ⟨time, htime⟩ := HasDirectory.exists_node hkind
    exact hnode time htime

namespace Agree

theorem refl (h : disk.here = here) : Agree here ways contents disk disk :=
  ⟨h, h, rfl, fun _ _ ↦ rfl, fun _ _ ↦ rfl⟩

theorem kind_eq (h : Agree here ways contents disk disk') {l : Location}
    (hl : ways l ∨ contents l) : disk'.kind l = disk.kind l := by
  rcases hl with hway | hcontent
  · exact h.kind l hway
  · rw [Disk.kind, Disk.kind, h.node l hcontent]

theorem tick (h : Agree here ways contents disk disk') :
    Agree here ways contents disk.tick disk'.tick :=
  ⟨h.start, h.start', congrArg (· + 1) h.clock, h.kind, h.node⟩

theorem put (h : Agree here ways contents disk disk') {location : Location} (hne : location ≠ [])
    (node : Node) :
    Agree here ways contents (disk.put location node) (disk'.put location node) where
  start := h.start
  start' := h.start'
  clock := h.clock
  kind l hl := by
    rw [Disk.kind, Disk.kind, node?_put _ _ _ _ hne, node?_put _ _ _ _ hne]
    split
    · rfl
    · exact h.kind l hl
  node l hl := by
    rw [node?_put _ _ _ _ hne, node?_put _ _ _ _ hne, h.node l hl]

theorem touchDirectory (h : Agree here ways contents disk disk') (location : Location) :
    Agree here ways contents (disk.touchDirectory location) (disk'.touchDirectory location) where
  start := (here_touchDirectory ..).trans h.start
  start' := (here_touchDirectory ..).trans h.start'
  clock := by rw [clock_touchDirectory, clock_touchDirectory, h.clock]
  kind l hl := by
    rw [(keeps_touchDirectory disk location l).kind_eq,
      (keeps_touchDirectory disk' location l).kind_eq, h.kind l hl]
  node l hl := by
    rw [node?_touchDirectory_eq, node?_touchDirectory_eq, h.clock, h.node l hl, h.kind_eq (.inr hl)]

theorem place (h : Agree here ways contents disk disk') {location : Location} (hne : location ≠ [])
    (node : Node) :
    Agree here ways contents (Disk.place location node disk) (Disk.place location node disk') :=
  (h.put hne node).touchDirectory _

theorem destination (h : Agree here ways contents disk disk')
    (hp : ∀ l ∈ p.way here, ways l ∨ contents l) : disk'.destination p = disk.destination p := by
  refine destination_congr (h.start'.trans h.start.symm) fun l hl ↦ h.kind_eq (hp l ?_)
  rwa [h.start] at hl

theorem stat (h : Agree here ways contents disk disk')
    (hp : ∀ l ∈ p.way here, ways l ∨ contents l) (hgoal : contents (p.goal here)) :
    disk'.stat p = disk.stat p := by
  refine stat_congr (h.start'.trans h.start.symm) (fun l hl ↦ h.kind_eq (hp l ?_)) (h.node _ ?_)
  · rwa [h.start] at hl
  · rwa [h.start]

theorem isDirectory (h : Agree here ways contents disk disk')
    (hp : ∀ l ∈ p.trail here, ways l ∨ contents l) : disk'.isDirectory p = disk.isDirectory p := by
  have hdestination : disk'.destination p = disk.destination p :=
    h.destination fun l hl ↦ hp l (Path.mem_trail_of_mem_way hl)
  have hkind := h.kind_eq (hp _ Path.goal_mem_trail)
  rw [Disk.isDirectory, Disk.isDirectory]
  cases hd : disk.destination p with
  | error fault => rw [Disk.stat, Disk.stat, hdestination, hd, Except.bind, Except.bind]
  | ok d =>
    rw [stat_eq_bind hd, stat_eq_bind (hdestination.trans hd), h.start, h.start']
    rw [Disk.kind, Disk.kind] at hkind
    cases hold : disk.node? (p.goal here) with
    | none =>
      rw [hold, Option.map_none, Option.map_eq_none_iff] at hkind
      rw [hkind]
    | some node =>
      rw [hold, Option.map_some, Option.map_eq_some_iff] at hkind
      obtain ⟨node', hnew, hsame⟩ := hkind
      rw [hnew]
      rcases d with location | ⟨directory, name, _ | _⟩ <;> cases node <;> cases node' <;>
        first | rfl | cases hsame

end Agree

/-! ## Confined actions -/

/-- Whether an action has the same answer on disks that agree, and leaves them agreeing. -/
def Confined {ε α : Type} (here : Location) (ways contents : Location → Prop)
    (action : Action ε α) : Prop :=
  ∀ disk disk', Agree here ways contents disk disk' →
    (action.run.run disk').1 = (action.run.run disk).1 ∧
      Agree here ways contents (action.run.run disk).2 (action.run.run disk').2

section Confined

variable {ε ε' α β : Type}

theorem confined_pure (a : α) : Confined here ways contents (pure a : Action ε α) :=
  fun _ _ h ↦ ⟨rfl, h⟩

theorem confined_attempt {action : Action ε α} (h : Confined here ways contents action) :
    Confined here ways contents (attempt action : Action ε' (Except ε α)) :=
  fun disk disk' hagree ↦ ⟨congrArg Except.ok (h disk disk' hagree).1, (h disk disk' hagree).2⟩

theorem confined_bind {action : Action ε α} {f : α → Action ε β}
    (h : Confined here ways contents action) (hf : ∀ a, Confined here ways contents (f a)) :
    Confined here ways contents (action >>= f) := by
  intro disk disk' hagree
  obtain ⟨hanswer, hafter⟩ := h disk disk' hagree
  obtain ⟨answer, hrun⟩ : ∃ answer, action.run.run disk = (answer, (action.run.run disk).2) :=
    ⟨_, rfl⟩
  have hrun' : action.run.run disk' = (answer, (action.run.run disk').2) :=
    Prod.ext (by rw [hanswer, hrun]) rfl
  rw [run_bind, run_bind, hrun, hrun']
  cases answer with
  | error e => exact ⟨rfl, hafter⟩
  | ok a => exact hf a _ _ hafter

theorem confined_makeDirectory (hp : ∀ l, p.Passes here l → ways l ∨ contents l) :
    Confined here ways contents (makeDirectory p) := by
  intro disk disk' h
  have hdestination : disk'.destination p = disk.destination p :=
    h.destination fun l hl ↦ hp l (Path.passes_of_mem_trail (Path.mem_trail_of_mem_way hl))
  rw [run_makeDirectory, run_makeDirectory, hdestination]
  rcases hd : disk.destination p with fault | location | ⟨directory, name, slashed⟩
  · exact ⟨rfl, h⟩
  · exact ⟨rfl, h⟩
  · have hgoal : directory ++ [name] = p.goal disk.here := location_of_destination hd
    rw [h.start] at hgoal
    have hkind : disk'.kind (directory ++ [name]) = disk.kind (directory ++ [name]) :=
      h.kind_eq (hp _ (hgoal ▸ Path.passes_goal))
    dsimp only
    rw [hkind]
    split
    · exact ⟨rfl, h⟩
    · rw [h.clock]
      exact ⟨rfl, h.tick.place (by simp) _⟩

theorem confined_makeChain (chain : List Path)
    (hchain : ∀ p ∈ chain, ∀ l, p.Passes here l → ways l ∨ contents l) :
    Confined here ways contents (makeChain chain) := by
  have haccept : ∀ (p : Path) (fault : IoFault), (∀ l, p.Passes here l → ways l ∨ contents l) →
      Confined here ways contents
        (do if (← get).isDirectory p then return else throw fault : Action IoFault Unit) := by
    intro p fault hp disk disk' h
    have hsame : disk'.isDirectory p = disk.isDirectory p :=
      h.isDirectory fun l hl ↦ hp l (Path.passes_of_mem_trail hl)
    rw [run_bind, run_bind, run_get, run_get]
    dsimp only
    rw [hsame]
    split
    · exact ⟨rfl, h⟩
    · exact ⟨rfl, h⟩
  induction chain with
  | nil => exact confined_pure ()
  | cons p ancestors ih =>
    have hp := hchain p List.mem_cons_self
    have hmake : Confined here ways contents
        (attempt (makeDirectory p) : Action IoFault (Except IoFault Unit)) :=
      confined_attempt (confined_makeDirectory hp)
    rw [makeChain]
    refine confined_bind hmake fun answer ↦ ?_
    split
    · exact confined_pure ()
    · refine confined_bind (ih fun q hq ↦ hchain q (List.mem_cons_of_mem p hq)) fun _ ↦ ?_
      refine confined_bind hmake fun answer ↦ ?_
      split
      · exact confined_pure ()
      · exact haccept p _ hp
    · exact haccept p _ hp

theorem confined_makeDirectories (hp : ∀ l, p.Passes here l → ways l ∨ contents l) :
    Confined here ways contents (makeDirectories p) := by
  refine confined_makeChain _ fun q hq l hl ↦ hp l ?_
  obtain ⟨habsolute, hnames⟩ := Path.names_of_mem_ancestors (List.mem_filter.mp hq).1
  exact hl.of_prefix habsolute hnames

theorem confined_draft {content : ByteArray}
    (hp : ∀ l, p.Passes here l → ways l ∨ contents l) :
    Confined here ways contents (draft p content) := by
  intro disk disk' h
  have hdestination : disk'.destination (p.join ⟨['d']⟩) = disk.destination (p.join ⟨['d']⟩) := by
    refine h.destination fun l hl ↦ hp l (Path.passes_of_mem_entered ?_)
    rwa [Path.way_join (by decide) (by decide),
      show Path.names (⟨['d']⟩ : Path) = [['d']] by decide, List.dropLast_singleton, entered_nil,
      List.append_nil] at hl
  rw [run_draft, run_draft, hdestination, h.clock]
  split
  · exact ⟨rfl, h.tick⟩
  · exact ⟨rfl, h.tick⟩
  · exact ⟨rfl, h⟩

theorem confined_publish (file : Draft) (hp : ∀ l, p.Passes here l → ways l ∨ contents l) :
    Confined here ways contents (publish file p) := by
  intro disk disk' h
  have hdestination : disk'.destination p = disk.destination p :=
    h.destination fun l hl ↦ hp l (Path.passes_of_mem_trail (Path.mem_trail_of_mem_way hl))
  rw [run_publish, run_publish, hdestination]
  rcases hd : disk.destination p with fault | location | ⟨directory, name, slashed⟩
  · exact ⟨rfl, h⟩
  · exact ⟨rfl, h⟩
  · have hgoal : directory ++ [name] = p.goal disk.here := location_of_destination hd
    rw [h.start] at hgoal
    have hkind : disk'.kind (directory ++ [name]) = disk.kind (directory ++ [name]) :=
      h.kind_eq (hp _ (hgoal ▸ Path.passes_goal))
    dsimp only
    rw [hkind]
    split
    · exact ⟨rfl, h⟩
    · split
      · exact ⟨rfl, h⟩
      · exact ⟨rfl, h.tick.place (by simp) _⟩

end Confined

end Disk

end CompiledViews
