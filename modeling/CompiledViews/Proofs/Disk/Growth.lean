import CompiledViews.Proofs.Disk.Run

/-!
# Disks that grow

Whoever only adds to a disk, as one does who makes directories where they are missing and publishes
files, leaves every location in one of three ways: as it was; with a directory that is new or has a
new date; or with a file that is new. No file becomes a directory and no directory a file, and
nothing disappears. So whatever path led somewhere still leads there, and dates say which files are
new.

Which locations may get directories, and which ones files with which content, are parameters: what
is outside of both is left alone.
-/

namespace CompiledViews.Disk

/-! ## Setting one node -/

theorem node?_put_root (disk : Disk) (node : Node) (l : Location) :
    (disk.put [] node).node? l = disk.node? l := by
  by_cases hl : l = []
  · simp [node?, hl]
  · simp [node?, put, hl, lookup_setNode]

/-- A directory that is stamped has the clock's date afterwards; nothing else changes. -/
theorem node?_touchDirectory (disk : Disk) (location l : Location) :
    (disk.touchDirectory location).node? l = disk.node? l ∨
    l = location ∧ disk.HasDirectory l ∧
      (disk.touchDirectory location).node? l = some (.directory disk.clock) := by
  rw [touchDirectory]
  split
  · next time hnode =>
    by_cases hroot : location = []
    · subst hroot
      exact .inl (node?_put_root ..)
    · rw [node?_put _ _ _ _ hroot]
      split
      · next h =>
        subst h
        exact .inr ⟨rfl, hasDirectory_of_node hnode, rfl⟩
      · exact .inl rfl
  · exact .inl rfl

@[simp] theorem here_put (disk : Disk) (location : Location) (node : Node) :
    (disk.put location node).here = disk.here := rfl

@[simp] theorem clock_put (disk : Disk) (location : Location) (node : Node) :
    (disk.put location node).clock = disk.clock := rfl

@[simp] theorem here_touchDirectory (disk : Disk) (location : Location) :
    (disk.touchDirectory location).here = disk.here := by
  rw [touchDirectory]
  split <;> rfl

@[simp] theorem clock_touchDirectory (disk : Disk) (location : Location) :
    (disk.touchDirectory location).clock = disk.clock := by
  rw [touchDirectory]
  split <;> rfl

@[simp] theorem here_place (disk : Disk) (location : Location) (node : Node) :
    (disk.place location node).here = disk.here := by
  simp [place]

@[simp] theorem clock_place (disk : Disk) (location : Location) (node : Node) :
    (place location node disk).clock = disk.clock := by
  simp [place]

/-- What placing a node does: the node itself, and the stamp on the directory around it. -/
theorem node?_place (disk : Disk) (directory : Location) (name : Text) (node : Node)
    (l : Location) :
    (l = directory ++ [name] ∧ (place (directory ++ [name]) node disk).node? l = some node) ∨
    (l = directory ∧ disk.HasDirectory l ∧
      (place (directory ++ [name]) node disk).node? l = some (.directory disk.clock)) ∨
    (l ≠ directory ++ [name] ∧
      (place (directory ++ [name]) node disk).node? l = disk.node? l) := by
  have hput := node?_put disk (directory ++ [name]) l node (by simp)
  rw [place, List.dropLast_concat]
  obtain htouch | ⟨rfl, hdirectory, htouch⟩ :=
    node?_touchDirectory (disk.put (directory ++ [name]) node) directory l
  · rw [htouch, hput]
    split
    · next h => exact .inl ⟨h, rfl⟩
    · next h => exact .inr (.inr ⟨h, rfl⟩)
  · rw [if_neg (by simp)] at hput
    refine .inr (.inl ⟨rfl, ?_, htouch⟩)
    rwa [HasDirectory, kind, hput] at hdirectory

/-! ## Growth -/

/-- What may become of a location of a disk that grows. -/
inductive Outcome (rooms : Location → Prop) (files : Location → ByteArray → Prop)
    (disk disk' : Disk) (l : Location) : Prop
  /-- The location is as it was. -/
  | kept (h : disk'.node? l = disk.node? l)
  /-- A directory was made. -/
  | made (time : Time) (hroom : rooms l) (hnone : disk.node? l = none)
      (hsince : disk.clock < time) (huntil : time ≤ disk'.clock)
      (h : disk'.node? l = some (.directory time))
  /-- A directory got a new date, because an entry of it is new. -/
  | stamped (time : Time) (name : Text)
      (hentry : rooms (l ++ [name]) ∧ ¬disk.HasDirectory (l ++ [name]) ∨
        ∃ content, files (l ++ [name]) content)
      (hdirectory : disk.HasDirectory l) (hsince : disk.clock < time) (huntil : time ≤ disk'.clock)
      (h : disk'.node? l = some (.directory time))
  /-- A file was written where there was no directory. -/
  | file (content : ByteArray) (time : Time) (hfile : files l content)
      (hdirectory : ¬disk.HasDirectory l) (hsince : disk.clock < time) (huntil : time ≤ disk'.clock)
      (h : disk'.node? l = some (.file content time))

/-- Whether one disk has grown to another one: `rooms` are the locations where directories may be
made, `files` those that may get files, and with which content. -/
structure Grows (rooms : Location → Prop) (files : Location → ByteArray → Prop)
    (disk disk' : Disk) : Prop where
  here : disk'.here = disk.here
  clock : disk.clock ≤ disk'.clock
  outcome : ∀ l, Outcome rooms files disk disk' l

variable {rooms : Location → Prop} {files : Location → ByteArray → Prop}
  {disk disk' disk'' : Disk} {p : Path}

namespace Grows

theorem refl (disk : Disk) : disk.Grows rooms files disk :=
  ⟨rfl, Nat.le_refl _, fun _ ↦ .kept rfl⟩

theorem tick (disk : Disk) : disk.Grows rooms files disk.tick :=
  ⟨rfl, Nat.le_succ _, fun _ ↦ .kept rfl⟩

/-- Where nothing may be added, neither at a location nor below it, the location is kept. -/
theorem frame (h : disk.Grows rooms files disk') {l : Location}
    (hl : ∀ l', l <+: l' → ¬rooms l' ∧ ∀ content, ¬files l' content) :
    disk'.node? l = disk.node? l := by
  cases h.outcome l with
  | kept hkept => exact hkept
  | made _ hroom => exact absurd hroom (hl l List.prefix_rfl).1
  | stamped _ name hentry =>
    have hname := hl (l ++ [name]) (List.prefix_append _ _)
    rcases hentry with ⟨hroom, -⟩ | ⟨content, hfile⟩
    · exact absurd hroom hname.1
    · exact absurd hfile (hname.2 content)
  | file content _ hfile => exact absurd hfile ((hl l List.prefix_rfl).2 content)

theorem hasDirectory (h : disk.Grows rooms files disk') {l : Location}
    (hl : disk.HasDirectory l) : disk'.HasDirectory l := by
  cases h.outcome l with
  | kept hkept => rwa [HasDirectory, kind, hkept]
  | made _ _ _ _ _ hnode => exact hasDirectory_of_node hnode
  | stamped _ _ _ _ _ _ hnode => exact hasDirectory_of_node hnode
  | file _ _ _ hdirectory => exact absurd hl hdirectory

/-- A file that is there afterwards was there before, or has been written. -/
theorem file_kept_or_written (h : disk.Grows rooms files disk') {l : Location} {content : ByteArray}
    {time : Time} (hfile : disk'.node? l = some (.file content time)) :
    disk.node? l = some (.file content time) ∨ files l content ∧ time ≤ disk'.clock := by
  cases h.outcome l with
  | kept hkept => exact .inl (hkept.symm.trans hfile)
  | made _ _ _ _ _ hnode =>
    rw [hnode] at hfile
    cases hfile
  | stamped _ _ _ _ _ _ hnode =>
    rw [hnode] at hfile
    cases hfile
  | file _ _ hallowed _ _ huntil hnode =>
    rw [hnode] at hfile
    cases hfile
    exact .inr ⟨hallowed, huntil⟩

theorem date_le (h : disk.Grows rooms files disk') {l : Location} {content : ByteArray}
    {time : Time} (hold : disk.node? l = some (.file content time) → time ≤ disk.clock)
    (hnew : disk'.node? l = some (.file content time)) : time ≤ disk'.clock := by
  rcases h.file_kept_or_written hnew with hkept | ⟨-, huntil⟩
  · exact Nat.le_trans (hold hkept) h.clock
  · exact huntil

theorem stat_file (h : disk.Grows rooms files disk') {content : ByteArray} {time : Time}
    (hstat : disk.stat p = .ok (.file content time))
    (hfiles : ∀ content, ¬files (p.goal disk.here) content) : disk'.stat p = disk.stat p := by
  obtain ⟨⟨d, hd⟩, hnode⟩ := stat_eq_ok hstat
  refine stat_congr h.here (fun l hl ↦ ?_) ?_
  · have hdirectory := hasDirectory_of_destination hd hl
    exact (h.hasDirectory hdirectory).trans hdirectory.symm
  · cases h.outcome (p.goal disk.here) with
    | kept hkept => exact hkept
    | made _ _ hnone => exact absurd (hnone.symm.trans hnode) (by simp)
    | stamped _ _ _ hdirectory =>
      rw [HasDirectory, kind, hnode] at hdirectory
      cases hdirectory
    | file content' _ hfile => exact absurd hfile (hfiles content')

theorem kind_of_ne (h : disk.Grows rooms files disk') {l : Location} (hl : disk.node? l ≠ none) :
    disk'.kind l = disk.kind l := by
  cases h.outcome l with
  | kept hkept => rw [kind, kind, hkept]
  | made _ _ hnone => exact absurd hnone hl
  | stamped _ _ _ hdirectory _ _ hnode => exact (hasDirectory_of_node hnode).trans hdirectory.symm
  | file _ _ _ hdirectory _ _ hnode =>
    rw [HasDirectory, kind] at hdirectory
    rw [kind, kind, hnode]
    cases hold : disk.node? l with
    | none => exact absurd hold hl
    | some node =>
      cases node with
      | directory time => exact absurd (congrArg _ hold) hdirectory
      | file content time => rfl

/-- A way is now what it was before, unless something was missing on it. -/
theorem follow (h : disk.Grows rooms files disk') (slashed : Bool) (names : List Text)
    (location : Location) :
    disk.follow slashed location names = .error .notFound ∨
      disk'.follow slashed location names = disk.follow slashed location names := by
  induction names generalizing location with
  | nil => exact .inr rfl
  | cons name rest ih =>
    rw [Disk.follow, Disk.follow]
    split
    · exact ih _
    split
    · exact ih _
    split
    · exact .inr rfl
    split
    · exact .inr rfl
    cases hnode : disk.node? (location ++ [name]) with
    | none => exact .inl rfl
    | some node =>
      have hkind := h.kind_of_ne (by simp [hnode] : disk.node? (location ++ [name]) ≠ none)
      rw [kind, kind, hnode, Option.map_some, Option.map_eq_some_iff] at hkind
      obtain ⟨node', hnode', hsame⟩ := hkind
      rw [hnode']
      cases node <;> cases node' <;> cases hsame
      · exact .inr rfl
      · exact ih _

theorem stat_notFound (h : disk.Grows rooms files disk') (hstat : disk'.stat p = .error .notFound) :
    disk.stat p = .error .notFound := by
  have hdestination : disk.destination p = .error .notFound ∨
      disk'.destination p = disk.destination p := by
    rw [destination, destination, h.here]
    split
    · exact .inr rfl
    split
    · exact .inr rfl
    split
    · exact .inr rfl
    exact h.follow _ _ _
  rcases hdestination with hmissing | hsame
  · rw [stat, hmissing, Except.bind]
  · cases hd : disk.destination p with
    | error fault =>
      rw [stat, hsame, hd] at hstat
      rw [stat, hd]
      exact hstat
    | ok d =>
      rw [stat_eq_bind (hsame.trans hd), h.here, Destination.found_eq_notFound] at hstat
      rw [stat_eq_bind hd, Destination.found_eq_notFound]
      by_contra hthere
      have hkind := h.kind_of_ne hthere
      rw [kind, kind, hstat, Option.map_none] at hkind
      exact hthere (Option.map_eq_none_iff.mp hkind.symm)

theorem trans (h : disk.Grows rooms files disk') (h' : disk'.Grows rooms files disk'') :
    disk.Grows rooms files disk'' := by
  refine ⟨h'.here.trans h.here, Nat.le_trans h.clock h'.clock, fun l ↦ ?_⟩
  -- the later of the two changes decides; only what stood there before is asked of the earlier one
  cases h'.outcome l with
  | kept hkept' =>
    cases h.outcome l with
    | kept hkept => exact .kept (hkept'.trans hkept)
    | made time hroom hnone hsince huntil hnode =>
      exact .made time hroom hnone hsince (Nat.le_trans huntil h'.clock) (hkept'.trans hnode)
    | stamped time name hentry hdirectory hsince huntil hnode =>
      exact .stamped time name hentry hdirectory hsince (Nat.le_trans huntil h'.clock)
        (hkept'.trans hnode)
    | file content time hfile hdirectory hsince huntil hnode =>
      exact .file content time hfile hdirectory hsince (Nat.le_trans huntil h'.clock)
        (hkept'.trans hnode)
  | made time' hroom' hnone' hsince' huntil' hnode' =>
    refine .made time' hroom' ?_ (Nat.lt_of_le_of_lt h.clock hsince') huntil' hnode'
    cases h.outcome l with
    | kept hkept => exact hkept.symm.trans hnone'
    | made _ _ hnone => exact hnone
    | stamped _ _ _ _ _ _ hnode => exact absurd (hnode.symm.trans hnone') (by simp)
    | file _ _ _ _ _ _ hnode => exact absurd (hnode.symm.trans hnone') (by simp)
  | stamped time' name' hentry' hdirectory' hsince' huntil' hnode' =>
    have hsince : disk.clock < time' := Nat.lt_of_le_of_lt h.clock hsince'
    have hentry := hentry'.imp_left fun ⟨hroom, hnone⟩ ↦
      And.intro hroom fun hold ↦ hnone (h.hasDirectory hold)
    cases h.outcome l with
    | kept hkept =>
      rw [HasDirectory, kind, hkept] at hdirectory'
      exact .stamped time' name' hentry hdirectory' hsince huntil' hnode'
    | made _ hroom hnone => exact .made time' hroom hnone hsince huntil' hnode'
    | stamped _ _ _ hdirectory =>
      exact .stamped time' name' hentry hdirectory hsince huntil' hnode'
    | file _ _ _ _ _ _ hnode =>
      rw [HasDirectory, kind, hnode] at hdirectory'
      cases hdirectory'
  | file content time' hfile' hdirectory' hsince' huntil' hnode' =>
    exact .file content time' hfile' (fun hl ↦ hdirectory' (h.hasDirectory hl))
      (Nat.lt_of_le_of_lt h.clock hsince') huntil' hnode'

theorem mono {rooms' : Location → Prop} {files' : Location → ByteArray → Prop}
    (h : disk.Grows rooms files disk') (hrooms : ∀ l, rooms l → rooms' l)
    (hfiles : ∀ l content, files l content → files' l content) :
    disk.Grows rooms' files' disk' := by
  refine ⟨h.here, h.clock, fun l ↦ ?_⟩
  cases h.outcome l with
  | kept hkept => exact .kept hkept
  | made time hroom hnone hsince huntil hnode =>
    exact .made time (hrooms l hroom) hnone hsince huntil hnode
  | stamped time name hentry hdirectory hsince huntil hnode =>
    exact .stamped time name
      (hentry.imp (And.imp_left (hrooms _)) fun ⟨content, hfile⟩ ↦
        ⟨content, hfiles _ content hfile⟩)
      hdirectory hsince huntil hnode
  | file content time hfile hdirectory hsince huntil hnode =>
    exact .file content time (hfiles l content hfile) hdirectory hsince huntil hnode

end Grows

/-- What is not as it was is new. -/
theorem Grows.kept_or_newer (h : disk.Grows rooms files disk') (l : Location) :
    disk'.node? l = disk.node? l ∨ ∀ node, disk'.node? l = some node →
      disk.clock < node.modified ∧ node.modified ≤ disk'.clock := by
  have hnew : ∀ new, disk'.node? l = some new → disk.clock < new.modified →
      new.modified ≤ disk'.clock → ∀ node, disk'.node? l = some node →
        disk.clock < node.modified ∧ node.modified ≤ disk'.clock := by
    intro new hnode hsince huntil node hnode'
    rw [← Option.some.inj (hnode.symm.trans hnode')]
    exact ⟨hsince, huntil⟩
  cases h.outcome l with
  | kept hkept => exact .inl hkept
  | made _ _ _ hsince huntil hnode => exact .inr (hnew _ hnode hsince huntil)
  | stamped _ _ _ _ hsince huntil hnode => exact .inr (hnew _ hnode hsince huntil)
  | file _ _ _ _ hsince huntil hnode => exact .inr (hnew _ hnode hsince huntil)

/-- A location is kept if neither it nor an entry of it may get a file, and there is a directory
already wherever one may be made. -/
theorem Grows.frame_of_hasDirectory (h : disk.Grows rooms files disk') {l : Location}
    (hrooms : ∀ l', rooms l' → l' = l ∨ l'.dropLast = l → disk.HasDirectory l')
    (hfiles : ∀ l' content, files l' content → l' ≠ l ∧ l'.dropLast ≠ l) :
    disk'.node? l = disk.node? l := by
  cases h.outcome l with
  | kept hkept => exact hkept
  | made _ hroom hnone =>
    have hdirectory := hrooms l hroom (.inl rfl)
    rw [HasDirectory, kind, hnone] at hdirectory
    cases hdirectory
  | stamped _ name hentry =>
    have hdropLast : (l ++ [name]).dropLast = l := List.dropLast_concat
    rcases hentry with ⟨hroom, hnew⟩ | ⟨content, hfile⟩
    · exact absurd (hrooms _ hroom (.inr hdropLast)) hnew
    · exact absurd hdropLast (hfiles _ content hfile).2
  | file content _ hfile => exact absurd rfl (hfiles _ content hfile).1

/-! ## Actions under which a disk grows -/

theorem grows_place_directory (disk : Disk) {directory : Location} {name : Text}
    (hroom : rooms (directory ++ [name])) (hnone : disk.node? (directory ++ [name]) = none) :
    disk.Grows rooms files
      (place (directory ++ [name]) (.directory (disk.clock + 1)) disk.tick) := by
  have hclock : (place (directory ++ [name]) (.directory (disk.clock + 1)) disk.tick).clock
      = disk.clock + 1 := clock_place ..
  refine ⟨here_place .., by rw [hclock]; exact Nat.le_succ _, fun l ↦ ?_⟩
  obtain ⟨rfl, hnode⟩ | ⟨rfl, hdirectory, hnode⟩ | ⟨-, hnode⟩ :=
    node?_place disk.tick directory name (.directory (disk.clock + 1)) l
  · exact .made _ hroom hnone (Nat.lt_succ_self _) (Nat.le_of_eq hclock.symm) hnode
  · have hnew : ¬disk.HasDirectory (l ++ [name]) := by
      simp [HasDirectory, kind, hnone]
    exact .stamped _ name (.inl ⟨hroom, hnew⟩) hdirectory (Nat.lt_succ_self _)
      (Nat.le_of_eq hclock.symm) hnode
  · exact .kept hnode

theorem grows_place_file (disk : Disk) {directory : Location} {name : Text} {content : ByteArray}
    (hfile : files (directory ++ [name]) content)
    (hnone : ¬disk.HasDirectory (directory ++ [name])) :
    disk.Grows rooms files
      (place (directory ++ [name]) (.file content (disk.clock + 1)) disk.tick.tick) := by
  have hclock : (place (directory ++ [name]) (.file content (disk.clock + 1)) disk.tick.tick).clock
      = disk.clock + 2 := clock_place ..
  refine ⟨here_place .., by rw [hclock]; exact Nat.le_add_right _ 2, fun l ↦ ?_⟩
  obtain ⟨rfl, hnode⟩ | ⟨rfl, hdirectory, hnode⟩ | ⟨-, hnode⟩ :=
    node?_place disk.tick.tick directory name (.file content (disk.clock + 1)) l
  · exact .file content _ hfile hnone (Nat.lt_succ_self _) (by rw [hclock]; exact Nat.le_succ _)
      hnode
  · exact .stamped (disk.clock + 2) name (.inr ⟨content, hfile⟩) hdirectory
      (Nat.lt_add_of_pos_right Nat.two_pos) (Nat.le_of_eq hclock.symm) hnode
  · exact .kept hnode

/-- Whether a disk grows under an action, given its working directory. -/
def Adds {ε α : Type} (here : Location) (rooms : Location → Prop)
    (files : Location → ByteArray → Prop) (action : Action ε α) : Prop :=
  ∀ disk : Disk, disk.here = here → disk.Grows rooms files (action.run.run disk).2

section Adds

variable {ε ε' α β : Type} {here : Location}

theorem adds_pure (a : α) : Adds here rooms files (pure a : Action ε α) := fun disk _ ↦ .refl disk

theorem adds_throw (e : ε) : Adds here rooms files (throw e : Action ε α) := fun disk _ ↦ .refl disk

theorem adds_get : Adds here rooms files (get : Action ε Disk) := fun disk _ ↦ .refl disk

theorem adds_attempt {action : Action ε α} (h : Adds here rooms files action) :
    Adds here rooms files (attempt action : Action ε' (Except ε α)) := h

theorem adds_bind {action : Action ε α} {f : α → Action ε β} (h : Adds here rooms files action)
    (hf : ∀ a, Adds here rooms files (f a)) : Adds here rooms files (action >>= f) := by
  intro disk hhere
  have hfirst := h disk hhere
  rw [run_bind]
  rcases hrun : action.run.run disk with ⟨e | a, disk₁⟩
  · rw [hrun] at hfirst
    exact hfirst
  · rw [hrun] at hfirst
    exact hfirst.trans (hf a disk₁ (hfirst.here.trans hhere))

theorem adds_makeDirectory
    (hrooms : ∀ l ∈ entered (p.start here) p.names, rooms l) :
    Adds here rooms files (makeDirectory p) := by
  rintro disk rfl
  obtain ⟨fault, hrun⟩ | ⟨directory, name, slashed, hd, hnone, hrun⟩ := makeDirectory_cases p disk
  · rw [hrun]
    exact .refl disk
  · rw [hrun]
    exact grows_place_directory disk (hrooms _ (entry_of_destination hd).1) hnone

theorem adds_makeChain (chain : List Path)
    (hrooms : ∀ p ∈ chain, ∀ l ∈ entered (p.start here) p.names, rooms l) :
    Adds here rooms files (makeChain chain) := by
  have haccept : ∀ (p : Path) (fault : IoFault), Adds here rooms files
      (do if (← get).isDirectory p then return else throw fault : Action IoFault Unit) := by
    intro p fault
    refine adds_bind adds_get fun disk ↦ ?_
    split
    · exact adds_pure ()
    · exact adds_throw fault
  induction chain with
  | nil => exact adds_pure ()
  | cons p ancestors ih =>
    have hp : Adds here rooms files (makeDirectory p) :=
      adds_makeDirectory (hrooms p List.mem_cons_self)
    rw [makeChain]
    refine adds_bind (adds_attempt hp) fun answer ↦ ?_
    split
    · exact adds_pure ()
    · refine adds_bind (ih fun q hq ↦ hrooms q (List.mem_cons_of_mem p hq)) fun _ ↦ ?_
      refine adds_bind (adds_attempt hp) fun answer ↦ ?_
      split
      · exact adds_pure ()
      · exact haccept p _
    · exact haccept p _

/-- The directories made are on the way of the path, since its ancestors are. -/
theorem adds_makeDirectories
    (hrooms : ∀ l ∈ entered (p.start here) p.names, rooms l) :
    Adds here rooms files (makeDirectories p) := by
  refine adds_makeChain _ fun q hq l hl ↦ hrooms l ?_
  obtain ⟨habsolute, hnames⟩ := Path.names_of_mem_ancestors (List.mem_filter.mp hq).1
  rw [Path.start_of_isAbsolute habsolute] at hl
  exact mem_entered_of_prefix hnames hl

/-- The date of a draft is that of its writing, which is before it gets its name. -/
theorem adds_publish_draft {directory : Path} {content : ByteArray}
    (hfiles : files (p.goal here) content) :
    Adds here rooms files (do publish (← draft directory content) p : Action IoFault Unit) := by
  rintro disk rfl
  have hticked : ∀ location : Location, disk.Grows rooms files
      ((publish ⟨location, content, disk.clock + 1⟩ p).run.run disk.tick).2 := by
    intro location
    obtain ⟨fault, hrun⟩ | ⟨place', name, hd, hdirectory, hrun⟩ :=
      publish_cases ⟨location, content, disk.clock + 1⟩ p disk.tick
    · rw [hrun]
      exact .tick disk
    · rw [hrun]
      have hlocation : place' ++ [name] = p.goal disk.here := location_of_destination hd
      exact grows_place_file disk (hlocation ▸ hfiles) hdirectory
  rw [run_bind, run_draft]
  rcases disk.destination (directory.join ⟨['d']⟩) with fault | location | ⟨location, name, slashed⟩
  · exact .refl disk
  · exact hticked location
  · exact hticked location

end Adds

end CompiledViews.Disk
