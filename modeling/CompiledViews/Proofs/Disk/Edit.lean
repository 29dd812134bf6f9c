import CompiledViews.Proofs.Disk.Growth

/-!
# Edits by others

While somebody keeps files of their own on a disk, others may change the rest of it. What they do is
described by what it leaves alone. Own locations are not touched at all. Locations that are watched
may change in any way, and also disappear, but what is new there is dated by the clock; at some of
them a moment may be taken, because what stood there was dated ahead to it, and nothing new is put
there at that moment. About all other locations nothing is said.

Writing and removing files are such edits, and so is making directories. What sets dates is not, but
it spares what is not touched.
-/

namespace CompiledViews.Disk

/-- Whether one disk may have become another one by the edits of others. -/
structure Edited (own watched : Location → Prop) (taken : Location → Time → Prop)
    (disk disk' : Disk) : Prop where
  here : disk'.here = disk.here
  clock : disk.clock ≤ disk'.clock
  own : ∀ l, own l → disk'.node? l = disk.node? l
  watched : ∀ l, watched l → disk'.node? l = disk.node? l ∨ ∀ node, disk'.node? l = some node →
    disk.clock < node.modified ∧ node.modified ≤ disk'.clock ∧ ¬taken l node.modified

/-- Whether one disk may have become another one without some locations being touched. -/
structure Spares (own : Location → Prop) (disk disk' : Disk) : Prop where
  here : disk'.here = disk.here
  clock : disk.clock ≤ disk'.clock
  own : ∀ l, own l → disk'.node? l = disk.node? l

/-- Whether one disk may have become another one without a file being written in a region; files
may have been removed. -/
structure Unwritten (own : Location → Prop) (disk disk' : Disk) : Prop where
  here : disk'.here = disk.here
  clock : disk.clock ≤ disk'.clock
  files : ∀ l content time, own l → disk'.node? l = some (.file content time) →
    disk.node? l = some (.file content time)

variable {own watched : Location → Prop} {taken : Location → Time → Prop} {disk disk' : Disk}
  {p : Path}

theorem Spares.unwritten (h : disk.Spares own disk') : disk.Unwritten own disk' :=
  ⟨h.here, h.clock, fun l _ _ hl hfile ↦ (h.own l hl).symm.trans hfile⟩

namespace Edited

theorem spares (h : disk.Edited own watched taken disk') : disk.Spares own disk' :=
  ⟨h.here, h.clock, h.own⟩

theorem mono {own' watched' : Location → Prop} (h : disk.Edited own watched taken disk')
    (hown : ∀ l, own' l → own l) (hwatched : ∀ l, watched' l → watched l) :
    disk.Edited own' watched' taken disk' :=
  ⟨h.here, h.clock, fun l hl ↦ h.own l (hown l hl), fun l hl ↦ h.watched l (hwatched l hl)⟩

theorem refl (disk : Disk) : disk.Edited own watched taken disk :=
  ⟨rfl, Nat.le_refl _, fun _ _ ↦ rfl, fun _ _ ↦ .inl rfl⟩

theorem tick (disk : Disk) : disk.Edited own watched taken disk.tick :=
  ⟨rfl, Nat.le_succ _, fun _ _ ↦ rfl, fun _ _ ↦ .inl rfl⟩

/-- A change at one moment: what is not as it was is not one's own, and it is gone or has the date of
that moment. -/
theorem of_moment (hhere : disk'.here = disk.here) (hclock : disk'.clock = disk.clock + 1)
    (h : ∀ l, disk'.node? l = disk.node? l ∨ ¬own l ∧ (disk'.node? l = none ∨
      ∃ node, disk'.node? l = some node ∧ node.modified = disk.clock + 1 ∧
        ¬taken l (disk.clock + 1))) :
    disk.Edited own watched taken disk' where
  here := hhere
  clock := by
    rw [hclock]
    exact Nat.le_succ _
  own l hl := (h l).resolve_right fun hchanged ↦ hchanged.1 hl
  watched l _ := by
    refine (h l).imp_right ?_
    rintro ⟨-, hgone | ⟨node, hnew, hdate, htime⟩⟩ other hother
    · cases hgone.symm.trans hother
    · cases hnew.symm.trans hother
      rw [hdate, hclock]
      exact ⟨Nat.lt_succ_self _, Nat.le_refl _, htime⟩

end Edited

theorem spares_put (disk : Disk) {location : Location} (node : Node) (hne : location ≠ [])
    (h : ¬own location) : disk.Spares own (disk.put location node) := by
  refine ⟨rfl, Nat.le_refl _, fun l hl ↦ ?_⟩
  rw [node?_put _ _ _ _ hne, if_neg]
  rintro rfl
  exact h hl

/-! ## Writing and removing -/

theorem run_write (p : Path) (content : ByteArray) (disk : Disk) :
    (∃ fault, (write p content).run.run disk = (.error fault, disk)) ∨
    ∃ directory name, disk.destination p = .ok (.entry directory name false) ∧
      ¬disk.HasDirectory (directory ++ [name]) ∧
      ((write p content).run.run disk
          = (.ok (), disk.tick.put (directory ++ [name]) (.file content (disk.clock + 1))) ∨
        (write p content).run.run disk
          = (.ok (), place (directory ++ [name]) (.file content (disk.clock + 1)) disk.tick)) := by
  rw [write, run_bind, run_query]
  rcases hd : disk.destination p with fault | location | ⟨directory, name, slashed⟩
  · exact .inl ⟨fault, rfl⟩
  · exact .inl ⟨.isADirectory, rfl⟩
  · simp only [run_bind, run_get]
    rcases hnode : disk.node? (directory ++ [name]) with _ | ⟨old, time⟩ | time
    · cases slashed with
      | true => exact .inl ⟨.isADirectory, rfl⟩
      | false => exact .inr ⟨directory, name, rfl, by simp [HasDirectory, kind, hnode], .inr rfl⟩
    · cases slashed with
      | true => exact .inl ⟨.notADirectory, rfl⟩
      | false => exact .inr ⟨directory, name, rfl,
        by simp [HasDirectory, kind, hnode, Node.isDirectory], .inl rfl⟩
    · exact .inl ⟨.isADirectory, rfl⟩

theorem edited_write (content : ByteArray) (hfile : ¬own (p.goal disk.here))
    (hdirectory : ¬own (p.goal disk.here).dropLast)
    (htime : ¬taken (p.goal disk.here) (disk.clock + 1))
    (htime' : ¬taken (p.goal disk.here).dropLast (disk.clock + 1)) :
    disk.Edited own watched taken ((write p content).run.run disk).2 := by
  obtain ⟨fault, hrun⟩ | ⟨directory, name, hd, -, hrun⟩ := run_write p content disk
  · rw [hrun]
    exact .refl disk
  · have hgoal : directory ++ [name] = p.goal disk.here := location_of_destination hd
    rw [← hgoal] at hfile hdirectory htime htime'
    rw [List.dropLast_concat] at hdirectory htime'
    rcases hrun with hrun | hrun
    · rw [hrun]
      refine .of_moment rfl rfl fun l ↦ ?_
      rw [node?_put _ _ _ _ (by simp)]
      split
      · next hl =>
        subst hl
        exact .inr ⟨hfile, .inr ⟨_, rfl, rfl, htime⟩⟩
      · exact .inl rfl
    · rw [hrun]
      refine .of_moment (here_place ..) (clock_place ..) fun l ↦ ?_
      obtain ⟨rfl, hnode⟩ | ⟨rfl, -, hnode⟩ | ⟨-, hnode⟩ :=
        node?_place disk.tick directory name (.file content (disk.clock + 1)) l
      · exact .inr ⟨hfile, .inr ⟨_, hnode, rfl, htime⟩⟩
      · exact .inr ⟨hdirectory, .inr ⟨_, hnode, rfl, htime'⟩⟩
      · exact .inl hnode

theorem lookup_filter (nodes : List (Location × Node)) (keep : Location → Bool) (l : Location) :
    (nodes.filter fun entry ↦ keep entry.1).lookup l = if keep l then nodes.lookup l else none := by
  induction nodes with
  | nil => simp
  | cons entry rest ih =>
    obtain ⟨other, node⟩ := entry
    rw [List.filter_cons]
    by_cases heq : l = other
    · subst heq
      by_cases hkeep : keep l
      · rw [if_pos hkeep, if_pos hkeep]
        simp
      · rw [if_neg hkeep, ih, if_neg hkeep, if_neg hkeep]
    · have hlookup : ∀ nodes, List.lookup l ((other, node) :: nodes) = nodes.lookup l := by
        intro nodes
        rw [List.lookup_cons, beq_eq_false_iff_ne.mpr heq]
      by_cases hkeep : keep other
      · rw [if_pos hkeep, hlookup, hlookup, ih]
      · rw [if_neg hkeep, hlookup, ih]

/-- What is left when a location has been erased: everything that is not below it. -/
theorem node?_erase (disk : Disk) (location l : Location) :
    (disk.erase location).node? l =
      if l ≠ [] ∧ location <+: l then none else disk.node? l := by
  by_cases hl : l = []
  · simp [node?, hl]
  · rw [node?, if_neg hl, erase, lookup_filter disk.nodes fun l ↦ !location.isPrefixOf l]
    by_cases hbelow : location <+: l
    · simp [hl, hbelow, List.isPrefixOf_iff_prefix.mpr hbelow]
    · simp [node?, hl, hbelow, Bool.eq_false_iff]

/-- Removing fails and changes nothing, or erases what the path leads to. -/
theorem run_remove (p : Path) (disk : Disk) :
    ((remove p).run.run disk).2 = disk ∨
      ((remove p).run.run disk).2
        = (disk.tick.erase (p.goal disk.here)).touchDirectory (p.goal disk.here).dropLast := by
  rw [remove, run_bind, run_query]
  cases hd : disk.destination p with
  | error fault => exact .inl rfl
  | ok d =>
    rw [← location_of_destination hd]
    simp only [run_bind, run_query]
    cases disk.nodeAt d with
    | error fault => exact .inl rfl
    | ok node => exact .inr rfl

/-- Removing something that is not of one's own, and has nothing of one's own below it. The moment
may be taken where it stood, for nothing is put there. -/
theorem edited_remove (hbelow : ∀ l, own l → ¬p.goal disk.here <+: l)
    (hdirectory : ¬own (p.goal disk.here).dropLast)
    (htime : ¬taken (p.goal disk.here).dropLast (disk.clock + 1)) :
    disk.Edited own watched taken ((remove p).run.run disk).2 := by
  rcases run_remove p disk with hrun | hrun
  · rw [hrun]
    exact .refl disk
  · rw [hrun]
    refine .of_moment (here_touchDirectory ..) (clock_touchDirectory ..) fun l ↦ ?_
    obtain htouch | ⟨rfl, -, htouch⟩ :=
      node?_touchDirectory (disk.tick.erase (p.goal disk.here)) (p.goal disk.here).dropLast l
    · rw [htouch, node?_erase]
      split
      · next h => exact .inr ⟨fun hl ↦ hbelow l hl h.2, .inl rfl⟩
      · exact .inl rfl
    · exact .inr ⟨hdirectory, .inr ⟨_, htouch, rfl, htime⟩⟩

theorem mem_nodes_of_node? {l : Location} {node : Node} (h : disk.node? l = some node) :
    l = [] ∧ node = .directory 0 ∨ (l, node) ∈ disk.nodes := by
  rw [node?] at h
  split at h
  · next hl => exact .inl ⟨hl, (Option.some.inj h).symm⟩
  · obtain ⟨before, after, hnodes, -⟩ := List.lookup_eq_some_iff.mp h
    exact .inr (by simp [hnodes])

theorem modified_le_of_nodes (h : ∀ entry ∈ disk.nodes, entry.2.modified ≤ disk.clock)
    {l : Location} {node : Node} (hnode : disk.node? l = some node) :
    node.modified ≤ disk.clock := by
  rcases mem_nodes_of_node? hnode with ⟨-, rfl⟩ | hmem
  · exact Nat.zero_le _
  · exact h _ hmem

theorem node?_eq_none_of_nodes {directory : Location}
    (h : ∀ entry ∈ disk.nodes, ¬Location.Inside directory entry.1) {l : Location}
    (hl : Location.Inside directory l) : disk.node? l = none := by
  rw [Option.eq_none_iff_forall_not_mem]
  intro node hnode
  rcases mem_nodes_of_node? hnode with ⟨rfl, -⟩ | hmem
  · exact hl.2 (List.prefix_nil.mp hl.1).symm
  · exact h _ hmem hl

end CompiledViews.Disk
