import CompiledViews.Proofs.Disk.Edit

/-!
# Files with a date of their own

Whoever puts a file in place, as a deployment or an archive does, may give it any date. Writing a
file and dating it changes that file, and otherwise at most the dates of directories.
-/

namespace CompiledViews.Disk

variable {disk disk' : Disk} {l location : Location} {p : Path}

/-! ## What is kept -/

/-- Whether a location holds what it did, but for the date of a directory. -/
def Keeps (disk disk' : Disk) (l : Location) : Prop :=
  disk'.node? l = disk.node? l ∨ disk.HasDirectory l ∧ disk'.HasDirectory l

theorem Keeps.kind_eq (h : disk.Keeps disk' l) : disk'.kind l = disk.kind l := by
  rcases h with hsame | ⟨hold, hnew⟩
  · rw [kind, kind, hsame]
  · exact hnew.trans hold.symm

theorem Keeps.node? (h : disk.Keeps disk' l) (hl : ¬disk.HasDirectory l) :
    disk'.node? l = disk.node? l := h.resolve_right fun hdirectory ↦ hl hdirectory.1

theorem Keeps.file (h : disk.Keeps disk' l) {content : ByteArray} {time : Time}
    (hnode : disk'.node? l = some (.file content time)) :
    disk.node? l = some (.file content time) := by
  rcases h with hsame | ⟨-, hnew⟩
  · exact hsame.symm.trans hnode
  · rw [HasDirectory, kind, hnode] at hnew
    simp [Node.isDirectory] at hnew

theorem keeps_touchDirectory (disk : Disk) (location l : Location) :
    disk.Keeps (disk.touchDirectory location) l := by
  rcases node?_touchDirectory disk location l with hsame | ⟨-, hold, hnew⟩
  · exact .inl hsame
  · exact .inr ⟨hold, hasDirectory_of_node hnew⟩

theorem keeps_place (disk : Disk) {directory : Location} {name : Text} (node : Node)
    (hne : l ≠ directory ++ [name]) : disk.Keeps (place (directory ++ [name]) node disk) l := by
  rcases node?_place disk directory name node l with ⟨heq, -⟩ | ⟨-, hold, hnew⟩ | ⟨-, hsame⟩
  · exact absurd heq hne
  · exact .inr ⟨hold, hasDirectory_of_node hnew⟩
  · exact .inl hsame

theorem keeps_remove (p : Path) (disk : Disk) (l : Location) :
    ((remove p).run.run disk).2.node? l = none ∨ disk.Keeps ((remove p).run.run disk).2 l := by
  rcases run_remove p disk with hrun | hrun
  · rw [hrun]
    exact .inr (.inl rfl)
  · rw [hrun]
    have herase : (disk.tick.erase (p.goal disk.here)).node? l = none ∨
        (disk.tick.erase (p.goal disk.here)).node? l = disk.node? l := by
      rw [node?_erase]
      split
      · exact .inl rfl
      · exact .inr rfl
    rcases keeps_touchDirectory (disk.tick.erase (p.goal disk.here)) (p.goal disk.here).dropLast l
      with hsame | ⟨hold, hnew⟩
    · rw [Keeps, hsame]
      exact herase.imp_right .inl
    · rcases herase with hgone | hkept
      · rw [HasDirectory, kind, hgone] at hold
        cases hold
      · rw [HasDirectory, kind, hkept] at hold
        exact .inr (.inr ⟨hold, hnew⟩)

/-! ## Writing with a date -/

/-- Writes a file and sets its date. -/
def writeDated (p : Path) (content : ByteArray) (date : Time) : Action IoFault Unit := do
  write p content
  setModified p date

theorem run_setModified (p : Path) (time : Time) (disk : Disk) {d : Destination} {node : Node}
    (hd : disk.destination p = .ok d) (hnode : disk.nodeAt d = .ok node) :
    (setModified p time).run.run disk
      = (.ok (), disk.put d.location (node.withModified time)) := by
  rw [setModified, run_bind, run_query, hd]
  simp only [run_bind, run_query, hnode]
  rfl

/-- What comes of a file that is written and dated, if anything does. -/
structure WrittenAt (p : Path) (content : ByteArray) (date : Time) (disk disk' : Disk) : Prop where
  here : disk'.here = disk.here
  clock : disk'.clock = disk.clock + 1
  file : disk'.node? (p.goal disk.here) = some (.file content date)
  others : ∀ l, l ≠ p.goal disk.here → disk.Keeps disk' l
  /-- The path ends in a name. -/
  entry : ∃ directory name, disk.destination p = .ok (.entry directory name false)

/-- Writing with a date fails and changes nothing, or the file is there with this date. -/
theorem run_writeDated (p : Path) (content : ByteArray) (date : Time) (disk : Disk) :
    (∃ fault, (writeDated p content date).run.run disk = (.error fault, disk)) ∨
    ∃ disk', (writeDated p content date).run.run disk = (.ok (), disk') ∧
      WrittenAt p content date disk disk' := by
  obtain ⟨fault, hrun⟩ | ⟨directory, name, hd, hdirectory, hwrite⟩ := run_write p content disk
  · refine .inl ⟨fault, ?_⟩
    rw [writeDated, run_bind, hrun]
  · have hgoal : directory ++ [name] = p.goal disk.here := location_of_destination hd
    obtain ⟨disk₁, hrun, hhere, hclock, hfile, hothers⟩ : ∃ disk₁,
        (write p content).run.run disk = (.ok (), disk₁) ∧ disk₁.here = disk.here ∧
          disk₁.clock = disk.clock + 1 ∧
          disk₁.node? (directory ++ [name]) = some (.file content (disk.clock + 1)) ∧
          ∀ l, l ≠ directory ++ [name] → disk.Keeps disk₁ l := by
      rcases hwrite with hrun | hrun
      · refine ⟨_, hrun, rfl, rfl, ?_, fun l hl ↦ .inl ?_⟩
        · rw [node?_put _ _ _ _ (by simp), if_pos rfl]
        · rw [node?_put _ _ _ _ (by simp), if_neg hl, node?_tick]
      · refine ⟨_, hrun, here_place .., clock_place .., ?_, fun l hl ↦ keeps_place disk.tick _ hl⟩
        rcases node?_place disk.tick directory name (.file content (disk.clock + 1))
          (directory ++ [name]) with ⟨-, hnew⟩ | ⟨heq, -⟩ | ⟨hne, -⟩
        · exact hnew
        · simp at heq
        · exact absurd rfl hne
    -- the path still leads to the file, for no directory on its way has changed into anything else
    have hd₁ : disk₁.destination p = .ok (.entry directory name false) := by
      rw [← hd]
      refine destination_congr hhere fun l hl ↦ (hothers l ?_).kind_eq
      rintro rfl
      exact hdirectory (hasDirectory_of_destination hd hl)
    have hnodeAt : disk₁.nodeAt (.entry directory name false)
        = .ok (.file content (disk.clock + 1)) := by
      rw [nodeAt_eq_found, Destination.location, hfile]
      rfl
    refine .inr ⟨disk₁.put (directory ++ [name]) (.file content date), ?_, hhere, hclock, ?_, ?_,
      directory, name, hd⟩
    · rw [writeDated, run_bind, hrun]
      exact run_setModified p date disk₁ hd₁ hnodeAt
    · rw [← hgoal, node?_put _ _ _ _ (by simp), if_pos rfl]
    · intro l hl
      rw [← hgoal] at hl
      rw [Keeps, HasDirectory, HasDirectory, kind, kind, node?_put _ _ _ _ (by simp), if_neg hl]
      exact hothers l hl

end CompiledViews.Disk
