import CompiledViews.Proofs.Disk.Growth

/-!
# Disks that look alike

Two disks look alike when they show the same files and directories, apart from dates and from what
is in some region. Paths that keep out of the region lead to the same places on both, and give the
same bytes.
-/

namespace CompiledViews.Disk

/-- Whether two disks show the same outside a region, dates aside. -/
structure Alike (region : Location → Prop) (disk disk' : Disk) : Prop where
  here : disk'.here = disk.here
  sight : ∀ l, ¬region l → disk'.sight l = disk.sight l

variable {region region' : Location → Prop} {disk disk' disk'' : Disk} {p : Path}

namespace Alike

theorem refl (disk : Disk) : disk.Alike region disk := ⟨rfl, fun _ _ ↦ rfl⟩

theorem symm (h : disk.Alike region disk') : disk'.Alike region disk :=
  ⟨h.here.symm, fun l hl ↦ (h.sight l hl).symm⟩

theorem trans (h : disk.Alike region disk') (h' : disk'.Alike region disk'') :
    disk.Alike region disk'' :=
  ⟨h'.here.trans h.here, fun l hl ↦ (h'.sight l hl).trans (h.sight l hl)⟩

theorem mono (h : disk.Alike region disk') (hregion : ∀ l, region l → region' l) :
    disk.Alike region' disk' :=
  ⟨h.here, fun l hl ↦ h.sight l fun hold ↦ hl (hregion l hold)⟩

theorem of_node? (hhere : disk'.here = disk.here)
    (h : ∀ l, ¬region l → disk'.node? l = disk.node? l) : disk.Alike region disk' :=
  ⟨hhere, fun l hl ↦ congrArg (Option.map Node.sight) (h l hl)⟩

theorem destination (h : disk.Alike region disk') (hp : ∀ l ∈ p.way disk.here, ¬region l) :
    disk'.destination p = disk.destination p :=
  destination_congr h.here fun l hl ↦ kind_of_sight (h.sight l (hp l hl))

theorem stat (h : disk.Alike region disk') (hp : ∀ l ∈ p.trail disk.here, ¬region l) :
    (disk'.stat p).map Node.sight = (disk.stat p).map Node.sight :=
  stat_map_of_sight h.here fun l hl ↦ h.sight l (hp l hl)

theorem read (h : disk.Alike region disk') (hp : ∀ l ∈ p.trail disk.here, ¬region l) :
    disk'.read p = disk.read p :=
  read_of_stat_map (h.stat hp)

end Alike

/-- Placing a node in a directory changes what that location shows, and nothing else. -/
theorem sight_place (disk : Disk) {directory : Location} {name : Text} (node : Node)
    {l : Location} (hl : l ≠ directory ++ [name]) :
    (place (directory ++ [name]) node disk).sight l = disk.sight l := by
  obtain ⟨rfl, -⟩ | ⟨rfl, hdirectory, hnode⟩ | ⟨-, hnode⟩ :=
    node?_place disk directory name node l
  · exact absurd rfl hl
  · obtain ⟨time, htime⟩ := hdirectory.exists_node
    rw [sight, sight, hnode, htime]
    rfl
  · rw [sight, sight, hnode]

theorem sight_place_self (disk : Disk) (directory : Location) (name : Text) (node : Node) :
    (place (directory ++ [name]) node disk).sight (directory ++ [name]) = some node.sight := by
  obtain ⟨-, hnode⟩ | ⟨heq, -⟩ | ⟨hne, -⟩ :=
    node?_place disk directory name node (directory ++ [name])
  · rw [sight, hnode]
    rfl
  · simp at heq
  · exact absurd rfl hne

end CompiledViews.Disk
