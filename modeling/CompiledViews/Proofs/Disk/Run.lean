import CompiledViews.Disk.Change
import CompiledViews.Proofs.Disk.Trail

/-!
# Running actions on the disk

Each elementary action either fails and leaves the disk as it is, or reads the clock and does one
thing to one location. That is said here once for every action, as the ways in which it may end;
what follows about longer actions is derived from it.

An action is run as a function from a disk to an answer and another disk, so equations about runs
are equations between pairs.
-/

namespace CompiledViews.Disk

section Run

variable {ε ε' α β : Type}

@[simp] theorem mapError_ok (f : ε → ε') (a : α) :
    (Except.ok a : Except ε α).mapError f = .ok a := rfl

@[simp] theorem mapError_error (f : ε → ε') (e : ε) :
    (Except.error e : Except ε α).mapError f = .error (f e) := rfl

theorem run_pure (a : α) (disk : Disk) : (pure a : Action ε α).run.run disk = (.ok a, disk) := rfl

theorem run_throw (e : ε) (disk : Disk) :
    (throw e : Action ε α).run.run disk = (.error e, disk) := rfl

theorem run_bind (action : Action ε α) (f : α → Action ε β) (disk : Disk) :
    (action >>= f).run.run disk = match action.run.run disk with
      | (.ok a, disk') => (f a).run.run disk'
      | (.error e, disk') => (.error e, disk') := by
  rw [ExceptT.run_bind, StateT.run_bind]
  cases action.run.run disk with
  | mk answer disk' => cases answer <;> rfl

theorem run_get (disk : Disk) : (get : Action ε Disk).run.run disk = (.ok disk, disk) := rfl

theorem run_query (f : Disk → Except ε α) (disk : Disk) :
    (query f).run.run disk = (f disk, disk) := by
  rw [query, run_bind, run_get]
  dsimp only
  cases f disk <;> rfl

theorem run_modify (f : Disk → Disk) (disk : Disk) :
    (modify f : Action ε PUnit).run.run disk = (.ok ⟨⟩, f disk) := rfl

theorem run_adapt (f : ε → ε') (action : Action ε α) (disk : Disk) :
    (action.adapt f).run.run disk
      = ((action.run.run disk).1.mapError f, (action.run.run disk).2) := rfl

end Run

/-! ## Actions with a state

Engines and sites act on the disk and on a state of their own; a site may fail besides. -/

namespace Stateful
variable {σ α β : Type}

theorem run_pure (a : α) (s : σ) (disk : Disk) :
    ((pure a : StateT σ (StateM Disk) α).run s).run disk = ((a, s), disk) := rfl

theorem run_bind (action : StateT σ (StateM Disk) α) (f : α → StateT σ (StateM Disk) β) (s : σ)
    (disk : Disk) :
    ((action >>= f).run s).run disk = (((f ((action.run s).run disk).1.1).run
      ((action.run s).run disk).1.2).run ((action.run s).run disk).2) := rfl

theorem run_get (s : σ) (disk : Disk) :
    ((get : StateT σ (StateM Disk) σ).run s).run disk = ((s, s), disk) := rfl

end Stateful

namespace Guarded

variable {ε σ α β : Type}

theorem run_pure (a : α) (s : σ) (disk : Disk) :
    ((pure a : ExceptT ε (StateT σ (StateM Disk)) α).run.run s).run disk = ((.ok a, s), disk) := rfl

theorem run_throw (e : ε) (s : σ) (disk : Disk) :
    ((throw e : ExceptT ε (StateT σ (StateM Disk)) α).run.run s).run disk = ((.error e, s), disk) :=
  rfl

theorem run_bind (action : ExceptT ε (StateT σ (StateM Disk)) α)
    (f : α → ExceptT ε (StateT σ (StateM Disk)) β) (s : σ) (disk : Disk) :
    ((action >>= f).run.run s).run disk = match (action.run.run s).run disk with
      | ((.ok a, s'), disk') => ((f a).run.run s').run disk'
      | ((.error e, s'), disk') => ((.error e, s'), disk') := by
  rw [ExceptT.run_bind, StateT.run_bind, StateT.run_bind]
  rcases (action.run.run s).run disk with ⟨⟨_ | _, s'⟩, disk'⟩ <;> rfl

theorem run_get (s : σ) (disk : Disk) :
    ((getThe σ : ExceptT ε (StateT σ (StateM Disk)) σ).run.run s).run disk = ((.ok s, s), disk) :=
  rfl

theorem run_getDisk (s : σ) (disk : Disk) :
    ((getThe Disk : ExceptT ε (StateT σ (StateM Disk)) Disk).run.run s).run disk
      = ((.ok disk, s), disk) := rfl

theorem run_modify (f : σ → σ) (s : σ) (disk : Disk) :
    ((modifyThe σ f : ExceptT ε (StateT σ (StateM Disk)) PUnit).run.run s).run disk
      = ((.ok ⟨⟩, f s), disk) := rfl

theorem run_lift (action : StateM Disk α) (s : σ) (disk : Disk) :
    ((liftM action : ExceptT ε (StateT σ (StateM Disk)) α).run.run s).run disk
      = ((.ok (action.run disk).1, s), (action.run disk).2) := rfl

end Guarded
/-! ## What each action does -/

variable {disk : Disk} {p : Path}

theorem run_makeDirectory (p : Path) (disk : Disk) :
    (makeDirectory p).run.run disk = match disk.destination p with
      | .error fault => (.error fault, disk)
      | .ok (.place _) => (.error .alreadyExists, disk)
      | .ok (.entry directory name _) =>
        if (disk.kind (directory ++ [name])).isSome then (.error .alreadyExists, disk)
        else (.ok (), place (directory ++ [name]) (.directory (disk.clock + 1)) disk.tick) := by
  rw [makeDirectory, run_bind, run_query]
  rcases disk.destination p with fault | location | ⟨directory, name, slashed⟩
  · rfl
  · rfl
  · simp only [run_bind, run_get, kind, Option.isSome_map]
    cases disk.node? (directory ++ [name]) <;> rfl

theorem makeDirectory_cases (p : Path) (disk : Disk) :
    (∃ fault, (makeDirectory p).run.run disk = (.error fault, disk)) ∨
    ∃ directory name slashed, disk.destination p = .ok (.entry directory name slashed) ∧
      disk.node? (directory ++ [name]) = none ∧
      (makeDirectory p).run.run disk
        = (.ok (), place (directory ++ [name]) (.directory (disk.clock + 1)) disk.tick) := by
  rw [run_makeDirectory]
  rcases disk.destination p with fault | location | ⟨directory, name, slashed⟩
  · exact .inl ⟨fault, rfl⟩
  · exact .inl ⟨.alreadyExists, rfl⟩
  · by_cases hkind : (disk.kind (directory ++ [name])).isSome
    · exact .inl ⟨.alreadyExists, if_pos hkind⟩
    · refine .inr ⟨directory, name, slashed, rfl, ?_, if_neg hkind⟩
      simpa [kind] using hkind

theorem run_draft (p : Path) (content : ByteArray) (disk : Disk) :
    (draft p content).run.run disk = match disk.destination (p.join ⟨['d']⟩) with
      | .ok (.place location) => (.ok ⟨location, content, disk.clock + 1⟩, disk.tick)
      | .ok (.entry location _ _) => (.ok ⟨location, content, disk.clock + 1⟩, disk.tick)
      | .error fault => (.error fault, disk) := by
  rw [draft, run_bind, run_query]
  rcases disk.destination (p.join ⟨['d']⟩) with fault | location | ⟨location, name, slashed⟩
  · rfl
  · rfl
  · rfl

theorem run_publish (file : Draft) (p : Path) (disk : Disk) :
    (publish file p).run.run disk = match disk.destination p with
      | .error fault => (.error fault, disk)
      | .ok (.place _) => (.error .isADirectory, disk)
      | .ok (.entry directory name slashed) =>
        if disk.kind (directory ++ [name]) = some true then (.error .isADirectory, disk)
        else if slashed then (.error .notADirectory, disk)
        else
          (.ok (), place (directory ++ [name]) (.file file.content file.modified) disk.tick) := by
  rw [publish, run_bind, run_query]
  rcases disk.destination p with fault | location | ⟨directory, name, slashed⟩
  · rfl
  · rfl
  · simp only [run_bind, run_get]
    split
    · next time hnode =>
      have hkind : disk.kind (directory ++ [name]) = some true := hasDirectory_of_node hnode
      rw [if_pos hkind]
      rfl
    · next hnode =>
      have hkind : disk.kind (directory ++ [name]) ≠ some true := fun h ↦
        let ⟨time, htime⟩ := HasDirectory.exists_node h
        hnode time htime
      rw [if_neg hkind]
      cases slashed <;> rfl

theorem publish_cases (file : Draft) (p : Path) (disk : Disk) :
    (∃ fault, (publish file p).run.run disk = (.error fault, disk)) ∨
    ∃ directory name, disk.destination p = .ok (.entry directory name false) ∧
      ¬disk.HasDirectory (directory ++ [name]) ∧
      (publish file p).run.run disk
        = (.ok (), place (directory ++ [name]) (.file file.content file.modified) disk.tick) := by
  rw [run_publish]
  rcases disk.destination p with fault | location | ⟨directory, name, slashed⟩
  · exact .inl ⟨fault, rfl⟩
  · exact .inl ⟨.isADirectory, rfl⟩
  · by_cases hkind : disk.kind (directory ++ [name]) = some true
    · exact .inl ⟨.isADirectory, if_pos hkind⟩
    · cases slashed with
      | true => exact .inl ⟨.notADirectory, if_neg hkind⟩
      | false => exact .inr ⟨directory, name, rfl, hkind, if_neg hkind⟩

end CompiledViews.Disk
