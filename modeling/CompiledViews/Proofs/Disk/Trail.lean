import CompiledViews.Disk.Lookup
import CompiledViews.Proofs.Failing
import CompiledViews.Proofs.Path.Names

/-!
# Where paths lead

Following a path looks at some locations and no others, and which ones does not depend on what is
there: a name leads to a location, `..` back from it. So a path has a *goal*, and a *trail* of
locations that are looked at on the way. The disk only decides whether the goal is reached.

Everything that is said below about two disks is said in terms of trails: disks that agree along
the trail of a path agree about the path.
-/

namespace CompiledViews

/-- What a node shows apart from its date: the bytes of a file, and of a directory nothing. -/
def Node.sight : Node → Option ByteArray
  | file content _ => some content
  | directory _ => none

/-- What is found at a destination, given what is there: a slash after the name of a file makes the
difference. -/
def Destination.found : Destination → Option Node → Except IoFault Node
  | _, none => .error .notFound
  | .entry _ _ true, some (.file ..) => .error .notADirectory
  | _, some node => .ok node

theorem Destination.found_eq_ok {d : Destination} {node? : Option Node} {node : Node}
    (h : d.found node? = .ok node) : node? = some node := by
  rw [Destination.found.eq_def] at h
  split at h
  · cases h
  · cases h
  · cases h
    rfl

theorem Destination.found_eq_notFound {d : Destination} {node? : Option Node} :
    d.found node? = .error .notFound ↔ node? = none := by
  rw [Destination.found.eq_def]
  split <;> simp

theorem Destination.found_file {d : Destination} {content : ByteArray} {time : Time} {node : Node}
    (h : d.found (some (.file content time)) = .ok node) (time' : Time) :
    d.found (some (.file content time')) = .ok (.file content time') := by
  rcases d with location | ⟨directory, name, _ | _⟩
  · rfl
  · rfl
  · cases h

/-- Whether a location is strictly below a directory. -/
def Location.Inside (directory l : Location) : Prop := directory <+: l ∧ l ≠ directory

instance (directory l : Location) : Decidable (Location.Inside directory l) :=
  inferInstanceAs (Decidable (_ ∧ _))

namespace Disk

/-! ## Following names -/

/-- Where names lead from a location. -/
def reached : Location → List Text → Location
  | location, [] => location
  | location, name :: rest =>
    if name = ['.'] then reached location rest
    else if name = ['.', '.'] then reached location.dropLast rest
    else reached (location ++ [name]) rest

/-- The locations that the names lead to one after the other. -/
def entered : Location → List Text → List Location
  | _, [] => []
  | location, name :: rest =>
    if name = ['.'] then entered location rest
    else if name = ['.', '.'] then entered location.dropLast rest
    else (location ++ [name]) :: entered (location ++ [name]) rest

/-- A name that is neither `.` nor `..` and so leads one step down. -/
def IsStep (name : Text) : Prop := name ≠ ['.'] ∧ name ≠ ['.', '.']

@[simp] theorem reached_nil (location : Location) : reached location [] = location := rfl

@[simp] theorem reached_here (location : Location) (rest : List Text) :
    reached location (['.'] :: rest) = reached location rest := rfl

@[simp] theorem reached_up (location : Location) (rest : List Text) :
    reached location (['.', '.'] :: rest) = reached location.dropLast rest := rfl

theorem reached_step {name : Text} (h : IsStep name) (location : Location) (rest : List Text) :
    reached location (name :: rest) = reached (location ++ [name]) rest := by
  rw [reached, if_neg h.1, if_neg h.2]

@[simp] theorem entered_nil (location : Location) : entered location [] = [] := rfl

@[simp] theorem entered_here (location : Location) (rest : List Text) :
    entered location (['.'] :: rest) = entered location rest := rfl

@[simp] theorem entered_up (location : Location) (rest : List Text) :
    entered location (['.', '.'] :: rest) = entered location.dropLast rest := rfl

theorem entered_step {name : Text} (h : IsStep name) (location : Location) (rest : List Text) :
    entered location (name :: rest)
      = (location ++ [name]) :: entered (location ++ [name]) rest := by
  rw [entered, if_neg h.1, if_neg h.2]

theorem reached_append (location : Location) (names others : List Text) :
    reached location (names ++ others) = reached (reached location names) others := by
  induction names generalizing location with
  | nil => rfl
  | cons name rest ih =>
    rw [List.cons_append, reached, reached]
    split
    · exact ih location
    · split
      · exact ih location.dropLast
      · exact ih (location ++ [name])

theorem entered_append (location : Location) (names others : List Text) :
    entered location (names ++ others)
      = entered location names ++ entered (reached location names) others := by
  induction names generalizing location with
  | nil => rfl
  | cons name rest ih =>
    rw [List.cons_append, entered, entered, reached]
    split
    · exact ih location
    · split
      · exact ih location.dropLast
      · rw [ih, List.cons_append]

theorem reached_of_isStep {names : List Text} (h : ∀ name ∈ names, IsStep name)
    (location : Location) : reached location names = location ++ names := by
  induction names generalizing location with
  | nil => simp
  | cons name rest ih =>
    rw [reached_step (h name (by simp)), ih fun n hn ↦ h n (by simp [hn])]
    simp

theorem reached_dots {names : List Text} (h : ∀ name ∈ names, name = ['.']) (location : Location) :
    reached location names = location := by
  induction names with
  | nil => rfl
  | cons name rest ih =>
    rw [h name (by simp), reached_here]
    exact ih fun n hn ↦ h n (by simp [hn])

/-- It makes no difference to leave out what leads nowhere. -/
theorem reached_filter (location : Location) (names : List Text) :
    reached location (names.filter (· ≠ ['.'])) = reached location names := by
  induction names generalizing location with
  | nil => rfl
  | cons name rest ih =>
    by_cases hdot : name = ['.']
    · rw [hdot, reached_here, ← ih, List.filter_cons_of_neg (by simp)]
    · rw [List.filter_cons_of_pos (by simpa using hdot), reached, reached, if_neg hdot, if_neg hdot,
        ih, ih]

theorem entered_filter (location : Location) (names : List Text) :
    entered location (names.filter (· ≠ ['.'])) = entered location names := by
  induction names generalizing location with
  | nil => rfl
  | cons name rest ih =>
    by_cases hdot : name = ['.']
    · rw [hdot, entered_here, ← ih, List.filter_cons_of_neg (by simp)]
    · rw [List.filter_cons_of_pos (by simpa using hdot), entered, entered, if_neg hdot, if_neg hdot,
        ih, ih]

theorem prefix_of_mem_entered {names : List Text} (h : ∀ name ∈ names, IsStep name)
    {location l : Location} (hl : l ∈ entered location names) : location <+: l := by
  induction names generalizing location with
  | nil => simp at hl
  | cons name rest ih =>
    rw [entered_step (h name (by simp)), List.mem_cons] at hl
    rcases hl with rfl | hl
    · exact List.prefix_append _ _
    · exact (List.prefix_append _ _).trans (ih (fun n hn ↦ h n (by simp [hn])) hl)

theorem prefix_reached {names : List Text} (h : ∀ name ∈ names, name ≠ ['.', '.'])
    (location : Location) : location <+: reached location names := by
  induction names generalizing location with
  | nil => exact List.prefix_rfl
  | cons name rest ih =>
    have hrest := ih fun n hn ↦ h n (by simp [hn])
    rw [reached, if_neg (h name (by simp))]
    split
    · exact hrest location
    · exact (List.prefix_append _ _).trans (hrest _)

/-- Without a `..` everything on the way is around the goal. -/
theorem prefix_reached_of_mem_entered {names : List Text} (h : ∀ name ∈ names, name ≠ ['.', '.'])
    {location l : Location} (hl : l ∈ entered location names) : l <+: reached location names := by
  induction names generalizing location with
  | nil => simp at hl
  | cons name rest ih =>
    have hrest : ∀ n ∈ rest, n ≠ ['.', '.'] := fun n hn ↦ h n (by simp [hn])
    rw [reached, if_neg (h name (by simp))]
    rw [entered, if_neg (h name (by simp))] at hl
    split
    · next hdot =>
      rw [if_pos hdot] at hl
      exact ih hrest hl
    · next hdot =>
      rw [if_neg hdot] at hl
      rcases List.mem_cons.mp hl with rfl | hl
      · exact prefix_reached hrest _
      · exact ih hrest hl

theorem mem_entered_of_prefix {names others : List Text} (h : names <+: others)
    {location l : Location} (hl : l ∈ entered location names) : l ∈ entered location others := by
  obtain ⟨later, rfl⟩ := h
  rw [entered_append]
  exact List.mem_append_left _ hl

/-- What is entered is where a beginning of the names leads. -/
theorem exists_reached_of_mem_entered {names : List Text} {location l : Location}
    (h : l ∈ entered location names) :
    ∃ before, before <+: names ∧ reached location before = l := by
  induction names generalizing location with
  | nil => simp at h
  | cons name rest ih =>
    -- a beginning of the rest is lengthened by the name before it
    have hcons : ∀ {next : Location}, l ∈ entered next rest →
        (∀ before, reached location (name :: before) = reached next before) →
          ∃ before, before <+: name :: rest ∧ reached location before = l := by
      intro next hnext hreached
      obtain ⟨before, hbefore, hl⟩ := ih hnext
      exact ⟨name :: before, (List.prefix_cons_inj name).mpr hbefore, by rw [hreached, hl]⟩
    by_cases hdot : name = ['.']
    · subst hdot
      exact hcons h fun before ↦ reached_here location before
    · by_cases hup : name = ['.', '.']
      · subst hup
        exact hcons h fun before ↦ reached_up location before
      · have hstep : IsStep name := ⟨hdot, hup⟩
        rw [entered_step hstep, List.mem_cons] at h
        rcases h with rfl | h
        · exact ⟨[name], (List.prefix_cons_inj name).mpr List.nil_prefix,
            reached_step hstep location []⟩
        · exact hcons h fun before ↦ reached_step hstep location before

/-! ## What following depends on -/

/-- Whether there is something at a location and whether that is a directory. -/
def kind (disk : Disk) (location : Location) : Option Bool :=
  (disk.node? location).map Node.isDirectory

/-- Whether there is a directory at a location. -/
def HasDirectory (disk : Disk) (location : Location) : Prop := disk.kind location = some true

theorem HasDirectory.exists_node {disk : Disk} {location : Location}
    (h : disk.HasDirectory location) : ∃ time, disk.node? location = some (.directory time) := by
  rw [HasDirectory, kind, Option.map_eq_some_iff] at h
  obtain ⟨node, hnode, hdirectory⟩ := h
  cases node with
  | file content time => simp [Node.isDirectory] at hdirectory
  | directory time => exact ⟨time, hnode⟩

theorem hasDirectory_of_node {disk : Disk} {location : Location} {time : Time}
    (h : disk.node? location = some (.directory time)) : disk.HasDirectory location := by
  rw [HasDirectory, kind, h]
  rfl

section Follow

variable {disk disk' : Disk} {slashed : Bool}

theorem follow_cons_eq_ok {location : Location} {name : Text} {rest : List Text} {d : Destination}
    (h : follow disk slashed location (name :: rest) = .ok d) :
    (name = ['.'] ∧ follow disk slashed location rest = .ok d) ∨
    (name = ['.', '.'] ∧ follow disk slashed location.dropLast rest = .ok d) ∨
    (IsStep name ∧ rest = [] ∧ d = .entry location name slashed) ∨
    (IsStep name ∧ rest ≠ [] ∧ disk.HasDirectory (location ++ [name]) ∧
      follow disk slashed (location ++ [name]) rest = .ok d) := by
  rw [follow] at h
  split at h
  · next hdot => exact .inl ⟨hdot, h⟩
  · next hdot =>
    split at h
    · next hdots => exact .inr (.inl ⟨hdots, h⟩)
    · next hdots =>
      split at h
      · cases h
      · split at h
        · next hrest =>
          cases h
          exact .inr (.inr (.inl ⟨⟨hdot, hdots⟩, hrest, rfl⟩))
        · next hrest =>
          split at h
          · cases h
          · cases h
          · next hnode =>
            exact .inr (.inr (.inr ⟨⟨hdot, hdots⟩, hrest, hasDirectory_of_node hnode, h⟩))

theorem location_of_follow {location : Location} {names : List Text} {d : Destination}
    (h : follow disk slashed location names = .ok d) : d.location = reached location names := by
  induction names generalizing location with
  | nil =>
    cases h
    rfl
  | cons name rest ih =>
    obtain ⟨rfl, h⟩ | ⟨rfl, h⟩ | ⟨hstep, rfl, rfl⟩ | ⟨hstep, -, -, h⟩ := follow_cons_eq_ok h
    · exact ih h
    · exact ih h
    · rw [reached_step hstep, reached_nil, Destination.location]
    · rw [reached_step hstep, ih h]

theorem hasDirectory_of_follow {location : Location} {names : List Text} {d : Destination}
    (h : follow disk slashed location names = .ok d) {l : Location}
    (hl : l ∈ entered location names.dropLast) : disk.HasDirectory l := by
  induction names generalizing location with
  | nil => simp at hl
  | cons name rest ih =>
    cases rest with
    | nil => simp at hl
    | cons next rest =>
      rw [List.dropLast_cons_cons] at hl
      obtain ⟨rfl, h⟩ | ⟨rfl, h⟩ | ⟨-, hnil, -⟩ | ⟨hstep, -, hdirectory, h⟩ := follow_cons_eq_ok h
      · exact ih h hl
      · exact ih h hl
      · cases hnil
      · rw [entered_step hstep, List.mem_cons] at hl
        rcases hl with rfl | hl
        · exact hdirectory
        · exact ih h hl

theorem names_of_follow {location directory : Location} {names : List Text} {name : Text}
    {s : Bool} (h : follow disk slashed location names = .ok (.entry directory name s)) :
    IsStep name ∧ ∃ before, names = before ++ [name] := by
  induction names generalizing location with
  | nil => cases h
  | cons first rest ih =>
    obtain ⟨-, h⟩ | ⟨-, h⟩ | ⟨hstep, rfl, heq⟩ | ⟨-, -, -, h⟩ := follow_cons_eq_ok h
    · obtain ⟨hname, before, rfl⟩ := ih h
      exact ⟨hname, first :: before, rfl⟩
    · obtain ⟨hname, before, rfl⟩ := ih h
      exact ⟨hname, first :: before, rfl⟩
    · cases heq
      exact ⟨hstep, [], rfl⟩
    · obtain ⟨hname, before, rfl⟩ := ih h
      exact ⟨hname, first :: before, rfl⟩

/-- A name that is left over at the end leads to the last of the locations entered. -/
theorem mem_entered_of_follow {location directory : Location} {names : List Text} {name : Text}
    {s : Bool} (h : follow disk slashed location names = .ok (.entry directory name s)) :
    directory ++ [name] ∈ entered location names ∧ s = slashed := by
  induction names generalizing location with
  | nil => cases h
  | cons first rest ih =>
    obtain ⟨rfl, h⟩ | ⟨rfl, h⟩ | ⟨hstep, rfl, heq⟩ | ⟨hstep, -, -, h⟩ := follow_cons_eq_ok h
    · exact ih h
    · exact ih h
    · cases heq
      simp [entered_step hstep]
    · rw [entered_step hstep]
      exact ⟨List.mem_cons_of_mem _ (ih h).1, (ih h).2⟩

/-- Disks with the same directories on the way lead to the same place. -/
theorem follow_congr {location : Location} {names : List Text}
    (h : ∀ l ∈ entered location names.dropLast, disk'.kind l = disk.kind l) :
    follow disk' slashed location names = follow disk slashed location names := by
  induction names generalizing location with
  | nil => rfl
  | cons name rest ih =>
    rw [follow, follow]
    split
    · next hdot =>
      subst hdot
      refine ih fun l hl ↦ h l ?_
      cases rest with
      | nil => exact hl
      | cons => exact hl
    · next hdot =>
      split
      · next hdots =>
        subst hdots
        refine ih fun l hl ↦ h l ?_
        cases rest with
        | nil => exact hl
        | cons => exact hl
      · next hdots =>
        split
        · rfl
        · split
          · rfl
          · next hrest =>
            -- only a name that others follow has to be that of a directory
            rw [List.dropLast_cons_of_ne_nil hrest, entered_step ⟨hdot, hdots⟩] at h
            have hkind := h (location ++ [name]) (by simp)
            have hfollow := ih fun l hl ↦ h l (List.mem_cons_of_mem _ hl)
            rw [kind, kind] at hkind
            cases hold : disk.node? (location ++ [name]) with
            | none =>
              rw [hold] at hkind
              rw [Option.map_eq_none_iff.mp hkind]
            | some node =>
              rw [hold] at hkind
              obtain ⟨node', hnew, hsame⟩ := Option.map_eq_some_iff.mp hkind
              rw [hnew]
              cases node <;> cases node' <;> first | exact hfollow | rfl | cases hsame

end Follow

end Disk

/-! ## Paths -/

namespace Path

/-- Where following a path starts, given the working directory. -/
def start (p : Path) (here : Location) : Location := if p.isAbsolute then [] else here

def goal (p : Path) (here : Location) : Location := Disk.reached (p.start here) p.names

/-- The locations that have to be directories for the path to lead anywhere. -/
def way (p : Path) (here : Location) : List Location :=
  Disk.entered (p.start here) p.names.dropLast

/-- All locations that are looked at when a path is followed. -/
def trail (p : Path) (here : Location) : List Location :=
  p.goal here :: Disk.entered (p.start here) p.names

/-- Whether the ways to two directories keep clear of the other one. -/
def Apart (p q : Path) (here : Location) : Prop :=
  (∀ l ∈ q.trail here, ¬p.goal here <+: l) ∧ ∀ l ∈ p.trail here, ¬q.goal here <+: l

instance (p q : Path) (here : Location) : Decidable (p.Apart q here) :=
  inferInstanceAs (Decidable (_ ∧ _))

variable {p q : Path} {here : Location}

theorem Apart.symm (h : p.Apart q here) : q.Apart p here := ⟨h.2, h.1⟩

theorem goal_mem_trail : p.goal here ∈ p.trail here := List.mem_cons_self

theorem mem_trail_of_mem_way {l : Location} (h : l ∈ p.way here) : l ∈ p.trail here :=
  List.mem_cons_of_mem _ (Disk.mem_entered_of_prefix (List.dropLast_prefix _) h)

/-- The goal is the only location of a trail that need not be on the way. -/
theorem mem_way_or_eq_goal {l : Location} (h : l ∈ p.trail here) :
    l ∈ p.way here ∨ l = p.goal here := by
  rcases List.mem_cons.mp h with rfl | h
  · exact .inr rfl
  · rcases List.eq_nil_or_concat p.names with hnil | ⟨names, last, hnames⟩
    · rw [hnil] at h
      cases h
    · rw [List.concat_eq_append] at hnames
      rw [way, goal, hnames, List.dropLast_concat, Disk.reached_append]
      rw [hnames, Disk.entered_append] at h
      refine (List.mem_append.mp h).imp_right fun hlast ↦ ?_
      rw [Disk.entered] at hlast
      split at hlast
      · cases hlast
      · split at hlast
        · cases hlast
        · next hdot hdots =>
          rw [Disk.reached_step ⟨hdot, hdots⟩]
          simpa using hlast

/-- Without a `..` everything that is looked at is around the goal. -/
theorem prefix_goal_of_mem_trail (h : ∀ name ∈ p.names, name ≠ ['.', '.']) {l : Location}
    (hl : l ∈ p.trail here) : l <+: p.goal here := by
  rcases List.mem_cons.mp hl with rfl | hl
  · exact List.prefix_rfl
  · exact Disk.prefix_reached_of_mem_entered h hl

theorem start_of_isAbsolute (h : q.isAbsolute = p.isAbsolute) : q.start here = p.start here := by
  rw [start, start, h]

theorem goal_join (h : q.isAbsolute = false) :
    (p.join q).goal here = Disk.reached (p.goal here) q.names := by
  rw [goal, start_of_isAbsolute (isAbsolute_join h), names_join h, Disk.reached_append, ← goal]

theorem way_join (h : q.isAbsolute = false) (hne : q.names ≠ []) :
    (p.join q).way here
      = Disk.entered (p.start here) p.names ++ Disk.entered (p.goal here) q.names.dropLast := by
  rw [way, start_of_isAbsolute (isAbsolute_join h), names_join h,
    List.dropLast_append_of_ne_nil hne, Disk.entered_append, ← goal]

theorem entered_join (h : q.isAbsolute = false) :
    Disk.entered ((p.join q).start here) (p.join q).names
      = Disk.entered (p.start here) p.names ++ Disk.entered (p.goal here) q.names := by
  rw [start_of_isAbsolute (isAbsolute_join h), names_join h, Disk.entered_append, ← goal]

end Path

namespace Disk

variable {disk disk' : Disk} {p : Path}

theorem follow_of_destination {d : Destination} (h : disk.destination p = .ok d) :
    follow disk (decide (p.spelling.getLast? = some '/')) (p.start disk.here) p.names = .ok d := by
  rw [destination] at h
  split at h
  · cases h
  · split at h
    · cases h
    · split at h
      · cases h
      · exact h

theorem location_of_destination {d : Destination} (h : disk.destination p = .ok d) :
    d.location = p.goal disk.here := location_of_follow (follow_of_destination h)

theorem hasDirectory_of_destination {d : Destination} (h : disk.destination p = .ok d)
    {l : Location} (hl : l ∈ p.way disk.here) : disk.HasDirectory l :=
  hasDirectory_of_follow (follow_of_destination h) hl

theorem entry_of_destination {directory : Location} {name : Text} {slashed : Bool}
    (h : disk.destination p = .ok (.entry directory name slashed)) :
    directory ++ [name] ∈ entered (p.start disk.here) p.names ∧
      slashed = decide (p.spelling.getLast? = some '/') :=
  mem_entered_of_follow (follow_of_destination h)

theorem names_of_destination {directory : Location} {name : Text} {slashed : Bool}
    (h : disk.destination p = .ok (.entry directory name slashed)) :
    IsStep name ∧ ∃ before, p.names = before ++ [name] := names_of_follow (follow_of_destination h)

theorem destination_congr (hhere : disk'.here = disk.here)
    (h : ∀ l ∈ p.way disk.here, disk'.kind l = disk.kind l) :
    disk'.destination p = disk.destination p := by
  have hfollow : ∀ slashed, follow disk' slashed (p.start disk.here) p.names
      = follow disk slashed (p.start disk.here) p.names := fun _ ↦ follow_congr h
  rw [destination, destination, hhere]
  split
  · rfl
  · split
    · rfl
    · split
      · rfl
      · exact hfollow _

/-! ## What is seen at the end of a path -/

/-- What a location shows apart from dates. -/
def sight (disk : Disk) (location : Location) : Option (Option ByteArray) :=
  (disk.node? location).map Node.sight

theorem kind_of_sight {l : Location} (h : disk'.sight l = disk.sight l) :
    disk'.kind l = disk.kind l := by
  have hnode : Option.isNone ∘ Node.sight = Node.isDirectory := by
    funext node
    cases node <;> rfl
  have hkind : ∀ d : Disk, d.kind l = (d.sight l).map Option.isNone := by
    intro d
    rw [kind, sight, Option.map_map, hnode]
  rw [hkind, hkind, h]

theorem nodeAt_eq_found (disk : Disk) (d : Destination) :
    disk.nodeAt d = d.found (disk.node? d.location) := by
  rcases d with location | ⟨directory, name, _ | _⟩ <;>
    rcases hnode : disk.node? _ with _ | _ | _ <;> simp only [nodeAt, Destination.found, hnode]

theorem stat_eq_bind {d : Destination} (h : disk.destination p = .ok d) :
    disk.stat p = d.found (disk.node? (p.goal disk.here)) := by
  rw [stat, h, ← location_of_destination h]
  exact nodeAt_eq_found disk d

theorem stat_eq_ok {node : Node} (h : disk.stat p = .ok node) :
    (∃ d, disk.destination p = .ok d) ∧ disk.node? (p.goal disk.here) = some node := by
  cases hd : disk.destination p with
  | error fault =>
    rw [stat, hd] at h
    cases h
  | ok d =>
    rw [stat_eq_bind hd] at h
    exact ⟨⟨d, rfl⟩, Destination.found_eq_ok h⟩

/-- A path without a slash at its end names whatever stands at its goal. -/
theorem stat_eq_of_destination {d : Destination} (hd : disk.destination p = .ok d)
    (hslash : p.spelling.getLast? ≠ some '/') :
    disk.stat p = match disk.node? (p.goal disk.here) with
      | none => .error .notFound
      | some node => .ok node := by
  rw [stat_eq_bind hd]
  cases hnode : disk.node? (p.goal disk.here) with
  | none => cases d <;> rfl
  | some node =>
    cases d with
    | place location => cases node <;> rfl
    | entry directory name slashed =>
      have hs := (entry_of_destination hd).2
      rw [decide_eq_false hslash] at hs
      subst hs
      cases node <;> rfl

theorem stat_congr (hhere : disk'.here = disk.here)
    (hway : ∀ l ∈ p.way disk.here, disk'.kind l = disk.kind l)
    (hgoal : disk'.node? (p.goal disk.here) = disk.node? (p.goal disk.here)) :
    disk'.stat p = disk.stat p := by
  have hdestination := destination_congr hhere hway
  cases hd : disk.destination p with
  | error fault => rw [stat, stat, hdestination, hd, Except.bind, Except.bind]
  | ok d => rw [stat_eq_bind hd, stat_eq_bind (hdestination.trans hd), hhere, hgoal]

/-- All that a path to a directory looks at are directories. -/
theorem hasDirectory_of_isDirectory (h : disk.isDirectory p = true) {l : Location}
    (hl : l ∈ p.trail disk.here) : disk.HasDirectory l := by
  rw [isDirectory] at h
  split at h
  · next node hstat =>
    obtain ⟨⟨d, hd⟩, hnode⟩ := stat_eq_ok hstat
    rcases Path.mem_way_or_eq_goal hl with hway | rfl
    · exact hasDirectory_of_destination hd hway
    · rw [HasDirectory, kind, hnode, Option.map_some, h]
  · cases h

/-- A path still names a directory as long as there are directories along its trail. -/
theorem isDirectory_of_hasDirectory (h : disk.isDirectory p = true) (hhere : disk'.here = disk.here)
    (hdirectory : ∀ l ∈ p.trail disk.here, disk'.HasDirectory l) : disk'.isDirectory p = true := by
  have hold := fun l hl ↦ hasDirectory_of_isDirectory h (l := l) hl
  have hdestination : disk'.destination p = disk.destination p := by
    refine destination_congr hhere fun l hl ↦ ?_
    have hmem := Path.mem_trail_of_mem_way hl
    exact (hdirectory l hmem).trans (hold l hmem).symm
  obtain ⟨time, hnode⟩ := (hdirectory _ Path.goal_mem_trail).exists_node
  cases hd : disk.destination p with
  | error fault =>
    rw [isDirectory, stat, hd] at h
    cases h
  | ok d =>
    rw [isDirectory, stat_eq_bind (hdestination.trans hd), hhere, hnode]
    rfl

theorem modified_eq_ok {time : Time} (h : disk.modified p = .ok time) :
    ∃ node, disk.stat p = .ok node ∧ node.modified = time :=
  map_eq_ok_iff.mp h

/-- Disks that show the same along the trail of a path differ at most in dates there. -/
theorem stat_map_of_sight (hhere : disk'.here = disk.here)
    (h : ∀ l ∈ p.trail disk.here, disk'.sight l = disk.sight l) :
    (disk'.stat p).map Node.sight = (disk.stat p).map Node.sight := by
  have hdestination := destination_congr hhere fun l hl ↦
    kind_of_sight (h l (Path.mem_trail_of_mem_way hl))
  have hgoal := h _ Path.goal_mem_trail
  cases hd : disk.destination p with
  | error fault => rw [stat, stat, hdestination, hd, Except.bind, Except.bind]
  | ok d =>
    rw [stat_eq_bind hd, stat_eq_bind (hdestination.trans hd), hhere]
    rw [sight, sight] at hgoal
    cases hold : disk.node? (p.goal disk.here) with
    | none =>
      rw [hold, Option.map_none, Option.map_eq_none_iff] at hgoal
      rw [hgoal]
    | some node =>
      rw [hold, Option.map_some, Option.map_eq_some_iff] at hgoal
      obtain ⟨node', hnew, hsame⟩ := hgoal
      rw [hnew]
      rcases d with location | ⟨directory, name, _ | _⟩ <;> cases node <;> cases node' <;>
        simp_all [Except.map, Destination.found, Node.sight]

theorem read_eq_ok {content : ByteArray} :
    disk.read p = .ok content ↔ ∃ time, disk.stat p = .ok (.file content time) := by
  rw [read]
  rcases disk.stat p with fault | ⟨found, time⟩ | time <;> simp

theorem read_of_stat_map (h : (disk'.stat p).map Node.sight = (disk.stat p).map Node.sight) :
    disk'.read p = disk.read p := by
  rw [read, read]
  rcases hold : disk.stat p with fault | ⟨content, time⟩ | time <;>
    rcases hnew : disk'.stat p with fault' | ⟨content', time'⟩ | time' <;>
    simp_all [Except.map, Node.sight]

theorem read_of_sight (hhere : disk'.here = disk.here)
    (h : ∀ l ∈ p.trail disk.here, disk'.sight l = disk.sight l) : disk'.read p = disk.read p :=
  read_of_stat_map (stat_map_of_sight hhere h)

end Disk

end CompiledViews
