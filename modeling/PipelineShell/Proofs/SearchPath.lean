import PipelineShell.Proofs.FileSystem.NormalForm
import PipelineShell.SearchPath

/-!
# Programs on a search path

A scan of a directory (`list_all_executables`) finds the names that `find_executable` finds in it.
-/

namespace PipelineShell

namespace FileSystem
variable {fs : FileSystem} {base directory name : Text}

theorem length_stored_join (directory : Text) (hslash : .char '/' ∉ name) :
    directory.stored.length ≤ (Text.stored (Path.join directory name)).length := by
  obtain ⟨tail, htail⟩ :=
    Path.exists_join_eq_append (Path.isAbsolute_of_no_slash hslash) directory
  rw [htail, Text.stored_append, List.length_append]
  exact Nat.le_add_right _ _

/-- What is found in a directory by its name, and is no directory, is one of its entries. -/
theorem mem_children_of_entry? (hfs : fs.Grounded) (hdir : directory ≠ []) (hname : name ≠ [])
    (hslash : .char '/' ∉ name) {entry : Entry}
    (h : fs.entry? base (Path.join directory name) = .ok entry)
    (hplain : entry.isDirectory = false) :
    ∃ place mode, fs.locate base directory = .ok place ∧
      fs.get? place = some (.directory mode) ∧ name.stored ∈ fs.children place := by
  obtain ⟨there, hlocate, hthere⟩ := entry?_eq_ok_iff.1 h
  obtain ⟨-, hshort, hway⟩ := locate_eq_ok_iff.1 hlocate
  have hrelative := Path.isAbsolute_of_no_slash hslash
  rw [Path.isAbsolute_join_of_relative hrelative, steps_join hdir hname hrelative,
    steps_name hname hslash] at hway
  obtain ⟨place, mode, left, hfirst, hplace, hlast⟩ := hway.directory_of_snoc
  have hlength := length_stored_join directory hslash
  refine ⟨place, mode, locate_eq_ok_iff.2 ⟨hdir, by omega, ?_⟩, hplace,
    hlast.mem_children hfs hthere hplain⟩
  rcases steps_eq directory with hsteps | hsteps
  · rw [hsteps]
    exact hfirst
  · rw [hsteps]
    exact hfirst.snoc_nil hplace

theorem entry?_of_isExecutable {path : Text} (h : fs.isExecutable base path = true) :
    ∃ entry, fs.entry? base path = .ok entry ∧ entry.isDirectory = false := by
  obtain ⟨-, entry, hentry, hexecutable⟩ := isExecutable_iff.1 h
  refine ⟨entry, hentry, ?_⟩
  cases entry with
  | directory mode => cases hexecutable
  | _ => rfl

end FileSystem

namespace SearchPath
variable {fs : FileSystem} {base directory name : Text}

theorem isExecutable_of_mem_programsIn (h : name ∈ programsIn fs base directory) :
    fs.isExecutable base (Path.join directory name) = true := by
  unfold programsIn at h
  split at h
  · cases h
  · split at h
    · split at h
      · cases h
      · exact (List.mem_filter.1 h).2
    · cases h

/-- The user is allowed to list the directory, if it is there. -/
def Listable (fs : FileSystem) (base directory : Text) : Prop :=
  ∀ place, fs.locate base directory = .ok place → place ∉ fs.unlisted

instance (fs : FileSystem) (base directory : Text) : Decidable (Listable fs base directory) :=
  match h : fs.locate base directory with
  | .ok place =>
    decidable_of_iff (place ∉ fs.unlisted)
      ⟨fun hnot other hother => by
        rw [h] at hother
        cases hother
        exact hnot,
      fun hall => hall place h⟩
  | .error _ => .isTrue fun place hplace => by
    rw [h] at hplace
    cases hplace

/-- A program in a directory that can be listed is listed if and only if it is found there by its
name, if that is how the system tells it. -/
theorem mem_programsIn_iff (hfs : fs.Grounded) (hlist : Listable fs base directory)
    (hdir : directory ≠ []) (hname : name ≠ []) (hslash : .char '/' ∉ name)
    (hread : Text.ofStored name.stored = name) :
    name ∈ programsIn fs base directory ↔
      fs.isExecutable base (Path.join directory name) = true := by
  constructor
  · exact isExecutable_of_mem_programsIn
  · intro h
    obtain ⟨entry, hentry, hplain⟩ := FileSystem.entry?_of_isExecutable h
    obtain ⟨place, mode, hplace, hmode, hchild⟩ :=
      FileSystem.mem_children_of_entry? hfs hdir hname hslash hentry hplain
    have hlisted : fs.unlisted.contains place = false := by simpa using hlist place hplace
    simp only [programsIn, hplace, hmode, hlisted, Bool.false_eq_true, ↓reduceIte]
    exact List.mem_filter.2
      ⟨List.mem_map.2 ⟨name.stored, hchild, hread⟩, h⟩

/-- A search path that is set has no empty directory, and the system can be given it. -/
def Proper (path : Option Text) : Prop :=
  ∀ p, path = some p → p ≠ [] → [] ∉ directories p ∧ Text.isFit p = true

theorem isFit_of_mem_directories {p directory : Text} (h : Text.isFit p = true)
    (hmem : directory ∈ directories p) : Text.isFit directory = true :=
  Text.isFit_of_mem h h fun _ hr => .inl (Text.mem_of_mem_splitOn hmem hr)

/-- The scan of a proper search path comes to an end and finds what is in one of its directories. -/
theorem mem_programs_iff (fs : FileSystem) (base name : Text) {path : Option Text}
    (hpath : Proper path) :
    ∃ found, programs fs base path = .ok found ∧
      (name ∈ found ↔ ∃ p, path = some p ∧ p ≠ [] ∧
        ∃ directory ∈ directories p, name ∈ programsIn fs base directory) := by
  by_cases hset : path.getD [] = []
  · -- a search path that is unset or empty has one directory, with an empty name
    refine ⟨[], by simp [programs, hset, directories, Text.splitOn], by simp, ?_⟩
    rintro ⟨p, rfl, hp, -⟩
    exact absurd hset hp
  · obtain ⟨p, rfl⟩ : ∃ p, path = some p := by
      cases path with
      | none => exact absurd rfl hset
      | some p => exact ⟨p, rfl⟩
    obtain ⟨hempty, hfit⟩ := hpath p rfl hset
    have hall : (directories p).filter (!·.isEmpty) = directories p := by
      rw [List.filter_eq_self]
      intro directory hdirectory
      have hne : directory ≠ [] := fun h => hempty (h ▸ hdirectory)
      simpa using hne
    have hnone : (directories p).findSome? Text.unfit? = none :=
      List.findSome?_eq_none_iff.2 fun directory hdirectory =>
        Text.unfit?_eq_none.2 (isFit_of_mem_directories hfit hdirectory)
    refine ⟨(directories p).flatMap (programsIn fs base), ?_, ?_⟩
    · simp only [programs, Option.getD_some, hall, hnone]
    · have hne : p ≠ [] := hset
      simp [List.mem_flatMap, hne]

theorem unfit_of_programs {path : Option Text} {failure : Failure}
    (h : programs fs base path = .error failure) :
    ∃ directory ∈ directories (path.getD []), directory.unfit? = some failure := by
  unfold programs at h
  simp only at h
  split at h
  · next found hfound =>
    cases h
    obtain ⟨directory, hdirectory, hunfit⟩ := List.exists_of_findSome?_eq_some hfound
    exact ⟨directory, (List.mem_filter.1 hdirectory).1, hunfit⟩
  · cases h

/-- A name without a slash is found if and only if some directory has a program of that name. -/
theorem isSome_locate_iff {path cwd : Option Text} (hname : name ≠ []) (hslash : .char '/' ∉ name) :
    (locate fs base path cwd name).isSome ↔ ∃ p, path = some p ∧ p ≠ [] ∧
      ∃ directory ∈ directories p, fs.isExecutable base (Path.join directory name) = true := by
  have hempty : name.isEmpty = false := by simpa using hname
  have hcontains : name.contains '/' = false := by simpa using hslash
  unfold locate
  rw [hempty, hcontains]
  cases path with
  | none => simp
  | some p =>
    cases p with
    | nil => simp
    | cons c cs => simp [List.find?_isSome]

theorem isSome_locate_of_programs {path : Option Text} {found : List Text}
    (h : programs fs base path = .ok found) (hmem : name ∈ found) (cwd : Option Text)
    (hname : name ≠ []) (hslash : .char '/' ∉ name) : (locate fs base path cwd name).isSome := by
  unfold programs at h
  simp only at h
  split at h
  · cases h
  · cases h
    obtain ⟨directory, hscanned, hprogram⟩ := List.mem_flatMap.1 hmem
    obtain ⟨hdirectory, hnonempty⟩ := List.mem_filter.1 hscanned
    have hset : path.getD [] ≠ [] := by
      intro hempty
      rw [hempty] at hdirectory
      obtain rfl : directory = [] := List.mem_singleton.1 hdirectory
      cases hnonempty
    cases path with
    | none => exact absurd rfl hset
    | some p =>
      have hexecutable := isExecutable_of_mem_programsIn hprogram
      exact (isSome_locate_iff hname hslash).2 ⟨p, rfl, hset, directory, hdirectory, hexecutable⟩

theorem isAbsolute_of_locate {path cwd : Option Text} {found : Text}
    (hbase : Path.isAbsolute base = true) (hslash : .char '/' ∉ name)
    (h : locate fs base path cwd name = some found) : Path.isAbsolute found = true := by
  have hcontains : name.contains '/' = false := by simpa using hslash
  unfold locate at h
  rw [hcontains] at h
  split at h
  · cases h
  · simp only [Bool.false_eq_true, ↓reduceIte] at h
    split at h
    · cases h
    · cases h
    · obtain ⟨candidate, -, rfl⟩ := Option.map_eq_some_iff.1 h
      exact (Path.settled_absolute hbase _).absolute

end SearchPath
end PipelineShell
