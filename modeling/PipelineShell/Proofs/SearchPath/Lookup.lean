import PipelineShell.Proofs.FileSystem.NormalForm
import PipelineShell.SearchPath

/-!
# Looking up what was found

`find_executable` returns the normal form of the first path that it finds to be a program. It finds
this normal form again, or nothing if a `..` of the path stands behind a link.
-/

namespace PipelineShell

namespace FileSystem
variable {fs : FileSystem} {base other path found name : Text}

theorem Leads.dropLast_of_no_link {links : Nat} {directory there : Place}
    (h : fs.Leads links directory [name] there)
    (proper : name ≠ [] ∧ name ≠ [.char '.'] ∧ name ≠ [.char '.', .char '.'])
    (noLink : ∀ target, fs.get? (directory ++ [name.stored]) ≠ some (.link target)) :
    there.dropLast = directory := by
  cases h with
  | missing hdirectory _ short absent => exact List.dropLast_concat
  | onward hdirectory step onward =>
    cases step with
    | stay still => exact (still.elim proper.1 proper.2.1).elim
    | up => exact absurd rfl proper.2.2
    | down _ short there _ =>
      cases onward
      exact List.dropLast_concat
    | follow _ short link => exact absurd link (noLink _)

end FileSystem

namespace SearchPath
open FileSystem (steps maxPathBytes)
variable {fs : FileSystem} {base other name found : Text} {path cwd : Option Text}

/-- The paths that a look-up tries, in order. -/
def candidates (base : Text) (path cwd : Option Text) (name : Text) : List Text :=
  if name.isEmpty then []
  else if name.contains '/' then
    match cwd with
    | none | some [] => [Path.join base name]
    | some cwd => [Path.join cwd name]
  else
    match path with
    | none | some [] => []
    | some path => (directories path).map (Path.join · name)

theorem locate_eq_find? (fs : FileSystem) (base : Text) (path cwd : Option Text) (name : Text) :
    locate fs base path cwd name =
      ((candidates base path cwd name).find? (fs.isExecutable base)).map (Path.absolute base) := by
  have htry (candidate : Text) :
      (if fs.isExecutable base candidate then some (Path.absolute base candidate) else none) =
        ([candidate].find? (fs.isExecutable base)).map (Path.absolute base) := by
    rw [List.find?_singleton]
    split <;> rfl
  unfold locate candidates
  split
  · rfl
  · split
    · rcases cwd with _ | _ | ⟨c, cs⟩
      · exact htry (Path.join base name)
      · exact htry (Path.join base name)
      · exact htry (Path.join (c :: cs) name)
    · rcases path with _ | _ | ⟨c, cs⟩ <;> rfl

/-- A settled path is found as it is or not at all, whatever the search path and the directory. -/
theorem locate_of_settled (hfound : Path.Settled found) (fs : FileSystem) (base : Text)
    (path cwd : Option Text) :
    locate fs base path cwd found = if fs.isExecutable base found then some found else none := by
  have hjoin := Path.join_of_isAbsolute hfound.absolute
  have habsolute : Path.absolute base found = found := by
    rw [Path.absolute, hjoin, hfound.normal]
  obtain ⟨rest, rfl⟩ := Path.exists_of_isAbsolute hfound.absolute
  unfold locate
  rw [if_neg (by simp), if_pos (by simp)]
  simp only [hjoin, habsolute]

/-- An absolute form holds nothing that is in neither of the two paths but slashes and dots. -/
theorem isFit_absolute (hbase : Text.isFit base = true) (hname : Text.isFit name = true) :
    Text.isFit (Path.absolute base name) = true := by
  refine Text.isFit_of_mem hbase hname fun r hr => ?_
  by_cases hslash : r = .char '/'
  · exact .inr (.inr ⟨'/', hslash, by decide⟩)
  by_cases hdot : r = .char '.'
  · exact .inr (.inr ⟨'.', hdot, by decide⟩)
  have hjoin := Path.mem_of_mem_normalize hr hslash hdot
  unfold Path.join at hjoin
  split at hjoin
  · exact .inr (.inl hjoin)
  · split at hjoin
    · exact (List.mem_append.1 hjoin).elim .inl fun h => .inr (.inl h)
    · rcases List.mem_append.1 hjoin with h | h
      · exact .inl h
      · exact .inr (.inl ((List.mem_cons.1 h).resolve_left hslash))

/-- `find_executable` returns the normal form of the first path that leads to a program. Looked up
again, this is found itself or nothing is; it leads to the same program if no `..` of the tried path
stands behind a link and the path is not too long for the system. -/
theorem locate_again (hbase : fs.Standing base) (h : locate fs base path cwd name = some found) :
    Path.Settled found ∧
      (∀ other path' cwd', locate fs other path' cwd' found =
        if fs.isExecutable other found then some found else none) ∧
      ∃ before candidate behind,
        candidates base path cwd name = before ++ candidate :: behind ∧
          (∀ passed ∈ before, fs.isExecutable base passed = false) ∧
          fs.isExecutable base candidate = true ∧ found = Path.absolute base candidate ∧
          (fs.BacksOut (steps (Path.join base candidate)) →
            (Path.isAbsolute candidate = false →
              (Text.stored (Path.join base candidate)).length ≤ maxPathBytes) →
            ∀ other, fs.locate other found = fs.locate base candidate ∧
              ∀ path' cwd', locate fs other path' cwd' found = some found) := by
  rw [locate_eq_find?, Option.map_eq_some_iff] at h
  obtain ⟨candidate, hfind, rfl⟩ := h
  have hsettled := Path.settled_absolute hbase.absolute candidate
  have hagain := locate_of_settled hsettled fs
  obtain ⟨hexecutable, before, behind, hsplit, hbefore⟩ := List.find?_eq_some_iff_append.1 hfind
  refine ⟨hsettled, hagain, before, candidate, behind, hsplit, ?_, hexecutable, rfl, ?_⟩
  · intro passed hpassed
    simpa using hbefore passed hpassed
  · intro hback hlength other
    obtain ⟨hfit, entry, hentry, hprogram⟩ := FileSystem.isExecutable_iff.1 hexecutable
    obtain ⟨place, hlocate, hplace⟩ := FileSystem.entry?_eq_ok_iff.1 hentry
    have hthere := hbase.locate_absolute hlength hback hlocate other
    have hsame : fs.isExecutable other (Path.absolute base candidate) = true :=
      FileSystem.isExecutable_iff.2 ⟨isFit_absolute hbase.fit hfit, entry,
        FileSystem.entry?_eq_ok_iff.2 ⟨place, hthere, hplace⟩, hprogram⟩
    refine ⟨hthere.trans hlocate.symm, ?_⟩
    intro path' cwd'
    rw [hagain, if_pos hsame]

/-- A directory with a link to the one beside it, in which there is a program. -/
def crossed : FileSystem :=
  { entries := [(.named ["bin".runes], .directory Mode.directory),
      (.named ["opt".runes], .directory Mode.directory),
      (.named ["opt".runes, "run".runes], .file {} Mode.program),
      (.named ["bin".runes, "tools".runes], .link "../opt".runes)] }

theorem backsOut_crossed :
    crossed.BacksOut (steps (Path.join "/bin".runes "../bin//tools/./run".runes)) := by
  have hsteps : steps (Path.join "/bin".runes "../bin//tools/./run".runes) =
      ["bin".runes, "..".runes, "bin".runes, "tools".runes, ".".runes, "run".runes] := by
    decide +kernel
  intro front rest name below hsplit hstack k l directory there hbelow hname
  rw [hsteps] at hsplit
  -- the one `..` takes back the directory of the process
  obtain rfl : front = ["bin".runes] := by
    rcases front with _ | ⟨first, _ | ⟨second, front⟩⟩
    · cases hsplit
    · cases hsplit
      rfl
    · simp only [List.cons_append, List.cons.injEq] at hsplit
      have hup : [.char '.', .char '.'] ∈ ["bin".runes, "tools".runes, ".".runes, "run".runes] := by
        rw [hsplit.2.2]
        simp
      exact absurd hup (by decide)
  obtain ⟨rfl, rfl⟩ := List.cons.inj hstack
  cases hbelow
  apply hname.dropLast_of_no_link (by decide)
  intro target hlink
  cases hlink

/-- The second directory of the search path goes up from the directory of the process, which is no
link, and then through a link. -/
theorem locate_again_crossed :
    locate crossed "/bin".runes (some ":../bin//tools/.".runes) none "run".runes =
        some "/bin/tools/run".runes ∧
      crossed.locate "/".runes "/bin/tools/run".runes =
        crossed.locate "/bin".runes "../bin//tools/./run".runes ∧
      locate crossed "/".runes none none "/bin/tools/run".runes =
        some "/bin/tools/run".runes := by
  have hbin : crossed.Standing "/bin".runes :=
    ⟨by decide, by decide, FileSystem.leads_of_walk (by rfl)⟩
  have hfound : locate crossed "/bin".runes (some ":../bin//tools/.".runes) none "run".runes =
      some "/bin/tools/run".runes := by decide +kernel
  obtain ⟨-, -, before, candidate, behind, hsplit, -, hexecutable, -, hagain⟩ :=
    locate_again hbin hfound
  have hcandidates : candidates "/bin".runes (some ":../bin//tools/.".runes) none "run".runes =
      ["run".runes, "../bin//tools/./run".runes] := by decide +kernel
  rw [hcandidates] at hsplit
  obtain rfl : candidate = "../bin//tools/./run".runes := by
    rcases before with _ | ⟨first, _ | ⟨second, before⟩⟩
    · cases hsplit
      exact absurd hexecutable (by decide +kernel)
    · cases hsplit
      rfl
    · simp at hsplit
  obtain ⟨hsame, hlocate⟩ := hagain backsOut_crossed (fun _ => by decide +kernel) "/".runes
  exact ⟨hfound, hsame, hlocate none none⟩

/-- A program beside a directory to which there is a link from elsewhere. -/
def beside : FileSystem :=
  { entries := [(.named ["other".runes], .directory Mode.directory),
      (.named ["other".runes, "sub".runes], .directory Mode.directory),
      (.named ["other".runes, "tool".runes], .file {} Mode.program),
      (.named ["here".runes], .link "other/sub".runes)] }

/-- Behind the link `..` leads to the directory of the program, but the path that is returned is one
at which there is nothing. -/
theorem locate_behind_link :
    locate beside "/".runes none (some "/".runes) "here/../tool".runes = some "/tool".runes ∧
      beside.isExecutable "/".runes "/tool".runes = false ∧
      locate beside "/".runes none none "/tool".runes = none := by
  refine ⟨?_, ?_, ?_⟩ <;> decide +kernel

end SearchPath
end PipelineShell
