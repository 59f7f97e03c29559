import PipelineShell.Path
import PipelineShell.Proofs.Text.System
import PipelineShell.Session

/-!
# Normal forms of paths

`normpath` leaves no empty name, no `.`, and `..` only in front of a relative path; so it is
idempotent.
-/

namespace PipelineShell.Path

/-- Names, in reverse, of which none takes back another. -/
inductive Reduced (rooted : Bool) : List Text → Prop
  | nil : Reduced rooted []
  | name {n : Text} {below : List Text} (nonempty : n ≠ []) (notHere : n ≠ [.char '.'])
      (notUp : n ≠ [.char '.', .char '.']) (whole : .char '/' ∉ n) (rest : Reduced rooted below) :
      Reduced rooted (n :: below)
  | up {below : List Text} (relative : rooted = false)
      (only : ∀ n ∈ below, n = [.char '.', .char '.'])
      (rest : Reduced rooted below) : Reduced rooted ([.char '.', .char '.'] :: below)

variable {rooted : Bool} {stack : List Text} {name path : Text}

theorem Reduced.push (h : Reduced rooted stack) (hname : .char '/' ∉ name) :
    Reduced rooted (push rooted stack name) := by
  unfold Path.push
  by_cases hkept : name = [] ∨ name = [.char '.']
  · rw [if_pos (by simpa using hkept)]
    exact h
  · rw [if_neg (by simpa using hkept)]
    rw [not_or] at hkept
    by_cases hup : name = [.char '.', .char '.']
    · rw [if_pos hup, hup]
      cases h with
      | nil =>
        cases rooted with
        | true => exact .nil
        | false => exact .up rfl (by simp) .nil
      | name nonempty notHere notUp whole rest =>
        simp only [notUp, ↓reduceIte]
        exact rest
      | up relative only rest =>
        simp only [↓reduceIte]
        exact .up relative (List.forall_mem_cons.2 ⟨rfl, only⟩) (.up relative only rest)
    · rw [if_neg hup]
      exact .name hkept.1 hkept.2 hup hname h

theorem Reduced.foldl_push (h : Reduced rooted stack) {added : List Text}
    (hadded : ∀ n ∈ added, .char '/' ∉ n) :
    Reduced rooted (added.foldl (Path.push rooted) stack) := by
  induction added generalizing stack with
  | nil => exact h
  | cons n added ih =>
    obtain ⟨hn, hrest⟩ := List.forall_mem_cons.1 hadded
    exact ih (h.push hn) hrest

theorem Reduced.foldl_reverse (h : Reduced rooted stack) :
    stack.reverse.foldl (Path.push rooted) [] = stack := by
  induction h with
  | nil => rfl
  | name nonempty notHere notUp whole rest ih =>
    rw [List.reverse_cons, List.foldl_append, ih]
    simp [Path.push, nonempty, notHere, notUp]
  | @up below relative only rest ih =>
    rw [List.reverse_cons, List.foldl_append, ih]
    cases below with
    | nil => simp [Path.push, relative]
    | cons top below => simp [Path.push, only top (by simp)]

theorem Reduced.mem (h : Reduced rooted stack) {n : Text} (hn : n ∈ stack) :
    n ≠ [] ∧ .char '/' ∉ n := by
  induction h with
  | nil => cases hn
  | name nonempty notHere notUp whole rest ih =>
    cases List.mem_cons.1 hn with
    | inl hn => exact hn ▸ ⟨nonempty, whole⟩
    | inr hn => exact ih hn
  | up relative only rest ih =>
    cases List.mem_cons.1 hn with
    | inl hn => exact hn ▸ ⟨by simp, by decide⟩
    | inr hn => exact ih hn

theorem reduced_normalNames (path : Text) :
    Reduced (isAbsolute path) (normalNames path).reverse := by
  rw [normalNames, List.reverse_reverse]
  exact Reduced.nil.foldl_push fun _ hn => Text.not_mem_of_mem_splitOn hn

/-! ### Written out and read again -/

/-- The path with these leading slashes and these names. -/
def written (root : Text) (ns : List Text) : Text :=
  match root ++ Text.join [.char '/'] ns with
  | [] => [.char '.']
  | normal => normal

theorem normalize_eq_written (path : Text) :
    normalize path = written (rootSlashes path) (normalNames path) := rfl

theorem rootSlashes_cases (path : Text) :
    (isAbsolute path = false ∧ rootSlashes path = []) ∨
      (isAbsolute path = true ∧
        (rootSlashes path = [.char '/'] ∨ rootSlashes path = [.char '/', .char '/'])) := by
  unfold isAbsolute rootSlashes
  split
  · split <;> simp_all
  · split <;> simp_all

theorem rootSlashes_root {root rest : Text}
    (hroot : root = [.char '/'] ∨ root = [.char '/', .char '/'])
    (h : isAbsolute rest = false) : rootSlashes (root ++ rest) = root := by
  cases rest with
  | nil => rcases hroot with rfl | rfl <;> rfl
  | cons c t =>
    have hc : c ≠ '/' := by
      rintro rfl
      cases h
    rcases hroot with rfl | rfl <;> simp [rootSlashes, hc]

theorem join_of_reduced {ns : List Text} (h : Reduced rooted ns.reverse) :
    isAbsolute (Text.join [.char '/'] ns) = false ∧ (Text.join [.char '/'] ns = [] → ns = []) := by
  cases ns with
  | nil => exact ⟨rfl, fun _ => rfl⟩
  | cons n ns =>
    obtain ⟨hne, hslash⟩ := h.mem (by simp : n ∈ (n :: ns).reverse)
    obtain ⟨c, cs, rfl⟩ := List.exists_cons_of_ne_nil hne
    have hc : c ≠ '/' := fun hc => hslash (hc ▸ List.mem_cons_self ..)
    have hjoin : ∃ rest, Text.join [.char '/'] ((c :: cs) :: ns) = c :: rest := by
      cases ns with
      | nil => exact ⟨cs, rfl⟩
      | cons m ns => exact ⟨_, rfl⟩
    obtain ⟨rest, hrest⟩ := hjoin
    rw [hrest]
    exact ⟨by simp [isAbsolute, hc], nofun⟩

/-- The names of a path that is written out are the names it was written with, but for empty
ones. -/
theorem normalNames_root {root : Text} (hroot : ∀ c ∈ root, c = '/') {ns : List Text}
    (h : Reduced (isAbsolute (root ++ Text.join [.char '/'] ns)) ns.reverse) :
    normalNames (root ++ Text.join [.char '/'] ns) = ns := by
  have hnames : ∀ a, (Text.splitOn (.char '/') (Text.join [.char '/'] ns)).foldl (push a) [] =
      ns.foldl (push a) [] := by
    intro a
    cases ns with
    | nil => rfl
    | cons n ns =>
      rw [Text.splitOn_join (by simp) fun m hm => (h.mem (List.mem_reverse.2 hm)).2]
  have hslashes : ∀ a,
      (Text.splitOn (.char '/') (root ++ Text.join [.char '/'] ns)).foldl (push a) [] =
      (Text.splitOn (.char '/') (Text.join [.char '/'] ns)).foldl (push a) [] := by
    -- each leading slash gives an empty name, and an empty name is dropped
    intro a
    clear h
    induction root with
    | nil => rfl
    | cons c root ih =>
      obtain ⟨rfl, hrest⟩ := List.forall_mem_cons.1 hroot
      rw [List.cons_append, Text.splitOn, if_pos rfl, List.foldl_cons]
      exact ih hrest
  have hkept := h.foldl_reverse
  rw [List.reverse_reverse] at hkept
  rw [normalNames, names, hslashes, hnames, hkept, List.reverse_reverse]

theorem isAbsolute_written_root {root : Text}
    (hroot : root = [.char '/'] ∨ root = [.char '/', .char '/'])
    (ns : List Text) : isAbsolute (written root ns) = true := by
  rcases hroot with rfl | rfl <;> rfl

theorem normalize_written_root {root : Text}
    (hroot : root = [.char '/'] ∨ root = [.char '/', .char '/'])
    {ns : List Text} (h : Reduced true ns.reverse) :
    normalize (written root ns) = written root ns := by
  have hjoin := (join_of_reduced h).1
  have hwritten : written root ns = root ++ Text.join [.char '/'] ns := by
    rcases hroot with rfl | rfl <;> rfl
  have habs : isAbsolute (root ++ Text.join [.char '/'] ns) = true := by
    rcases hroot with rfl | rfl <;> rfl
  have hslashes : rootSlashes (root ++ Text.join [.char '/'] ns) = root :=
    rootSlashes_root hroot hjoin
  have hnames : normalNames (root ++ Text.join [.char '/'] ns) = ns :=
    normalNames_root (by rcases hroot with rfl | rfl <;> simp) (by rw [habs]; exact h)
  rw [normalize_eq_written, hwritten, hslashes, hnames, hwritten]

theorem normalize_written_relative {ns : List Text} (h : Reduced false ns.reverse) :
    isAbsolute (written [] ns) = false ∧ normalize (written [] ns) = written [] ns := by
  obtain ⟨habs, hempty⟩ := join_of_reduced h
  cases ht : Text.join [.char '/'] ns with
  | nil =>
    rw [hempty ht]
    exact ⟨rfl, by decide⟩
  | cons c t =>
    have hwritten : written [] ns = [] ++ Text.join [.char '/'] ns := by
      rw [written, List.nil_append, ht]
    have hnames : normalNames ([] ++ Text.join [.char '/'] ns) = ns :=
      normalNames_root (by simp) (by rw [List.nil_append, habs]; exact h)
    have hslashes : rootSlashes ([] ++ Text.join [.char '/'] ns) = [] := by
      rcases rootSlashes_cases ([] ++ Text.join [.char '/'] ns) with h | h
      · exact h.2
      · rw [List.nil_append, habs] at h
        cases h.1
    rw [normalize_eq_written, hwritten, hslashes, hnames, hwritten]
    exact ⟨habs, rfl⟩

/-! ### Normal forms -/

@[simp] theorem isAbsolute_normalize (path : Text) :
    isAbsolute (normalize path) = isAbsolute path := by
  have hreduced := reduced_normalNames path
  rw [normalize_eq_written]
  rcases rootSlashes_cases path with ⟨habs, hroot⟩ | ⟨habs, hroot⟩
  · rw [habs] at hreduced
    rw [habs, hroot]
    exact (normalize_written_relative hreduced).1
  · rw [habs]
    exact isAbsolute_written_root hroot _

@[simp] theorem normalize_normalize (path : Text) :
    normalize (normalize path) = normalize path := by
  have hreduced := reduced_normalNames path
  rw [normalize_eq_written path]
  rcases rootSlashes_cases path with ⟨habs, hroot⟩ | ⟨habs, hroot⟩
  · rw [habs] at hreduced
    rw [hroot]
    exact (normalize_written_relative hreduced).2
  · rw [habs] at hreduced
    exact normalize_written_root hroot hreduced

theorem exists_of_isAbsolute (h : isAbsolute path = true) : ∃ rest, path = .char '/' :: rest := by
  unfold isAbsolute at h
  split at h
  · next rest => exact ⟨rest, rfl⟩
  · cases h

theorem ne_nil_of_isAbsolute (h : isAbsolute path = true) : path ≠ [] := by
  rintro rfl
  cases h

theorem isAbsolute_join {base : Text} (h : isAbsolute base = true) (path : Text) :
    isAbsolute (join base path) = true := by
  unfold join
  by_cases hpath : isAbsolute path = true
  · rw [if_pos hpath]
    exact hpath
  · rw [if_neg hpath]
    -- an absolute path is not empty, and what is added behind it leaves its front alone
    obtain ⟨rest, rfl⟩ := exists_of_isAbsolute h
    split <;> rfl

/-- A directory that is an absolute path in its normal form. -/
structure Settled (directory : Text) : Prop where
  absolute : isAbsolute directory = true
  normal : normalize directory = directory

theorem settled_absolute {base : Text} (h : isAbsolute base = true) (path : Text) :
    Settled (absolute base path) where
  absolute := by rw [Path.absolute, isAbsolute_normalize, isAbsolute_join h]
  normal := normalize_normalize _

section
variable {ns : List Text} {base : Text}

/-! ### What a normal form is made of -/

theorem mem_push {n name : Text} (h : n ∈ push rooted stack name) : n ∈ stack ∨ n = name := by
  unfold push at h
  split at h
  · exact .inl h
  · split at h
    · next hup =>
      cases stack with
      | nil =>
        cases rooted with
        | true => cases h
        | false => exact .inr (List.mem_singleton.1 h)
      | cons top below =>
        simp only at h
        split at h
        · exact (List.mem_cons.1 h).symm
        · exact .inl (List.mem_cons_of_mem _ h)
    · exact (List.mem_cons.1 h).symm

theorem foldl_push_filter (rooted : Bool) (ns stack : List Text) :
    (ns.filter (· ≠ [])).foldl (push rooted) stack = ns.foldl (push rooted) stack := by
  induction ns generalizing stack with
  | nil => rfl
  | cons n ns ih =>
    by_cases hn : n = []
    · subst hn
      exact ih stack
    · rw [List.filter_cons_of_pos (by simpa using hn)]
      exact ih _

theorem mem_foldl_push {n : Text} (h : n ∈ ns.foldl (push rooted) stack) : n ∈ stack ∨ n ∈ ns := by
  induction ns generalizing stack with
  | nil => exact .inl h
  | cons name ns ih =>
    cases ih h with
    | inr hns => exact .inr (List.mem_cons_of_mem _ hns)
    | inl hpush =>
      cases mem_push hpush with
      | inl hstack => exact .inl hstack
      | inr hname => exact .inr (hname ▸ List.mem_cons_self ..)

theorem mem_of_mem_normalize {c : Rune} (h : c ∈ normalize path) (hslash : c ≠ '/')
    (hdot : c ≠ '.') : c ∈ path := by
  have hwritten : c ∈ rootSlashes path ++ Text.join [.char '/'] (normalNames path) := by
    unfold normalize at h
    split at h
    · exact absurd (List.mem_singleton.1 h) hdot
    · exact h
  rcases List.mem_append.1 hwritten with hroot | hjoin
  · have hall : ∀ d ∈ rootSlashes path, d = '/' := by
      rcases rootSlashes_cases path with ⟨-, hr⟩ | ⟨-, hr | hr⟩ <;> rw [hr] <;> simp
    exact absurd (hall c hroot) hslash
  · obtain hc | ⟨n, hn, hc⟩ := Text.mem_join hjoin
    · exact absurd (List.mem_singleton.1 hc) hslash
    · have hname : n ∈ names path := by
        simpa using mem_foldl_push (List.mem_reverse.1 hn)
      exact Text.mem_of_mem_splitOn hname hc

/-- The bytes that names take with a slash in front of each. -/
def room : List Text → Nat
  | [] => 0
  | n :: ns => n.stored.length + 1 + room ns

theorem room_cons (n : Text) (ns : List Text) :
    room (n :: ns) = n.stored.length + 1 + room ns := rfl

theorem room_append (ns more : List Text) : room (ns ++ more) = room ns + room more := by
  induction ns with
  | nil => exact (Nat.zero_add _).symm
  | cons n ns ih =>
    rw [List.cons_append, room_cons, room_cons, ih]
    omega

theorem room_reverse (ns : List Text) : room ns.reverse = room ns := by
  induction ns with
  | nil => rfl
  | cons n ns ih =>
    have hone : room [n] = n.stored.length + 1 := rfl
    rw [List.reverse_cons, room_append, ih, hone, room_cons]
    omega

theorem room_push (rooted : Bool) (stack : List Text) (n : Text) :
    room (push rooted stack n) ≤ n.stored.length + 1 + room stack := by
  unfold push
  split
  · omega
  · split
    · next hup =>
      cases stack with
      | nil =>
        cases rooted with
        | true => exact Nat.zero_le _
        | false => exact Nat.le_refl _
      | cons top below =>
        simp only
        split
        · exact Nat.le_refl _
        · rw [room_cons top below]
          omega
    · exact Nat.le_refl _

theorem room_foldl_push (rooted : Bool) (ns stack : List Text) :
    room (ns.foldl (push rooted) stack) ≤ room ns + room stack := by
  induction ns generalizing stack with
  | nil => exact Nat.le_add_left ..
  | cons n ns ih =>
    have hpush := room_push rooted stack n
    have hrest := ih (push rooted stack n)
    rw [List.foldl_cons, room_cons]
    omega

theorem length_join_eq_room (hns : ns ≠ []) :
    (Text.stored (Text.join [.char '/'] ns)).length + 1 = room ns := by
  induction ns with
  | nil => exact absurd rfl hns
  | cons n ns ih =>
    cases ns with
    | nil => rfl
    | cons m ns =>
      have hrest := ih (by simp)
      have hslash : (Text.stored [.char '/']).length = 1 := by decide
      rw [Text.join_cons_cons, Text.stored_append, Text.stored_append, List.length_append,
        List.length_append, room_cons]
      omega

theorem room_names (path : Text) : room (names path) = path.stored.length + 1 := by
  have hne : names path ≠ [] := Text.splitOn_ne_nil _ path
  rw [← length_join_eq_room hne, names, Text.join_splitOn]

theorem exists_behind_root (habs : isAbsolute path = true) :
    ∃ behind, path = rootSlashes path ++ behind ∧
      normalNames path = ((names behind).foldl (push true) []).reverse := by
  obtain ⟨rest, rfl⟩ := exists_of_isAbsolute habs
  unfold rootSlashes
  split
  · next more hmore =>
    rw [hmore]
    exact ⟨.char '/' :: .char '/' :: more, rfl, rfl⟩
  · next more _ hmore =>
    rw [hmore]
    exact ⟨more, rfl, rfl⟩
  · exact ⟨rest, rfl, rfl⟩
  · next hrelative => exact (hrelative rest rfl).elim

theorem rootSlashes_of_isAbsolute (habs : isAbsolute path = true) :
    rootSlashes path = [.char '/'] ∨ rootSlashes path = [.char '/', .char '/'] := by
  rcases rootSlashes_cases path with ⟨hrelative, -⟩ | ⟨-, hroot⟩
  · rw [habs] at hrelative
    cases hrelative
  · exact hroot

theorem normalize_of_isAbsolute (habs : isAbsolute path = true) :
    normalize path = rootSlashes path ++ Text.join [.char '/'] (normalNames path) := by
  rw [normalize_eq_written]
  rcases rootSlashes_of_isAbsolute habs with hroot | hroot
  · rw [hroot]
    rfl
  · rw [hroot]
    rfl

theorem length_stored_normalize_le (habs : isAbsolute path = true) :
    (Text.stored (normalize path)).length ≤ path.stored.length := by
  obtain ⟨behind, hpath, hnames⟩ := exists_behind_root habs
  have hroom : room (normalNames path) ≤ behind.stored.length + 1 := by
    have h := room_foldl_push true (names behind) []
    rw [room_names] at h
    rw [hnames, room_reverse]
    exact h
  have hlength : path.stored.length =
      (Text.stored (rootSlashes path)).length + behind.stored.length := by
    rw [← List.length_append, ← Text.stored_append, ← hpath]
  rw [normalize_of_isAbsolute habs, Text.stored_append, List.length_append, hlength]
  by_cases hns : normalNames path = []
  · rw [hns]
    exact Nat.add_le_add_left (Nat.zero_le _) _
  · have hjoin := length_join_eq_room hns
    omega

/-! ### The names of a joined path -/

theorem isAbsolute_of_no_slash {name : Text} (h : .char '/' ∉ name) : isAbsolute name = false := by
  unfold isAbsolute
  split
  · next rest => exact absurd (List.mem_cons_self ..) h
  · rfl

/-- A directory with a path behind it: there is one slash between them, which the directory may have
ended in. -/
theorem join_eq_append (hbase : base ≠ []) (hpath : isAbsolute path = false) :
    ∃ front, join base path = front ++ .char '/' :: path ∧
      (names front).filter (· ≠ []) = (names base).filter (· ≠ []) := by
  have hempty : base.isEmpty = false := by simpa using hbase
  unfold join
  rw [hpath, hempty]
  by_cases hend : base.getLast? = some (.char '/')
  · obtain ⟨front, rfl⟩ := List.getLast?_eq_some_iff.1 hend
    have hsplit : names (front ++ [.char '/']) = names front ++ [[]] :=
      Text.splitOn_append_cons _ front []
    refine ⟨front, by simp, ?_⟩
    rw [hsplit, List.filter_append]
    simp
  · exact ⟨base, by simp [hend], rfl⟩

theorem getLast?_join_ne {ns : List Text} (hns : ns ≠ []) (h : ∀ n ∈ ns, n ≠ [] ∧ .char '/' ∉ n) :
    ∃ c, (Text.join [.char '/'] ns).getLast? = some c ∧ c ≠ '/' := by
  induction ns with
  | nil => exact absurd rfl hns
  | cons n ns ih =>
    obtain ⟨⟨hne, hslash⟩, hrest⟩ := List.forall_mem_cons.1 h
    cases ns with
    | nil =>
      refine ⟨n.getLast hne, List.getLast?_eq_some_getLast hne, ?_⟩
      intro hc
      exact hslash (hc ▸ List.getLast_mem hne)
    | cons m ns =>
      obtain ⟨c, hlast, hc⟩ := ih (by simp) hrest
      refine ⟨c, ?_, hc⟩
      rw [Text.join_cons_cons, List.getLast?_append, hlast]
      rfl

end

end PipelineShell.Path

namespace PipelineShell.Session

theorem settled_start {base : Text} (h : Path.isAbsolute base = true) (cwd : Text)
    (env : Environment) (stdin : Bytes) (history : List Text) :
    Path.Settled (start base cwd env stdin history).cwd :=
  Path.settled_absolute h _

theorem settled_resolve {s : Session} (h : Path.Settled s.cwd) (path : Text) :
    Path.Settled (s.resolve path) :=
  Path.settled_absolute h.absolute path

end PipelineShell.Session
