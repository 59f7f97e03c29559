import PipelineShell.Proofs.FileSystem.Walk
import PipelineShell.Proofs.Path.Joining

/-!
# Where normal forms lead

A path and its normal form lead to the same file if every name that a `..` takes back leads to an
entry of the directory in which it is looked up. Behind a link they may differ.
-/

namespace PipelineShell

namespace FileSystem
variable {fs : FileSystem} {base path name : Text} {links : Nat} {place : Place}

/-! ### The names to follow -/

theorem steps_eq (path : Text) :
    steps path = (Path.names path).filter (· ≠ []) ∨
      steps path = (Path.names path).filter (· ≠ []) ++ [[]] := by
  unfold steps
  split
  · exact .inr rfl
  · exact .inl (List.append_nil _)

theorem no_slash_of_mem_steps (h : name ∈ steps path) : .char '/' ∉ name := by
  have hname : name ∈ Path.names path ∨ name = [] := by
    rcases steps_eq path with hsteps | hsteps
    · rw [hsteps] at h
      exact .inl (List.mem_filter.1 h).1
    · rw [hsteps, List.mem_append] at h
      exact h.imp (fun h => (List.mem_filter.1 h).1) List.mem_singleton.1
  rcases hname with hname | rfl
  · exact Text.not_mem_of_mem_splitOn hname
  · exact List.not_mem_nil

theorem steps_name (hname : name ≠ []) (hslash : .char '/' ∉ name) : steps name = [name] := by
  have hnames : Path.names name = [name] := Text.splitOn_of_not_mem hslash
  have hlast : name.getLast? ≠ some (.char '/') := fun h => hslash (List.mem_of_getLast? h)
  rw [steps, hnames, if_neg hlast]
  simp [hname]

/-- A joined path goes through the names of the directory and then takes those of the path. -/
theorem steps_join (hbase : base ≠ []) (hpath : path ≠ [])
    (hrelative : Path.isAbsolute path = false) :
    steps (Path.join base path) = (Path.names base).filter (· ≠ []) ++ steps path := by
  obtain ⟨front, hjoin, hfront⟩ := Path.join_eq_append hbase hrelative
  have hnames : Path.names (front ++ .char '/' :: path) = Path.names front ++ Path.names path :=
    Text.splitOn_append_cons _ front path
  have hlast : (front ++ .char '/' :: path).getLast? = path.getLast? := by
    have hend := List.getLast?_eq_some_getLast hpath
    rw [← List.singleton_append, ← List.append_assoc, List.getLast?_append, hend]
    rfl
  rw [hjoin, steps, steps, hnames, hlast, List.filter_append, hfront, List.append_assoc]

theorem foldl_push_steps (rooted : Bool) (path : Text) :
    (steps path).foldl (Path.push rooted) [] = (Path.names path).foldl (Path.push rooted) [] := by
  rcases steps_eq path with hsteps | hsteps
  · rw [hsteps, Path.foldl_push_filter]
  · rw [hsteps, List.foldl_append, Path.foldl_push_filter]
    rfl

theorem steps_normalize (habs : Path.isAbsolute path = true) (hne : Path.normalNames path ≠ []) :
    steps (Path.normalize path) = Path.normalNames path := by
  have hreduced := Path.reduced_normalNames path
  have hkept : ∀ n ∈ Path.normalNames path, n ≠ [] ∧ .char '/' ∉ n := fun n hn =>
    hreduced.mem (List.mem_reverse.2 hn)
  obtain ⟨c, hlast, hc⟩ := Path.getLast?_join_ne hne hkept
  have hnames :
      Path.names (Text.join [.char '/'] (Path.normalNames path)) = Path.normalNames path :=
    Text.splitOn_join hne fun n hn => (hkept n hn).2
  have hfilter : (Path.normalNames path).filter (· ≠ []) = Path.normalNames path := by
    rw [List.filter_eq_self]
    intro n hn
    simpa using (hkept n hn).1
  rw [Path.normalize_of_isAbsolute habs]
  generalize Text.join [.char '/'] (Path.normalNames path) = t at hlast hnames
  -- the slashes in front add empty names only, and the last character is the same
  have hroot : (Path.names (Path.rootSlashes path ++ t)).filter (· ≠ []) =
        (Path.names t).filter (· ≠ []) ∧
      (Path.rootSlashes path ++ t).getLast? = t.getLast? := by
    rcases Path.rootSlashes_of_isAbsolute habs with hroot | hroot
    · rw [hroot]
      exact ⟨rfl, by rw [List.getLast?_append, hlast]; rfl⟩
    · rw [hroot]
      exact ⟨rfl, by rw [List.getLast?_append, hlast]; rfl⟩
  have hend : t.getLast? ≠ some (.char '/') := by
    rw [hlast]
    exact fun h => hc (Option.some.inj h)
  rw [steps, hroot.1, hroot.2, if_neg hend, List.append_nil, hnames, hfilter]

/-! ### Where a normal form leads -/

/-- Wherever normalising takes a name back, the name leads to something directly in the directory in
which it is looked up. -/
def BacksOut (fs : FileSystem) (names : List Text) : Prop :=
  ∀ front rest name below, names = front ++ [.char '.', .char '.'] :: rest →
    front.foldl (Path.push true) [] = name :: below →
      ∀ k l directory there, fs.Leads k [] below.reverse directory →
        fs.Leads l directory [name] there → there.dropLast = directory

section
variable {here : Place} {rest front stack : List Text}

theorem Leads.of_still (h : fs.Leads links here (name :: rest) place)
    (still : name = [] ∨ name = [.char '.']) : fs.Leads links here rest place := by
  have hnot : ¬(name ≠ [] ∧ name ≠ [.char '.'] ∧ name ≠ [.char '.', .char '.']) :=
    fun proper => still.elim proper.1 proper.2.1
  cases h with
  | missing directory proper short absent => exact absurd proper hnot
  | onward directory step onward =>
    cases step with
    | stay still => exact onward
    | up => simp at still
    | down proper short there noLink => exact absurd proper hnot
    | follow proper short link => exact absurd proper hnot

theorem Leads.of_up (h : fs.Leads links here ([.char '.', .char '.'] :: rest) place) :
    fs.Leads links here.dropLast rest place := by
  cases h with
  | missing directory proper short absent => exact absurd rfl proper.2.2
  | onward directory step onward =>
    cases step with
    | stay still => simp at still
    | up => exact onward
    | down proper short there noLink => exact absurd rfl proper.2.2
    | follow proper short link => exact absurd rfl proper.2.2

/-- One name put on those that are left already: the way stays the way to the same place. -/
theorem Leads.push (hstack : Path.Reduced true stack)
    (h : fs.Leads links [] (stack.reverse ++ name :: rest) place)
    (hback : name = [.char '.', .char '.'] →
      ∀ top below, stack = top :: below → ∀ k l directory there,
      fs.Leads k [] below.reverse directory → fs.Leads l directory [top] there →
        there.dropLast = directory) :
    fs.Leads links [] ((Path.push true stack name).reverse ++ rest) place := by
  unfold Path.push
  by_cases hstill : name = [] ∨ name = [.char '.']
  · rw [if_pos (by simpa using hstill)]
    obtain ⟨k, l, mid, rfl, hstack, hrest⟩ := h.split
    exact hstack.append (hrest.of_still hstill)
  · rw [if_neg (by simpa using hstill)]
    by_cases hup : name = [.char '.', .char '.']
    · rw [if_pos hup]
      subst hup
      cases hstack with
      | nil => exact h.of_up
      | @name top below nonempty notHere notUp whole reduced =>
        simp only [notUp, ↓reduceIte]
        -- the way down to the name that is taken back, and the way on from its parent
        obtain ⟨m, l, there, rfl, hdown, hrest⟩ := h.split
        rw [List.reverse_cons] at hdown
        obtain ⟨j, k, directory, rfl, hbelow, htop⟩ := hdown.split
        have hparent := hback rfl top below rfl j k directory there hbelow htop
        have hon := hrest.of_up
        rw [hparent] at hon
        have hway := (hbelow.append hon).more k
        rwa [Nat.add_right_comm] at hway
      | up relative only reduced => cases relative
    · rw [if_neg hup, List.reverse_cons, List.append_assoc]
      exact h

theorem Leads.foldl_push (hslash : ∀ n ∈ front ++ rest, .char '/' ∉ n)
    (hback : fs.BacksOut (front ++ rest))
    (h : fs.Leads links [] ((front.foldl (Path.push true) []).reverse ++ rest) place) :
    fs.Leads links [] ((front ++ rest).foldl (Path.push true) []).reverse place := by
  induction rest generalizing front with
  | nil =>
    rw [List.append_nil] at h ⊢
    exact h
  | cons name rest ih =>
    have hsnoc : front ++ name :: rest = (front ++ [name]) ++ rest := by simp
    have hreduced : Path.Reduced true (front.foldl (Path.push true) []) :=
      Path.Reduced.nil.foldl_push fun n hn => hslash n (List.mem_append_left _ hn)
    have hpush := h.push hreduced fun hup top below hstack =>
      hback front rest top below (hup ▸ rfl) hstack
    rw [hsnoc] at hslash hback ⊢
    apply ih hslash hback
    rw [List.foldl_append]
    exact hpush

end

/-- A path that backs out of nothing but what it went into leads where its normal form leads. -/
theorem locate_normalize (habs : Path.isAbsolute path = true) (hback : fs.BacksOut (steps path))
    (h : fs.locate base path = .ok place) (other : Text) :
    fs.locate other (Path.normalize path) = .ok place := by
  have hnormal : Path.isAbsolute (Path.normalize path) = true := by
    rw [Path.isAbsolute_normalize, habs]
  obtain ⟨-, hshort, hway⟩ := locate_eq_ok_iff.1 h
  rw [if_pos habs] at hway
  have hleft : fs.Leads maxLinks [] (Path.normalNames path) place := by
    have hfold :
        fs.Leads maxLinks [] (([] ++ steps path).foldl (Path.push true) []).reverse place :=
      Leads.foldl_push (fun n hn => no_slash_of_mem_steps hn) hback hway
    rwa [List.nil_append, foldl_push_steps, ← habs] at hfold
  have hlength := Path.length_stored_normalize_le habs
  refine locate_eq_ok_iff.2 ⟨Path.ne_nil_of_isAbsolute hnormal, by omega, ?_⟩
  rw [if_pos hnormal]
  by_cases hns : Path.normalNames path = []
  · -- nothing is left but the root, whose path ends in a slash
    have hroot : steps (Path.normalize path) = [[]] := by
      rw [Path.normalize_of_isAbsolute habs, hns]
      rcases Path.rootSlashes_of_isAbsolute habs with hslash | hslash
      · rw [hslash]
        rfl
      · rw [hslash]
        rfl
    rw [hns] at hleft
    cases hleft
    rw [hroot]
    exact .onward rfl (.stay (.inl rfl)) (.arrived [])
  · rw [steps_normalize habs hns]
    exact hleft

/-- A directory that a process can be in: its absolute path leads to the place that it names,
without any link. -/
structure Standing (fs : FileSystem) (base : Text) : Prop where
  absolute : Path.isAbsolute base = true
  fit : Text.isFit base = true
  direct : fs.Leads 0 [] ((steps base).filter (· ≠ []))
    (Place.named ((steps base).filter (· ≠ [])))

/-- A path leads to the same place when the directory of the process is written in front of it. -/
theorem Standing.locate_join (hbase : fs.Standing base)
    (hlength : Path.isAbsolute path = false →
      (Text.stored (Path.join base path)).length ≤ maxPathBytes)
    (h : fs.locate base path = .ok place) (other : Text) :
    fs.locate other (Path.join base path) = .ok place := by
  obtain ⟨hne, hshort, hway⟩ := locate_eq_ok_iff.1 h
  by_cases habs : Path.isAbsolute path = true
  · have hjoin := Path.join_of_isAbsolute habs base
    rw [if_pos habs] at hway
    rw [hjoin]
    refine locate_eq_ok_iff.2 ⟨hne, hshort, ?_⟩
    rw [if_pos habs]
    exact hway
  · have hrelative : Path.isAbsolute path = false := by simpa using habs
    have hjoin := Path.isAbsolute_join hbase.absolute path
    have hhome : (steps base).filter (· ≠ []) = (Path.names base).filter (· ≠ []) := by
      rcases steps_eq base with hsteps | hsteps <;> simp [hsteps]
    have hdirect := hbase.direct
    rw [if_neg habs, hhome] at hway
    rw [hhome] at hdirect
    have hwhole := hdirect.append hway
    refine locate_eq_ok_iff.2 ⟨Path.ne_nil_of_isAbsolute hjoin, hlength hrelative, ?_⟩
    rw [if_pos hjoin,
      steps_join (Path.ne_nil_of_isAbsolute hbase.absolute) hne hrelative]
    rwa [Nat.zero_add] at hwhole

theorem Standing.locate_absolute (hbase : fs.Standing base)
    (hlength : Path.isAbsolute path = false →
      (Text.stored (Path.join base path)).length ≤ maxPathBytes)
    (hback : fs.BacksOut (steps (Path.join base path)))
    (h : fs.locate base path = .ok place) (other : Text) :
    fs.locate other (Path.absolute base path) = .ok place :=
  locate_normalize (Path.isAbsolute_join hbase.absolute path) hback
    (hbase.locate_join hlength h base) other

end FileSystem
end PipelineShell
