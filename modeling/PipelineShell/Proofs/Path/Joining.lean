import PipelineShell.Proofs.Path

/-!
# Paths that are joined

`join` is associative, and normalising its first argument does not change the normal form of the
result.
-/

namespace PipelineShell.Path

variable {base path : Text}

/-! ### Joining -/

/-- A path with the slash behind it that leads inside, unless it has one or is empty. -/
def opened (base : Text) : Text :=
  if base.isEmpty || base.getLast? = some (.char '/') then base else base ++ [.char '/']

theorem join_of_isAbsolute (h : isAbsolute path = true) (base : Text) : join base path = path := by
  rw [join, if_pos h]

theorem join_of_relative (h : isAbsolute path = false) (base : Text) :
    join base path = opened base ++ path := by
  rw [join, opened, h, if_neg (by simp)]
  split
  · rfl
  · rw [List.append_assoc]
    rfl

theorem opened_opened (base : Text) : opened (opened base) = opened base := by
  by_cases h : base.isEmpty || base.getLast? = some (.char '/')
  · have hopened : opened base = base := by rw [opened, if_pos h]
    rw [hopened, hopened]
  · have hopened : opened base = base ++ [.char '/'] := by rw [opened, if_neg h]
    rw [hopened, opened, if_pos (by simp)]

theorem opened_append (front : Text) (h : base ≠ []) :
    opened (front ++ base) = front ++ opened base := by
  have hlast : (front ++ base).getLast? = base.getLast? := by
    rw [List.getLast?_append, List.getLast?_eq_some_getLast h]
    rfl
  have hempty : (front ++ base).isEmpty = base.isEmpty := by
    have hne : front ++ base ≠ [] := by simp [h]
    rw [List.isEmpty_eq_false_iff.2 h, List.isEmpty_eq_false_iff.2 hne]
  rw [opened, opened, hlast, hempty]
  split
  · rfl
  · rw [List.append_assoc]

theorem exists_join_eq_append (h : isAbsolute path = false) (base : Text) :
    ∃ tail, join base path = base ++ tail := by
  rw [join_of_relative h, opened]
  split
  · exact ⟨path, rfl⟩
  · exact ⟨.char '/' :: path, by rw [List.append_assoc]; rfl⟩

theorem isAbsolute_join_of_relative (h : isAbsolute path = false) (base : Text) :
    isAbsolute (join base path) = isAbsolute base := by
  cases base with
  | nil =>
    rw [join_of_relative h]
    exact h
  | cons c cs =>
    by_cases hc : c = '/'
    · rw [hc, isAbsolute_join rfl]
      rfl
    · obtain ⟨tail, htail⟩ := exists_join_eq_append h (c :: cs)
      rw [htail]
      simp [isAbsolute, hc]

theorem join_assoc (base path more : Text) :
    join (join base path) more = join base (join path more) := by
  by_cases hmore : isAbsolute more = true
  · rw [join_of_isAbsolute hmore, join_of_isAbsolute hmore, join_of_isAbsolute hmore]
  · rw [Bool.not_eq_true] at hmore
    by_cases hpath : isAbsolute path = true
    · rw [join_of_isAbsolute hpath, join_of_isAbsolute (isAbsolute_join hpath more)]
    · rw [Bool.not_eq_true] at hpath
      have hwhole := isAbsolute_join_of_relative hmore path
      rw [hpath] at hwhole
      rw [join_of_relative hpath, join_of_relative hmore, join_of_relative hwhole,
        join_of_relative hmore]
      by_cases hempty : path = []
      · rw [hempty, List.append_nil, opened_opened]
        rfl
      · rw [opened_append _ hempty, List.append_assoc]

/-! ### The slashes in front -/

/-- What is written behind a path leaves the slashes at its front alone, unless there is nothing but
slashes and more of them come. -/
theorem rootSlashes_append (hbase : isAbsolute base = true) {more : Text}
    (h : isAbsolute more = false ∨ base ≠ [.char '/'] ∧ base ≠ [.char '/', .char '/']) :
    rootSlashes (base ++ more) = rootSlashes base := by
  have hbehind {rest : Text} (hname : isAbsolute rest = false)
      (hmore : rest = [] → isAbsolute more = false) : isAbsolute (rest ++ more) = false := by
    cases rest with
    | nil => exact hmore rfl
    | cons c cs =>
      have hc : c ≠ '/' := by
        rintro rfl
        cases hname
      simp [isAbsolute, hc]
  obtain ⟨rest, rfl⟩ := exists_of_isAbsolute hbase
  -- there is one slash, or there are two, or more
  by_cases hone : isAbsolute rest = true
  · obtain ⟨rest, rfl⟩ := exists_of_isAbsolute hone
    by_cases htwo : isAbsolute rest = true
    · obtain ⟨rest, rfl⟩ := exists_of_isAbsolute htwo
      rfl
    · rw [Bool.not_eq_true] at htwo
      have hmore : rest = [] → isAbsolute more = false := fun hrest =>
        h.resolve_right fun hroot => hroot.2 (by rw [hrest])
      exact (rootSlashes_root (.inr rfl) (hbehind htwo hmore)).trans
        (rootSlashes_root (.inr rfl) htwo).symm
  · rw [Bool.not_eq_true] at hone
    have hmore : rest = [] → isAbsolute more = false := fun hrest =>
      h.resolve_right fun hroot => hroot.1 (by rw [hrest])
    exact (rootSlashes_root (.inl rfl) (hbehind hone hmore)).trans
      (rootSlashes_root (.inl rfl) hone).symm

theorem rootSlashes_join (hbase : isAbsolute base = true) (hpath : isAbsolute path = false) :
    rootSlashes (join base path) = rootSlashes base := by
  rw [join_of_relative hpath]
  by_cases hend : base.isEmpty || base.getLast? = some (.char '/')
  · rw [opened, if_pos hend]
    exact rootSlashes_append hbase (.inl hpath)
  · rw [opened, if_neg hend, List.append_assoc]
    refine rootSlashes_append hbase (.inr ⟨?_, ?_⟩)
    · rintro rfl
      exact hend rfl
    · rintro rfl
      exact hend rfl

/-! ### The normal form of a joined path -/

theorem normalNames_join (hbase : isAbsolute base = true) (hpath : isAbsolute path = false) :
    normalNames (join base path) =
      ((names path).foldl (push true) (normalNames base).reverse).reverse := by
  have habs : isAbsolute (join base path) = true := isAbsolute_join hbase path
  obtain ⟨front, hjoin, hfront⟩ := join_eq_append (ne_nil_of_isAbsolute hbase) hpath
  have hnames : names (join base path) = names front ++ names path := by
    rw [hjoin]
    exact Text.splitOn_append_cons _ front path
  rw [normalNames, habs, hnames, List.foldl_append, normalNames, hbase, List.reverse_reverse,
    ← foldl_push_filter true (names front), hfront, foldl_push_filter]

theorem normalNames_normalize (h : isAbsolute path = true) :
    normalNames (normalize path) = normalNames path := by
  have hreduced := reduced_normalNames path
  rw [normalize_of_isAbsolute h]
  apply normalNames_root
  · rcases rootSlashes_of_isAbsolute h with hroot | hroot <;> simp [hroot]
  · rw [h] at hreduced
    rcases rootSlashes_of_isAbsolute h with hroot | hroot <;> rw [hroot] <;> exact hreduced

theorem rootSlashes_normalize (h : isAbsolute path = true) :
    rootSlashes (normalize path) = rootSlashes path := by
  have hjoin := (join_of_reduced (reduced_normalNames path)).1
  rw [normalize_of_isAbsolute h, rootSlashes_root (rootSlashes_of_isAbsolute h) hjoin]

theorem normalize_join_normalize (hbase : isAbsolute base = true) (path : Text) :
    normalize (join (normalize base) path) = normalize (join base path) := by
  by_cases hpath : isAbsolute path = true
  · rw [join_of_isAbsolute hpath, join_of_isAbsolute hpath]
  · rw [Bool.not_eq_true] at hpath
    have hnormal : isAbsolute (normalize base) = true := by rw [isAbsolute_normalize, hbase]
    rw [normalize_eq_written, rootSlashes_join hnormal hpath, normalNames_join hnormal hpath,
      rootSlashes_normalize hbase, normalNames_normalize hbase, normalize_eq_written,
      rootSlashes_join hbase hpath, normalNames_join hbase hpath]

/-! ### A slash more than joining writes -/

theorem normalNames_append_slash (hbase : isAbsolute base = true)
    (hpath : isAbsolute path = false) :
    normalNames (base ++ .char '/' :: path) = normalNames (join base path) := by
  have habs : isAbsolute (base ++ .char '/' :: path) = true := by
    obtain ⟨rest, rfl⟩ := exists_of_isAbsolute hbase
    rfl
  have hnames : names (base ++ .char '/' :: path) = names base ++ names path :=
    Text.splitOn_append_cons _ base path
  rw [normalNames, habs, hnames, List.foldl_append, normalNames_join hbase hpath, normalNames,
    hbase, List.reverse_reverse]

theorem normalize_append_slash (hbase : isAbsolute base = true)
    (hroot : base ≠ [.char '/'] ∧ base ≠ [.char '/', .char '/']) (hpath : isAbsolute path = false) :
    normalize (base ++ .char '/' :: path) = normalize (join base path) := by
  rw [normalize_eq_written, rootSlashes_append hbase (.inr hroot),
    normalNames_append_slash hbase hpath, normalize_eq_written, rootSlashes_join hbase hpath]

theorem normalize_root_slash (hpath : isAbsolute path = false) :
    normalize (.char '/' :: .char '/' :: path) =
      .char '/' :: normalize (join [.char '/'] path) := by
  have hnames : normalNames ([.char '/'] ++ .char '/' :: path) =
      normalNames (join [.char '/'] path) :=
    normalNames_append_slash rfl hpath
  have hslashes : rootSlashes (.char '/' :: .char '/' :: path) = [.char '/', .char '/'] :=
    rootSlashes_root (.inr rfl) hpath
  rw [normalize_eq_written, hslashes, normalize_eq_written, rootSlashes_join rfl hpath, ← hnames]
  rfl

theorem normalize_root_slash_slash (hpath : isAbsolute path = false) :
    normalize (join [.char '/', .char '/'] path) =
      .char '/' :: normalize (.char '/' :: .char '/' :: .char '/' :: path) := by
  have hnames : normalNames ([.char '/', .char '/'] ++ .char '/' :: path) =
      normalNames (join [.char '/', .char '/'] path) :=
    normalNames_append_slash rfl hpath
  rw [normalize_eq_written, rootSlashes_join rfl hpath, normalize_eq_written, ← hnames]
  rfl

/-! ### Paths as seen from a directory -/

theorem absolute_absolute (hbase : isAbsolute base = true) (path more : Text) :
    absolute (absolute base path) more = absolute base (join path more) := by
  unfold absolute
  rw [normalize_join_normalize (isAbsolute_join hbase path), join_assoc]

theorem absolute_of_isAbsolute (h : isAbsolute path = true) (base : Text) :
    absolute base path = normalize path := by
  rw [absolute, join_of_isAbsolute h]

end PipelineShell.Path
