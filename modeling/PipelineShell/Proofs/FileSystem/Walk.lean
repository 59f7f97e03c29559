import PipelineShell.FileSystem.Basic

/-!
# Walks through directories

A path is followed name by name, from directories only. A walk starts at any place and follows at
most so many links, since a link puts its own names in front of the others.
-/

namespace PipelineShell.FileSystem

/-- Whatever stands somewhere stands in a directory. -/
def Grounded (fs : FileSystem) : Prop :=
  ∀ place name entry, fs.get? (place ++ [name]) = some entry →
    ∃ mode, fs.get? place = some (.directory mode)

/-- What a name leads to from a directory, with the names that are to be followed next: it stays,
goes up, goes down to something that is no link, or goes where a link points. -/
inductive Onward (fs : FileSystem) :
    (links : Nat) → Place → Text → (left : Nat) → Place → (added : List Text) → Prop
  | stay {links : Nat} {here : Place} {name : Text} (still : name = [] ∨ name = [.char '.']) :
      Onward fs links here name links here []
  | up {links : Nat} {here : Place} :
      Onward fs links here [.char '.', .char '.'] links here.dropLast []
  | down {links : Nat} {here : Place} {name : Text} {entry : Entry}
      (proper : name ≠ [] ∧ name ≠ [.char '.'] ∧ name ≠ [.char '.', .char '.'])
      (short : name.stored.length ≤ maxNameBytes)
      (there : fs.get? (here ++ [name.stored]) = some entry)
      (noLink : ∀ target, entry ≠ .link target) :
      Onward fs links here name links (here ++ [name.stored]) []
  | follow {links : Nat} {here : Place} {name target : Text}
      (proper : name ≠ [] ∧ name ≠ [.char '.'] ∧ name ≠ [.char '.', .char '.'])
      (short : name.stored.length ≤ maxNameBytes)
      (link : fs.get? (here ++ [name.stored]) = some (.link target)) :
      Onward fs (links + 1) here name links (if Path.isAbsolute target then [] else here)
        (steps target)

/-- The names lead from one place to another over at most so many links. The last one may be
missing. -/
inductive Leads (fs : FileSystem) : (links : Nat) → Place → List Text → Place → Prop
  | arrived {links : Nat} (here : Place) : Leads fs links here [] here
  | missing {links : Nat} {here : Place} {name : Text} {mode : Mode}
      (directory : fs.get? here = some (.directory mode))
      (proper : name ≠ [] ∧ name ≠ [.char '.'] ∧ name ≠ [.char '.', .char '.'])
      (short : name.stored.length ≤ maxNameBytes)
      (absent : fs.get? (here ++ [name.stored]) = none) :
      Leads fs links here [name] (here ++ [name.stored])
  | onward {links left : Nat} {here there place : Place} {name : Text} {added rest : List Text}
      {mode : Mode} (directory : fs.get? here = some (.directory mode))
      (step : fs.Onward links here name left there added)
      (onward : Leads fs left there (added ++ rest) place) :
      Leads fs links here (name :: rest) place

variable {fs : FileSystem} {here place : Place} {names : List Text} {name : Text} {links : Nat}

/-! ### Walking is being led -/

theorem walk_nil (fs : FileSystem) (making : Bool) (links : Nat) (here : Place) :
    fs.walk making links here [] = .ok here := by
  cases links <;> rfl

theorem walk_cons (fs : FileSystem) (links : Nat) (here : Place) (name : Text) (rest : List Text) :
    fs.walk false links here (name :: rest) =
      match fs.get? here with
      | none => .error .notFound
      | some (.directory _) =>
        if name = [] ∨ name = [.char '.'] then fs.walk false links here rest
        else if name = [.char '.', .char '.'] then fs.walk false links here.dropLast rest
        else if name.stored.length > maxNameBytes then .error .nameTooLong
        else
          match fs.get? (here ++ [name.stored]) with
          | none => if rest.isEmpty then .ok (here ++ [name.stored]) else .error .notFound
          | some (.link target) =>
            match links with
            | 0 => .error .linkLoop
            | links + 1 =>
              fs.walk false links (if Path.isAbsolute target then [] else here)
                (steps target ++ rest)
          | some _ => fs.walk false links (here ++ [name.stored]) rest
      | some _ => .error .notDirectory := by
  cases links <;> rfl

theorem leads_of_walk (h : fs.walk false links here names = .ok place) :
    fs.Leads links here names place := by
  induction links using Nat.strongRecOn generalizing here names with
  | ind links ihlinks =>
    induction names generalizing here with
    | nil =>
      rw [walk_nil] at h
      cases h
      exact .arrived _
    | cons name rest ih =>
      rw [walk_cons] at h
      split at h
      · cases h
      · next mode hdir =>
        by_cases hstill : name = [] ∨ name = [.char '.']
        · rw [if_pos hstill] at h
          exact .onward hdir (.stay hstill) (ih h)
        · rw [if_neg hstill] at h
          rw [not_or] at hstill
          by_cases hup : name = [.char '.', .char '.']
          · rw [if_pos hup] at h
            rw [hup]
            exact .onward hdir .up (ih h)
          · rw [if_neg hup] at h
            have hproper : name ≠ [] ∧ name ≠ [.char '.'] ∧ name ≠ [.char '.', .char '.'] :=
              ⟨hstill.1, hstill.2, hup⟩
            by_cases hlong : name.stored.length > maxNameBytes
            · rw [if_pos hlong] at h
              cases h
            · rw [if_neg hlong] at h
              have hshort : name.stored.length ≤ maxNameBytes := by omega
              split at h
              · next habsent =>
                split at h
                · next hrest =>
                  cases h
                  rw [List.isEmpty_iff.1 hrest]
                  exact .missing hdir hproper hshort habsent
                · cases h
              · next target hlink =>
                split at h
                · cases h
                · next links' =>
                  exact .onward hdir (.follow hproper hshort hlink) (ihlinks links' (by omega) h)
              · next entry hnoLink hthere =>
                exact .onward hdir (.down hproper hshort hthere hnoLink) (ih h)
      · cases h

theorem walk_of_leads (h : fs.Leads links here names place) :
    fs.walk false links here names = .ok place := by
  induction h with
  | arrived here => exact walk_nil ..
  | missing directory proper short absent =>
    have hlong := Nat.not_lt.2 short
    simp only [walk_cons, directory, absent, proper, or_self, hlong, ↓reduceIte]
    rfl
  | onward directory step onward ih =>
    cases step with
    | stay still =>
      simp only [walk_cons, directory, if_pos still]
      exact ih
    | up =>
      rw [walk_cons, directory]
      exact ih
    | @down _ _ _ entry proper short there noLink =>
      have hlong := Nat.not_lt.2 short
      simp only [walk_cons, directory, there, proper, or_self, hlong, ↓reduceIte]
      cases entry with
      | link target => exact absurd rfl (noLink target)
      | _ => exact ih
    | follow proper short link =>
      have hlong := Nat.not_lt.2 short
      simp only [walk_cons, directory, link, proper, or_self, hlong, ↓reduceIte]
      exact ih

/-! ### What a path leads to -/

section
variable {base path : Text} {entry : Entry}

theorem locate_eq_ok_iff : fs.locate base path = .ok place ↔
    path ≠ [] ∧ path.stored.length ≤ maxPathBytes ∧
      fs.Leads maxLinks
        (if Path.isAbsolute path then [] else Place.named ((steps base).filter (· ≠ [])))
        (steps path) place := by
  unfold locate follow
  constructor
  · intro h
    split at h
    · cases h
    · next hne =>
      split at h
      · cases h
      · next hshort =>
        refine ⟨hne, by omega, ?_⟩
        split at h
        · next habs =>
          rw [if_pos habs]
          exact leads_of_walk h
        · next habs =>
          rw [if_neg habs]
          exact leads_of_walk h
  · rintro ⟨hne, hshort, hway⟩
    rw [if_neg hne, if_neg (by omega)]
    split at hway
    · next habs =>
      rw [if_pos habs]
      exact walk_of_leads hway
    · next habs =>
      rw [if_neg habs]
      exact walk_of_leads hway

theorem entry?_eq_ok_iff : fs.entry? base path = .ok entry ↔
    ∃ place, fs.locate base path = .ok place ∧ fs.get? place = some entry := by
  unfold entry?
  constructor
  · intro h
    split at h
    · cases h
    · next place hlocate =>
      split at h
      · next found hfound =>
        cases h
        exact ⟨place, hlocate, hfound⟩
      · cases h
  · rintro ⟨place, hlocate, hfound⟩
    simp only [hlocate, hfound]

theorem isExecutable_iff : fs.isExecutable base path = true ↔
    Text.isFit path = true ∧
      ∃ entry, fs.entry? base path = .ok entry ∧ entry.isExecutable = true := by
  unfold isExecutable
  rw [Bool.and_eq_true]
  constructor
  · rintro ⟨hfit, hentry⟩
    refine ⟨hfit, ?_⟩
    cases he : fs.entry? base path with
    | error e => simp [he] at hentry
    | ok entry => exact ⟨entry, rfl, by simpa [he] using hentry⟩
  · rintro ⟨hfit, entry, hentry, hexecutable⟩
    refine ⟨hfit, ?_⟩
    simp only [hentry]
    exact hexecutable

end

/-! ### One way behind another -/

section
variable {left k l : Nat} {there mid : Place} {added before behind : List Text}

theorem Onward.more (h : fs.Onward links here name left there added) (k : Nat) :
    fs.Onward (links + k) here name (left + k) there added := by
  cases h with
  | stay still => exact .stay still
  | up => exact .up
  | down proper short there noLink => exact .down proper short there noLink
  | follow proper short link =>
    rw [Nat.add_right_comm]
    exact .follow proper short link

theorem Onward.fewer (h : fs.Onward links here name left there added) (hleft : k + l = left) :
    ∃ k', k' + l = links ∧ fs.Onward k' here name k there added := by
  cases h with
  | stay still => exact ⟨k, hleft, .stay still⟩
  | up => exact ⟨k, hleft, .up⟩
  | down proper short there noLink => exact ⟨k, hleft, .down proper short there noLink⟩
  | follow proper short link => exact ⟨k + 1, by omega, .follow proper short link⟩

theorem Leads.more (h : fs.Leads links here names place) (k : Nat) :
    fs.Leads (links + k) here names place := by
  induction h with
  | arrived here => exact .arrived here
  | missing directory proper short absent => exact .missing directory proper short absent
  | onward directory step onward ih => exact .onward directory (step.more k) ih

theorem Leads.directory (h : fs.Leads links here (name :: names) place) :
    ∃ mode, fs.get? here = some (.directory mode) := by
  cases h with
  | missing directory proper short absent => exact ⟨_, directory⟩
  | onward directory step onward => exact ⟨_, directory⟩

theorem Leads.append (h : fs.Leads k here before mid) (hbehind : fs.Leads l mid behind place) :
    fs.Leads (k + l) here (before ++ behind) place := by
  induction h with
  | arrived here =>
    rw [Nat.add_comm]
    exact hbehind.more _
  | missing directory proper short absent =>
    cases behind with
    | nil =>
      cases hbehind
      exact .missing directory proper short absent
    | cons n behind =>
      obtain ⟨mode, hdir⟩ := hbehind.directory
      rw [absent] at hdir
      cases hdir
  | onward directory step onward ih =>
    have hrest := ih hbehind
    rw [List.append_assoc] at hrest
    exact .onward directory (step.more l) hrest

theorem Leads.split (h : fs.Leads links here (before ++ name :: behind) place) :
    ∃ k l mid, k + l = links ∧ fs.Leads k here before mid ∧
      fs.Leads l mid (name :: behind) place := by
  generalize hall : before ++ name :: behind = all at h
  induction h generalizing before with
  | arrived here => simp at hall
  | @missing links here first mode directory proper short absent =>
    cases before with
    | nil =>
      cases hall
      exact ⟨0, links, here, by omega, .arrived here, .missing directory proper short absent⟩
    | cons n before => simp at hall
  | @onward links left here there place first added rest mode directory step onward ih =>
    cases before with
    | nil =>
      cases hall
      exact ⟨0, links, here, by omega, .arrived here, .onward directory step onward⟩
    | cons n before =>
      -- a link puts its names in front, and what is behind stays behind
      obtain ⟨rfl, hrest⟩ := List.cons.inj hall
      have hadded : (added ++ before) ++ name :: behind = added ++ rest := by
        rw [List.append_assoc]
        exact congrArg (added ++ ·) hrest
      obtain ⟨k, l, mid, hleft, hbefore, hbehind⟩ := ih hadded
      obtain ⟨k', hlinks, hstep⟩ := step.fewer hleft
      exact ⟨k', l, mid, hlinks, .onward directory hstep hbefore, hbehind⟩

end

/-! ### The directory before the last name -/

theorem Leads.directory_of_snoc (h : fs.Leads links here (names ++ [name]) place) :
    ∃ directory mode left, fs.Leads links here names directory ∧
      fs.get? directory = some (.directory mode) ∧ fs.Leads left directory [name] place := by
  obtain ⟨k, left, directory, rfl, hfirst, hlast⟩ := h.split
  obtain ⟨mode, hdir⟩ := hlast.directory
  exact ⟨directory, mode, left, hfirst.more left, hdir, hlast⟩

theorem Leads.snoc_nil (h : fs.Leads links here names place) {mode : Mode}
    (hdir : fs.get? place = some (.directory mode)) :
    fs.Leads links here (names ++ [[]]) place := by
  induction h with
  | arrived here => exact .onward hdir (.stay (.inl rfl)) (.arrived here)
  | missing directory proper short absent =>
    rw [absent] at hdir
    cases hdir
  | onward directory step onward ih =>
    have h := ih hdir
    rw [List.append_assoc] at h
    exact .onward directory step h

/-! ### What stands in a directory -/

theorem mem_of_find {entries : List (Place × Entry)} {entry : Entry}
    (h : find place entries = some entry) : (place, entry) ∈ entries := by
  induction entries with
  | nil => cases h
  | cons pe rest ih =>
    obtain ⟨p, e⟩ := pe
    simp only [find] at h
    split at h
    · next hp =>
      cases h
      rw [hp]
      exact List.mem_cons_self ..
    · exact List.mem_cons_of_mem _ (ih h)

theorem mem_children_of_get? {entry : Entry} {name : Bytes}
    (h : fs.get? (here ++ [name]) = some entry) : name ∈ fs.children here := by
  have hne : here ++ [name] ≠ [] := by simp
  rw [get?, if_neg hne] at h
  exact List.mem_filterMap.2 ⟨_, mem_of_find h, by simp⟩

theorem grounded_of_entries
    (h : ∀ pe ∈ fs.entries, ∃ mode, fs.get? pe.1.dropLast = some (.directory mode)) :
    fs.Grounded := by
  intro place name entry hentry
  have hne : place ++ [name] ≠ [] := by simp
  rw [get?, if_neg hne] at hentry
  obtain ⟨mode, hmode⟩ := h _ (mem_of_find hentry)
  exact ⟨mode, by rwa [List.dropLast_concat] at hmode⟩

theorem Grounded.dropLast (hfs : fs.Grounded) {mode : Mode}
    (h : fs.get? place = some (.directory mode)) :
    ∃ mode', fs.get? place.dropLast = some (.directory mode') := by
  rcases List.eq_nil_or_concat place with rfl | ⟨above, name, rfl⟩
  · exact ⟨mode, h⟩
  · rw [List.concat_eq_append] at h ⊢
    rw [List.dropLast_concat]
    exact hfs above name _ h

/-- The last name of a way to something that is no directory stands in the directory that the way
leads to before. -/
theorem Leads.mem_children (hfs : fs.Grounded) (h : fs.Leads links here [name] place)
    {entry : Entry} (hentry : fs.get? place = some entry) (hplain : entry.isDirectory = false) :
    name.stored ∈ fs.children here := by
  cases h with
  | missing directory proper short absent =>
    rw [absent] at hentry
    cases hentry
  | onward directory step onward =>
    cases step with
    | stay still =>
      cases onward
      rw [hentry] at directory
      cases directory
      cases hplain
    | up =>
      cases onward
      obtain ⟨mode', hup⟩ := hfs.dropLast directory
      rw [hentry] at hup
      cases hup
      cases hplain
    | down proper short there noLink => exact mem_children_of_get? there
    | follow proper short link => exact mem_children_of_get? link

end PipelineShell.FileSystem
