import Mathlib.Data.List.Basic
import Mathlib.Data.List.Induction
import PipelineShell.Proofs.Completion.Walk

/-!
# The order of a listing

The children of a node stand in the order of the first words that go through them, and below each is
the trie of what is left of these words. So the order of two listed words is read off the inserted
list.
-/

namespace PipelineShell

namespace Forest

variable {f : Forest} {c : Rune} {child : Trie}

def keys (f : Forest) : List Rune := f.branches.map Prod.fst

theorem mem_keys_iff : c ∈ f.keys ↔ (f.child? c).isSome = true := by
  induction f with
  | nil => simp [keys, branches, child?]
  | node key ends below next _ ihnext =>
    have hkeys : (node key ends below next).keys = key :: next.keys := rfl
    rw [hkeys, List.mem_cons, ihnext, child?]
    by_cases hkey : key = c
    · simp [hkey]
    · simp [hkey, Ne.symm hkey]

theorem keys_insert (c : Rune) (rest : Text) (f : Forest) :
    (f.insert c rest).keys = f.keys ∨ c ∉ f.keys ∧ (f.insert c rest).keys = f.keys ++ [c] := by
  induction f with
  | nil =>
    refine .inr ⟨List.not_mem_nil, ?_⟩
    cases rest <;> rfl
  | node key ends below next _ ihnext =>
    have hkeys (e : Bool) (b n : Forest) : (node key e b n).keys = key :: n.keys := rfl
    by_cases hkey : key = c
    · left
      cases rest <;> simp [insert, hkey, keys, branches]
    · have hinsert : (node key ends below next).insert c rest =
          node key ends below (next.insert c rest) := by simp [insert, hkey]
      rw [hinsert, hkeys, hkeys]
      rcases ihnext with hsame | ⟨hnew, hmore⟩
      · exact .inl (by rw [hsame])
      · refine .inr ⟨List.not_mem_cons_of_ne_of_not_mem (Ne.symm hkey) hnew, ?_⟩
        rw [hmore, List.cons_append]

theorem Grown.child?_of_mem (h : f.Grown) (hmem : (c, child) ∈ f.branches) :
    f.child? c = some child := by
  induction h with
  | nil => cases hmem
  | @node key ends below next fresh leads hbelow hnext ihbelow ihnext =>
    rcases List.mem_cons.1 hmem with hfirst | hlater
    · cases hfirst
      exact if_pos rfl
    · have hchild : next.child? c = some child := ihnext hlater
      have hother : key ≠ c := by
        rintro rfl
        rw [fresh] at hchild
        cases hchild
      rw [child?, if_neg hother]
      exact hchild

theorem words_eq_flatMap (f : Forest) (text : Text) :
    f.words text.reverse =
      f.branches.flatMap fun (c, child) => child.wordsBehind (text ++ [c]) := by
  rw [← Walk.flatMap_entries, Walk.entries, List.flatMap_map]

theorem insert_of_holds {rest : Text} (h : f.Holds c rest) : f.insert c rest = f := by
  induction f generalizing c rest with
  | nil => exact absurd h not_holds_nil
  | node key ends below next ihbelow ihnext =>
    by_cases hkey : key = c
    · subst hkey
      cases rest with
      | nil =>
        have hends : ends = true := holds_first_nil.1 h
        simp [insert, hends]
      | cons d rest =>
        have hbelow : below.insert d rest = below := ihbelow (holds_first_cons.1 h)
        simp [insert, hbelow]
    · have hnext : next.insert c rest = next := ihnext ((holds_later (Ne.symm hkey)).1 h)
      simp [insert, hkey, hnext]

end Forest

namespace Trie

variable {words : List Text} {start : Text}

theorem insert_of_contains {t : Trie} {word : Text} (h : t.contains word = true) :
    t.insert word = t := by
  cases word with
  | nil =>
    have hends : t.ends = true := h
    rw [insert, ← hends]
  | cons c rest =>
    have hholds : t.children.Holds c rest := by rwa [contains_cons] at h
    rw [insert, Forest.insert_of_holds hholds]

theorem ofList_repeated {front : List Text} {word : Text} (h : word ∈ front) (back : List Text) :
    ofList (front ++ word :: back) = ofList (front ++ back) := by
  have hcontains : (front.foldl insert {}).contains word = true := (contains_ofList front word).2 h
  simp only [ofList, List.foldl_append, List.foldl_cons, insert_of_contains hcontains]

theorem ofList_snoc (words : List Text) (word : Text) :
    ofList (words ++ [word]) = (ofList words).insert word := by
  simp [ofList]

/-! ### What is left below a prefix -/

/-- The words with a prefix, each without it. -/
def rests (words : List Text) (start : Text) : List Text := words.filterMap start.isPrefixOf?

theorem isPrefixOf?_eq_some_iff (start word rest : Text) :
    start.isPrefixOf? word = some rest ↔ word = start ++ rest := by
  induction start generalizing word with
  | nil => simp [List.isPrefixOf?]
  | cons c start ih =>
    cases word with
    | nil => simp [List.isPrefixOf?]
    | cons d word =>
      by_cases hcd : c = d
      · simp [List.isPrefixOf?, hcd, ih]
      · simp [List.isPrefixOf?, hcd, Ne.symm hcd]

theorem isPrefixOf?_append (start more word : Text) :
    (start ++ more).isPrefixOf? word = (start.isPrefixOf? word).bind more.isPrefixOf? := by
  refine Option.ext fun rest => ?_
  rw [isPrefixOf?_eq_some_iff, Option.bind_eq_some_iff]
  constructor
  · intro hword
    have hleft : start.isPrefixOf? word = some (more ++ rest) := by
      rw [isPrefixOf?_eq_some_iff, hword, List.append_assoc]
    exact ⟨more ++ rest, hleft, (isPrefixOf?_eq_some_iff ..).2 rfl⟩
  · rintro ⟨left, hleft, hrest⟩
    rw [isPrefixOf?_eq_some_iff] at hleft hrest
    rw [hleft, hrest, List.append_assoc]

theorem rests_rests (words : List Text) (start more : Text) :
    rests (rests words start) more = rests words (start ++ more) := by
  unfold rests
  rw [List.filterMap_filterMap]
  exact congrArg (words.filterMap ·) (funext fun word => (isPrefixOf?_append start more word).symm)

theorem rests_snoc (words : List Text) (word start : Text) :
    rests (words ++ [word]) start = rests words start ++ (start.isPrefixOf? word).toList := by
  unfold rests
  rw [List.filterMap_append]
  cases h : start.isPrefixOf? word <;> simp [h]

theorem child?_ofList (words : List Text) (c : Rune) :
    ((ofList words).children.child? c).getD {} = ofList (rests words [c]) := by
  induction words using List.reverseRecOn with
  | nil => rfl
  | append_singleton words word ih =>
    rw [ofList_snoc, rests_snoc]
    cases word with
    | nil =>
      have hnone : List.isPrefixOf? [c] ([] : Text) = none := rfl
      rw [hnone, Option.toList_none, List.append_nil]
      exact ih
    | cons d rest =>
      rw [insert_cons, Forest.child?_insert]
      by_cases hcd : c = d
      · have hsome : List.isPrefixOf? [c] (d :: rest) = some rest := by simp [List.isPrefixOf?, hcd]
        rw [if_pos hcd, Option.getD_some, hsome, Option.toList_some, ofList_snoc, ← ih, hcd]
      · have hnone : List.isPrefixOf? [c] (d :: rest) = none := by simp [List.isPrefixOf?, hcd]
        rw [if_neg hcd, hnone, Option.toList_none, List.append_nil]
        exact ih

theorem below?_cons (t : Trie) (c : Rune) (start : Text) :
    (t.below? (c :: start)).getD {} = (((t.children.child? c).getD {}).below? start).getD {} := by
  cases hc : t.children.child? c with
  | some child => simp [below?, hc]
  | none => cases start <;> simp [below?, hc, Forest.child?]

theorem below?_ofList (words : List Text) (start : Text) :
    ((ofList words).below? start).getD {} = ofList (rests words start) := by
  induction start generalizing words with
  | nil =>
    have hall : rests words [] = words := by
      unfold rests
      exact List.filterMap_some ▸ rfl
    rw [hall]
    rfl
  | cons c start ih =>
    rw [below?_cons, child?_ofList, ih, rests_rests]
    rfl

theorem wordsWithPrefix_eq_wordsBehind (t : Trie) (start : Text) :
    t.wordsWithPrefix start = ((t.below? start).getD {}).wordsBehind start := by
  cases hnode : t.below? start with
  | none => exact wordsWithPrefix_of_none hnode
  | some node => exact wordsWithPrefix_of_some hnode

/-! ### The order of the children -/

/-- How many words come before the first one with a prefix. -/
def firstWith (words : List Text) (start : Text) : Nat := words.findIdx start.isPrefixOf

theorem firstWith_lt_iff : firstWith words start < words.length ↔ ∃ w ∈ words, start <+: w := by
  simp only [firstWith, List.findIdx_lt_length, List.isPrefixOf_iff_prefix]

theorem firstWith_append {more : List Text} (h : ∃ w ∈ words, start <+: w) :
    firstWith (words ++ more) start = firstWith words start := by
  have hlt : words.findIdx start.isPrefixOf < words.length := firstWith_lt_iff.2 h
  rw [firstWith, List.findIdx_append, if_pos hlt]
  rfl

theorem le_firstWith_append {more : List Text} (h : ¬∃ w ∈ words, start <+: w) :
    words.length ≤ firstWith (words ++ more) start := by
  have hnot : ¬words.findIdx start.isPrefixOf < words.length :=
    fun hlt => h (firstWith_lt_iff.1 hlt)
  rw [firstWith, List.findIdx_append, if_neg hnot]
  exact Nat.le_add_left ..

theorem mem_keys_below {c : Rune} :
    c ∈ (ofList (rests words start)).children.keys ↔ ∃ w ∈ words, start ++ [c] <+: w := by
  have hstarts : ((ofList (rests words start)).children.child? c).isSome =
      (ofList (rests words start)).startsWith [c] := by
    unfold startsWith
    cases hc : (ofList (rests words start)).children.child? c <;> simp [below?, hc]
  rw [Forest.mem_keys_iff, hstarts, (grown_ofList _).startsWith_iff]
  simp only [contains_ofList, rests, List.mem_filterMap, isPrefixOf?_eq_some_iff]
  constructor
  · rintro (hempty | ⟨rest, ⟨w, hw, rfl⟩, more, rfl⟩)
    · cases hempty
    · exact ⟨_, hw, more, List.append_assoc ..⟩
  · rintro ⟨w, hw, more, rfl⟩
    exact .inr ⟨[c] ++ more, ⟨_, hw, List.append_assoc ..⟩, more, rfl⟩

theorem keys_below_snoc (words : List Text) (word start : Text) :
    let row := (ofList (rests words start)).children.keys
    let row' := (ofList (rests (words ++ [word]) start)).children.keys
    row' = row ∨ ∃ d ∉ row, row' = row ++ [d] := by
  intro row row'
  unfold row'
  rw [rests_snoc]
  cases start.isPrefixOf? word with
  | none => exact .inl (by rw [Option.toList_none, List.append_nil])
  | some rest =>
    rw [Option.toList_some, ofList_snoc]
    cases rest with
    | nil => exact .inl rfl
    | cons d rest => exact (Forest.keys_insert d rest _).imp_right fun hnew => ⟨d, hnew⟩

theorem keys_below_ordered (words : List Text) (start : Text) :
    (ofList (rests words start)).children.keys.Pairwise fun a b =>
      firstWith words (start ++ [a]) < firstWith words (start ++ [b]) := by
  induction words using List.reverseRecOn with
  | nil => exact List.Pairwise.nil
  | append_singleton words word ih =>
    have hfirst {a : Rune} (ha : a ∈ (ofList (rests words start)).children.keys) :
        firstWith (words ++ [word]) (start ++ [a]) = firstWith words (start ++ [a]) :=
      firstWith_append (mem_keys_below.1 ha)
    -- the old children keep their order, and a new one has its first word now
    have hkept : (ofList (rests words start)).children.keys.Pairwise fun a b =>
        firstWith (words ++ [word]) (start ++ [a]) <
          firstWith (words ++ [word]) (start ++ [b]) := by
      refine ih.imp_of_mem fun {a b} ha hb hab => ?_
      rwa [hfirst ha, hfirst hb]
    rcases keys_below_snoc words word start with hsame | ⟨d, hd, hmore⟩
    · rw [hsame]
      exact hkept
    · rw [hmore]
      refine List.pairwise_append.2 ⟨hkept, List.pairwise_singleton .., fun a ha b hb => ?_⟩
      have hsoon : firstWith words (start ++ [a]) < words.length :=
        firstWith_lt_iff.2 (mem_keys_below.1 ha)
      have hlate : words.length ≤ firstWith (words ++ [word]) (start ++ [d]) :=
        le_firstWith_append (mt mem_keys_below.2 hd)
      rw [List.mem_singleton.1 hb, hfirst ha]
      omega

/-! ### The order of the words -/

/-- A word comes before those that extend it, and two words that part come in the order of the first
words that were inserted on their two branches. -/
def Precedes (words : List Text) (u v : Text) : Prop :=
  (u <+: v ∧ u ≠ v) ∨
    ∃ a b, Text.shared u v ++ [a] <+: u ∧ Text.shared u v ++ [b] <+: v ∧
      firstWith words (Text.shared u v ++ [a]) < firstWith words (Text.shared u v ++ [b])

theorem not_extends_of_parting {u v : Text} {a b : Rune} (ha : Text.shared u v ++ [a] <+: u)
    (hb : Text.shared u v ++ [b] <+: v) : ¬u <+: v ∧ ¬v <+: u := by
  refine ⟨fun huv => Text.not_snoc_shared_prefix ha (ha.trans huv), fun hvu => ?_⟩
  rw [Text.shared_comm] at hb
  exact Text.not_snoc_shared_prefix hb (hb.trans hvu)

theorem Precedes.asymm {u v : Text} (h : Precedes words u v) : ¬Precedes words v u := by
  rintro (⟨hvu, hne⟩ | ⟨a, b, ha, hb, hlt⟩)
  · rcases h with ⟨huv, -⟩ | ⟨a, b, ha, hb, -⟩
    · exact hne (hvu.eq_of_length_le huv.length_le)
    · exact (not_extends_of_parting ha hb).2 hvu
  · rcases h with ⟨huv, -⟩ | ⟨a', b', ha', hb', hlt'⟩
    · exact (not_extends_of_parting ha hb).2 huv
    · rw [Text.shared_comm] at ha hb hlt
      have hfirst : a = b' := Text.eq_of_snoc_prefix ha hb'
      have hsecond : b = a' := Text.eq_of_snoc_prefix hb ha'
      rw [hfirst, hsecond] at hlt
      omega

/-- Two different words on a row of which each precedes all behind it stand on it in that order. -/
theorem idxOf_lt_iff_precedes {row : List Text} (hrow : row.Pairwise (Precedes words)) {u v : Text}
    (hu : u ∈ row) (hv : v ∈ row) (hne : u ≠ v) :
    row.idxOf u < row.idxOf v ↔ Precedes words u v := by
  have hplace {s t : Text} (hs : s ∈ row) (ht : t ∈ row) (hlt : row.idxOf s < row.idxOf t) :
      Precedes words s t := by
    have hpair := List.pairwise_iff_getElem.1 hrow (row.idxOf s) (row.idxOf t)
      (List.idxOf_lt_length_iff.2 hs) (List.idxOf_lt_length_iff.2 ht) hlt
    rwa [List.getElem_idxOf, List.getElem_idxOf] at hpair
  refine ⟨hplace hu hv, fun hprecedes => ?_⟩
  have hdiffer : row.idxOf u ≠ row.idxOf v := mt (List.idxOf_inj hu).1 hne
  rcases Nat.lt_or_gt_of_ne hdiffer with hlt | hgt
  · exact hlt
  · exact absurd (hplace hv hu hgt) hprecedes.asymm

theorem Grown.prefix_of_mem_wordsBehind {node : Trie} (h : node.Grown) {word : Text}
    (hword : word ∈ node.wordsBehind start) : start <+: word := by
  obtain ⟨rest, -, rfl⟩ := h.mem_wordsBehind_iff.1 hword
  exact List.prefix_append start rest

/-- Each listed word precedes all behind it. A branch is listed by itself, so the induction goes
down the tree; words of two branches part at the characters of these. -/
theorem wordsBehind_ordered (words : List Text) (start : Text) :
    ((ofList (rests words start)).wordsBehind start).Pairwise (Precedes words) := by
  induction hn : (ofList (rests words start)).size using Nat.strongRecOn generalizing start with
  | ind n ih =>
    have hgrown : (ofList (rests words start)).children.Grown := grown_ofList _
    have hbranch {c : Rune} {child : Trie}
        (hmem : (c, child) ∈ (ofList (rests words start)).children.branches) :
        child = ofList (rests words (start ++ [c])) ∧ child.size < n := by
      have hchild := hgrown.child?_of_mem hmem
      have hrests := child?_ofList (rests words start) c
      rw [hchild, Option.getD_some, rests_rests] at hrests
      have hsize := Forest.size_child hchild
      have hroot : (ofList (rests words start)).size =
          (ofList (rests words start)).children.size + 1 := rfl
      exact ⟨hrests, by omega⟩
    have hbranches : ((ofList (rests words start)).children.words start.reverse).Pairwise
        (Precedes words) := by
      rw [Forest.words_eq_flatMap, List.pairwise_flatMap]
      constructor
      · rintro ⟨c, child⟩ hmem
        obtain ⟨hchild, hsize⟩ := hbranch hmem
        have hbelow := ih child.size hsize (start ++ [c]) (hchild ▸ rfl)
        rwa [← hchild] at hbelow
      · have hordered := List.pairwise_map.1 (keys_below_ordered words start)
        refine hordered.imp_of_mem ?_
        rintro ⟨a, first⟩ ⟨b, second⟩ hfirst hsecond hlt u hu v hv
        have hua : start ++ [a] <+: u := by
          rw [(hbranch hfirst).1] at hu
          exact (grown_ofList _).prefix_of_mem_wordsBehind hu
        have hvb : start ++ [b] <+: v := by
          rw [(hbranch hsecond).1] at hv
          exact (grown_ofList _).prefix_of_mem_wordsBehind hv
        have hab : a ≠ b := by
          rintro rfl
          exact Nat.lt_irrefl _ hlt
        have hshared : Text.shared u v = start := Text.shared_of_snoc_prefix hab hua hvb
        exact .inr ⟨a, b, hshared.symm ▸ ⟨hua, hvb, hlt⟩⟩
    unfold wordsBehind
    split
    · refine List.pairwise_cons.2 ⟨fun v hv => ?_, hbranches⟩
      obtain ⟨c, rest, -, rfl⟩ := hgrown.mem_words_iff.1 hv
      rw [List.reverse_reverse]
      exact .inl ⟨List.prefix_append .., by simp⟩
    · exact hbranches

/-- In `words_with_prefix` a word comes before another if it is a proper prefix of it, or if the two
part and its branch was inserted first. The loop over the stack returns this list. -/
theorem listing_order (words : List Text) (start : Text) :
    let listed := (ofList words).wordsWithPrefix start
    (∀ u ∈ listed, ∀ v ∈ listed, u ≠ v →
      (listed.idxOf u < listed.idxOf v ↔ Precedes words u v)) ∧
    (∀ n, (ofList words).size ≤ n →
      turns Walk.next? n (Walk.below (ofList words) start) = { found := listed }) ∧
    ∀ front word back, words = front ++ word :: back → word ∈ front →
      (ofList (front ++ back)).wordsWithPrefix start = listed := by
  intro listed
  have hlisted : listed = (ofList (rests words start)).wordsBehind start := by
    rw [← below?_ofList]
    exact wordsWithPrefix_eq_wordsBehind (ofList words) start
  have hordered : listed.Pairwise (Precedes words) := hlisted ▸ wordsBehind_ordered words start
  refine ⟨?_, fun n => Walk.turns_below (ofList words) start, ?_⟩
  · intro u hu v hv hne
    exact idxOf_lt_iff_precedes hordered hu hv hne
  · rintro front word back rfl hword
    rw [← ofList_repeated hword]

/-- The branch of `cart` is older than that of `cat`, and `car` comes first though it was inserted
after both; `cart` was inserted twice. -/
theorem listing_order_branches :
    let words := ["dog".runes, "cart".runes, "cat".runes, "car".runes, "cart".runes]
    let listed := (ofList words).wordsWithPrefix [.char 'c']
    listed = ["car".runes, "cart".runes, "cat".runes] ∧
      Precedes words "cart".runes "cat".runes ∧ Precedes words "car".runes "cart".runes ∧
      (ofList (words.take 4)).wordsWithPrefix [.char 'c'] = listed := by
  intro words listed
  have hlisted : listed = ["car".runes, "cart".runes, "cat".runes] := by cbv
  have horder : ∀ u ∈ listed, ∀ v ∈ listed, u ≠ v →
      (listed.idxOf u < listed.idxOf v ↔ Precedes words u v) := (listing_order words [.char 'c']).1
  rw [hlisted] at horder
  refine ⟨hlisted, ?_, ?_, ?_⟩
  · exact (horder "cart".runes (by decide) "cat".runes (by decide) (by decide)).1 (by decide)
  · exact (horder "car".runes (by decide) "cart".runes (by decide) (by decide)).1 (by decide)
  · exact (listing_order words [.char 'c']).2.2 (words.take 4) "cart".runes [] rfl (by decide)

end Trie
end PipelineShell
