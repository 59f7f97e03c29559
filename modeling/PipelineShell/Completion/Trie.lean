import PipelineShell.Text.Basic

/-!
# Tries

The words of a completer as a tree of characters. A node keeps its children in the order in which
they were inserted, and lists its words in that order.
-/

namespace PipelineShell

/-- The children of a node, first to last: each with its character, whether a word ends there, and
what is below it. -/
inductive Forest
  | nil
  | node (key : Rune) (ends : Bool) (below : Forest) (next : Forest)
  deriving DecidableEq, Repr

/-- A set of words: whether the empty word is in it, and the rest by first character. -/
structure Trie where
  ends : Bool := false
  children : Forest := .nil
  deriving DecidableEq, Repr

namespace Forest

/-- The path of a single word that starts with `c`. -/
def path (c : Rune) : Text → Forest
  | [] => .node c true .nil .nil
  | d :: rest => .node c false (path d rest) .nil

/-- Adds the word `c :: rest`. -/
def insert (c : Rune) (rest : Text) : Forest → Forest
  | .nil => path c rest
  | .node key ends below next =>
    if key = c then
      match rest with
      | [] => .node key true below next
      | d :: rest => .node key ends (insert d rest below) next
    else .node key ends below (insert c rest next)

def child? (c : Rune) : Forest → Option Trie
  | .nil => none
  | .node key ends below next => if key = c then some ⟨ends, below⟩ else next.child? c

/-- The words of the forest in the order of listing, each behind a text given in reverse. -/
def words (before : Text) : Forest → List Text
  | .nil => []
  | .node key ends below next =>
    (if ends then [(key :: before).reverse] else []) ++
      (below.words (key :: before) ++ next.words before)

/-- The characters that all words of the forest share: the run of only children down to the first
node where a word ends or the paths part. -/
def common : Forest → Text
  | .node key ends below .nil => key :: (if ends then [] else below.common)
  | _ => []

end Forest

namespace Trie

def insert (t : Trie) : Text → Trie
  | [] => { t with ends := true }
  | c :: rest => { t with children := t.children.insert c rest }

def ofList (words : List Text) : Trie := words.foldl insert {}

/-- The node of a prefix (`_find`). -/
def below? (t : Trie) : Text → Option Trie
  | [] => some t
  | c :: rest => (t.children.child? c).bind (·.below? rest)

/-- Whether a word is in the trie (`search`). -/
def contains (t : Trie) (word : Text) : Bool :=
  match t.below? word with
  | some node => node.ends
  | none => false

/-- The words in a trie are its members. -/
instance : Membership Text Trie where
  mem t word := t.contains word = true

instance (word : Text) (t : Trie) : Decidable (word ∈ t) :=
  inferInstanceAs (Decidable (t.contains word = true))

/-- `starts_with`. -/
def startsWith (t : Trie) (start : Text) : Bool := (t.below? start).isSome

def wordsBehind (t : Trie) (before : Text) : List Text :=
  (if t.ends then [before] else []) ++ t.children.words before.reverse

/-- `words_with_prefix`, in the order of listing. -/
def wordsWithPrefix (t : Trie) (start : Text) : List Text :=
  match t.below? start with
  | some node => node.wordsBehind start
  | none => []

/-- `longest_common_prefix`. -/
def longestCommonPrefix (t : Trie) (start : Text) : Text :=
  match t.below? start with
  | some node => if node.ends then start else start ++ node.children.common
  | none => start

end Trie
end PipelineShell
