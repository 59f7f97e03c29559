import PipelineShell.Completion.Trie

/-!
# Walks through a trie

The loops of `words_with_prefix`, over a stack of nodes, and of `longest_common_prefix`, which goes
down from a node as long as it has one child.
-/

namespace PipelineShell

/-- What so many turns of a loop lead to, which stops when there is no next state. -/
def turns {α : Type} (next? : α → Option α) : Nat → α → α
  | 0, a => a
  | n + 1, a =>
    match next? a with
    | none => a
    | some b => turns next? n b

namespace Forest

def branches : Forest → List (Rune × Trie)
  | .nil => []
  | .node key ends below next => (key, ⟨ends, below⟩) :: next.branches

def size : Forest → Nat
  | .nil => 0
  | .node _ _ below next => below.size + next.size + 1

end Forest

def Trie.size (t : Trie) : Nat := t.children.size + 1

/-- The nodes still to be visited, the next one first, each with the text that leads to it, and the
words found so far. -/
structure Walk where
  stack : List (Trie × Text) := []
  found : List Text := []
  deriving DecidableEq, Repr

namespace Walk

def entries (f : Forest) (text : Text) : List (Trie × Text) :=
  f.branches.map fun (c, child) => (child, text ++ [c])

def next? (walk : Walk) : Option Walk :=
  match walk.stack with
  | [] => none
  | (node, text) :: rest =>
    some { stack := entries node.children text ++ rest
           found := walk.found ++ if node.ends then [text] else [] }

def below (t : Trie) (start : Text) : Walk :=
  match t.below? start with
  | none => {}
  | some node => { stack := [(node, start)] }

end Walk

/-- The only child of a node at which no word ends, if it has one only. -/
def Trie.onlyChild? : Trie × Text → Option (Trie × Text)
  | (⟨false, .node c ends below .nil⟩, text) => some (⟨ends, below⟩, text ++ [c])
  | _ => none

end PipelineShell
