import PipelineShell.Text.Chars

/-!
# Variables

A variable may be unset and yet be marked for export or as read-only. Unsetting a variable takes
its marks away, except for those that the shell always has.
-/

namespace PipelineShell.Script

/-- A variable. -/
structure Variable where
  value : Option Chars
  exported : Bool := false
  readonly : Bool := false
  fixed : Bool := false
  deriving DecidableEq, Repr

abbrev Variables := List (Chars × Variable)

namespace Variables

def find? (vs : Variables) (name : Chars) : Option Variable := vs.lookup name

def value? (vs : Variables) (name : Chars) : Option Chars := (vs.find? name).bind (·.value)

def isReadonly (vs : Variables) (name : Chars) : Bool :=
  ((vs.find? name).map (·.readonly)).getD false

def put (name : Chars) (v : Variable) : Variables → Variables
  | [] => [(name, v)]
  | (n, w) :: rest => if n = name then (n, v) :: rest else (n, w) :: put name v rest

def erase (vs : Variables) (name : Chars) : Variables := vs.filter (·.1 ≠ name)

def set (vs : Variables) (name : Chars) (value : Option Chars) (exported readonly : Bool) :
    Variables :=
  match vs.find? name with
  | some v =>
    vs.put name { v with
      value, exported := v.exported || exported, readonly := v.readonly || readonly }
  | none => vs.put name { value, exported, readonly }

def unset (vs : Variables) (name : Chars) : Variables :=
  match vs.find? name with
  | some v => if v.fixed then vs.put name { v with value := none } else vs.erase name
  | none => vs

def exports (vs : Variables) : List (Chars × Chars) :=
  vs.filterMap fun (name, v) =>
    match v.value with
    | some value => if v.exported then some (name, value) else none
    | none => none

def sorted (vs : Variables) : Variables := vs.mergeSort fun a b => Chars.le a.1 b.1

theorem lookup_put (name n : Chars) (v : Variable) (vs : Variables) :
    (put name v vs).lookup n = if n = name then some v else vs.lookup n := by
  induction vs with
  | nil => grind [put]
  | cons p vs ih => grind [put]

end Variables
end PipelineShell.Script
