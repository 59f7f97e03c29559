import PipelineShell.Script.Lookup
import PipelineShell.Script.Redirecting

/-!
# Starting programs

A program is started with the exported variables and the open files of the shell. Of the paths that
its name may mean, the first is taken at which one can be started. A file that has the permission to
be executed but is no program is taken for a script.
-/

namespace PipelineShell.Script.Starting

open Script.Shell Userland

def interpreterPath : Chars := "/bin/sh".toList

def isAbsence (e : SystemError) : Bool := e = .notFound || e = .notDirectory

def startAt (host : Host) (call : Call) (path : Chars) (m : Machine) :
    Except SystemError Turn :=
  match host path call m with
  | .error .notRunnable =>
    host interpreterPath { call with argv := interpreterPath :: path :: call.args } m
  | result => result

/-- Starts a program at the first path where that is possible; `e` is why it has not been so far. -/
def startAny (host : Host) (call : Call) (m : Machine) :
    List Chars → (e : SystemError) → Except SystemError Turn
  | [], e => .error e
  | path :: rest, e =>
    match startAt host call path m with
    | .ok result => .ok result
    | .error e' => startAny host call m rest (if isAbsence e' then e else e')

def replace {α : Type} (host : Host) (argv : List Chars) (path : Chars) (index : Option Nat) :
    Run α := do
  let name := argv.headD []
  let s ← get
  let call : Call :=
    { argv, cwd := s.cwd
      env := s.bindings.exports
      descriptors := s.descriptors
      ignored := s.silenced
      mask := s.mask
      limits := s.limits
      process := s.self
      parent := s.parent }
  let machine := s.publish
  let result :=
    match index with
    | none => startAt host call name machine
    | some n => startAny host call machine ((Lookup.candidates path name).drop n) .notFound
  match result with
  | .ok program => become call program
  | .error e =>
    let isMissing := isAbsence e || e = .linkLoop || e = .nameTooLong
    say (name ++ ": ".toList ++ if isAbsence e then "not found".toList else e.wording)
    modify fun s => { s with status := if isMissing then 127 else 126 }
    throw .ended

end PipelineShell.Script.Starting
