import PipelineShell.FileSystem.Basic

/-!
# Files open for writing

Opening for writing or appending, as `_open_redirect` does, and writing at the position of the open
file. A full device takes nothing: what fits into a block is kept until the file is closed.
-/

namespace PipelineShell

/-- A file open for writing. -/
structure Handle where
  place : Place
  position : Nat := 0
  append : Bool := false
  closed : Bool := false
  full : Bool := false
  lost : Bool := false
  deriving DecidableEq, Repr

namespace Handle

def close (h : Handle) : Handle := { h with closed := true }

def blockSize : Nat := 4096

/-- Whether a write is refused for want of room; so is every write after it. -/
def refuses (h : Handle) (data : Bytes) : Bool := h.full && (h.lost || !data.isEmpty)

def keep (h : Handle) (data : Bytes) : Handle :=
  { h with lost := h.lost || (!data.isEmpty && data.length ≤ blockSize) }

def write (h : Handle) (data : Bytes) (fs : FileSystem) : Handle × FileSystem :=
  if h.full then (h, fs)
  else
    match fs.get? h.place with
    | some (.file content mode) =>
      if h.append then
        ({ h with position := content.size + data.length },
          fs.set h.place (.file (content.append data) mode))
      else
        ({ h with position := h.position + data.length },
          fs.set h.place (.file (content.overwrite h.position data) mode))
    | _ => (h, fs)

end Handle

def FileSystem.openForWriting (fs : FileSystem) (base path : Text) (append : Bool) :
    Except SystemError (Handle × FileSystem) :=
  match fs.locateNew base path with
  | .error e => .error e
  | .ok place =>
    match fs.get? place with
    | none => .ok ({ place, append }, fs.set place (.file {} Mode.plain))
    | some (.directory _) => .error .isDirectory
    | some (.file content mode) =>
      if append then .ok ({ place, append, position := content.size }, fs)
      else .ok ({ place, append }, fs.set place (.file {} mode))
    | some (.link _) => .error .linkLoop
    | some (.device .terminal) => .error .noDevice
    | some (.device kind) => .ok ({ place, append, full := kind = .full }, fs)
    | some (.program _) => .error .textBusy

end PipelineShell
