import PipelineShell.FileSystem.Handle

/-!
# Writing at the end of a file

A file opened by `_open_redirect` is written behind its old content, or from the start if it was
truncated, as long as nobody else writes to it.
-/

namespace PipelineShell

/-- The bytes of the regular file at a place, if there is one. -/
def FileSystem.bytesAt? (fs : FileSystem) (place : Place) : Option Bytes :=
  match fs.get? place with
  | some (.file content _) => some content.toBytes
  | _ => none

namespace FileSystem
variable {fs : FileSystem} {place q : Place} {bytes : Bytes}

theorem bytesAt?_congr {fs' : FileSystem} (h : fs'.get? place = fs.get? place) :
    fs'.bytesAt? place = fs.bytesAt? place := by
  unfold bytesAt?
  rw [h]

theorem bytesAt?_eq_some_iff : fs.bytesAt? place = some bytes ↔
    ∃ content mode, fs.get? place = some (.file content mode) ∧ content.toBytes = bytes := by
  unfold bytesAt?
  split
  · next content mode hget => simp [hget]
  · next hget => simpa using fun content mode h => absurd h (hget content mode)

theorem ne_nil_of_bytesAt? (h : fs.bytesAt? place = some bytes) : place ≠ [] := by
  obtain ⟨content, mode, hget, -⟩ := bytesAt?_eq_some_iff.1 h
  rintro rfl
  cases hget

theorem bytesAt?_set (h : place ≠ []) (content : Content) (mode : Mode) :
    (fs.set place (.file content mode)).bytesAt? place = some content.toBytes := by
  unfold bytesAt?
  rw [get?_set _ _ _ _ h, if_pos rfl]

theorem get?_set_of_ne (h : place ≠ []) (hq : q ≠ place) (entry : Entry) :
    (fs.set place entry).get? q = fs.get? q := by
  rw [get?_set _ _ _ _ h, if_neg hq]

end FileSystem

theorem Content.toBytes_overwrite_end {c : Content} {position : Nat}
    (h : position = c.toBytes.length) (data : Bytes) :
    (c.overwrite position data).toBytes = c.toBytes ++ data := by
  rw [toBytes_overwrite, size_eq, h]
  simp

namespace Handle
variable {h h' : Handle} {fs fs' : FileSystem} {data bytes : Bytes}

/-- The next write goes to the end of a regular file. -/
structure AtEnd (h : Handle) (fs : FileSystem) : Prop where
  room : h.full = false
  regular : (fs.bytesAt? h.place).isSome
  position : h.append = false →
    ∀ bytes, fs.bytesAt? h.place = some bytes → h.position = bytes.length

theorem AtEnd.congr (hend : h.AtEnd fs) (hget : fs'.get? h.place = fs.get? h.place) :
    h.AtEnd fs' where
  room := hend.room
  regular := by rw [FileSystem.bytesAt?_congr hget]; exact hend.regular
  position := by rw [FileSystem.bytesAt?_congr hget]; exact hend.position

theorem AtEnd.write (hend : h.AtEnd fs) (hw : h.write data fs = (h', fs')) :
    h'.place = h.place ∧ h'.AtEnd fs' ∧
      fs'.bytesAt? h.place = (fs.bytesAt? h.place).map (· ++ data) ∧
      ∀ q, q ≠ h.place → fs'.get? q = fs.get? q := by
  obtain ⟨bytes, hbytes⟩ := Option.isSome_iff_exists.1 hend.regular
  obtain ⟨content, mode, hget, hcontent⟩ := FileSystem.bytesAt?_eq_some_iff.1 hbytes
  have hne := FileSystem.ne_nil_of_bytesAt? hbytes
  have hroom := hend.room
  rw [Handle.write, hroom, hget] at hw
  simp only [Bool.false_eq_true, ↓reduceIte] at hw
  rw [hbytes, Option.map_some]
  split at hw
  · next happend =>
    simp only [Prod.mk.injEq] at hw
    obtain ⟨rfl, rfl⟩ := hw
    have hafter : (fs.set h.place (.file (content.append data) mode)).bytesAt? h.place =
        some (bytes ++ data) := by
      rw [FileSystem.bytesAt?_set hne, Content.toBytes_append, hcontent]
    exact ⟨rfl, ⟨rfl, by rw [hafter]; rfl, fun hno => absurd hno (by simp [happend])⟩, hafter,
      fun q hq => FileSystem.get?_set_of_ne hne hq _⟩
  · next happend =>
    simp only [Prod.mk.injEq] at hw
    obtain ⟨rfl, rfl⟩ := hw
    -- without appending the end is where the last write has stopped
    have hposition : h.position = bytes.length := hend.position (by simpa using happend) _ hbytes
    have hafter : (fs.set h.place (.file (content.overwrite h.position data) mode)).bytesAt?
        h.place = some (bytes ++ data) := by
      have hposition' : h.position = content.toBytes.length := by rw [hposition, hcontent]
      rw [FileSystem.bytesAt?_set hne, Content.toBytes_overwrite_end hposition', hcontent]
    refine ⟨rfl, ⟨rfl, by rw [hafter]; rfl, fun _ other hother => ?_⟩, hafter,
      fun q hq => FileSystem.get?_set_of_ne hne hq _⟩
    simp only at hother ⊢
    rw [hafter, Option.some.injEq] at hother
    rw [← hother, List.length_append, hposition]

/-- A regular file that is opened for writing is written at its end, which is its beginning if it
was not opened to append to it. -/
theorem atEnd_of_openForWriting {base path : Text} {append : Bool}
    (ho : fs.openForWriting base path append = .ok (h, fs'))
    (hregular : (fs'.bytesAt? h.place).isSome) :
    h.AtEnd fs' ∧ fs'.bytesAt? h.place =
      some (if append then (fs.bytesAt? h.place).getD [] else []) := by
  -- a new file and one that has been emptied hold nothing
  have hempty (place : Place) (mode : Mode) (hne : place ≠ []) :
      (fs.set place (.file {} mode)).bytesAt? place = some [] := FileSystem.bytesAt?_set hne {} mode
  have hstart (place : Place) (mode : Mode) (hne : place ≠ []) :
      AtEnd { place, append } (fs.set place (.file {} mode)) := by
    refine ⟨rfl, by rw [hempty place mode hne]; rfl, fun _ bytes hbytes => ?_⟩
    rw [hempty place mode hne, Option.some.injEq] at hbytes
    rw [← hbytes]
    rfl
  unfold FileSystem.openForWriting at ho
  split at ho
  · cases ho
  · next place hplace =>
    split at ho
    · next hget =>
      simp only [Except.ok.injEq, Prod.mk.injEq] at ho
      obtain ⟨rfl, rfl⟩ := ho
      have hne : place ≠ [] := by
        rintro rfl
        cases hget
      have hnone : fs.bytesAt? place = none := by
        unfold FileSystem.bytesAt?
        rw [hget]
      refine ⟨hstart place _ hne, ?_⟩
      rw [hempty place _ hne, hnone, Option.getD_none, ite_self]
    · cases ho
    · next content mode hget =>
      have hbytes : fs.bytesAt? place = some content.toBytes :=
        FileSystem.bytesAt?_eq_some_iff.2 ⟨content, mode, hget, rfl⟩
      have hne := FileSystem.ne_nil_of_bytesAt? hbytes
      split at ho
      · next happend =>
        simp only [Except.ok.injEq, Prod.mk.injEq] at ho
        obtain ⟨rfl, rfl⟩ := ho
        refine ⟨⟨rfl, hregular, fun hno => absurd hno (by simp [happend])⟩, ?_⟩
        rw [if_pos happend, hbytes, Option.getD_some]
      · next happend =>
        simp only [Except.ok.injEq, Prod.mk.injEq] at ho
        obtain ⟨rfl, rfl⟩ := ho
        refine ⟨hstart place mode hne, ?_⟩
        rw [hempty place mode hne, if_neg happend]
    · cases ho
    · cases ho
    · next kind hterminal hget =>
      simp only [Except.ok.injEq, Prod.mk.injEq] at ho
      obtain ⟨rfl, rfl⟩ := ho
      simp [FileSystem.bytesAt?, hget] at hregular
    · cases ho

end Handle
end PipelineShell
