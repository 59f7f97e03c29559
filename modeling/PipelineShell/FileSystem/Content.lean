import PipelineShell.Text.Basic

/-!
# Contents of files

The bytes of a file, packed.
-/

namespace PipelineShell

/-- The bytes of a file. -/
structure Content where
  packed : ByteArray := .empty

instance : DecidableEq Content := fun a b =>
  match ByteArray.instDecidableEq a.packed b.packed with
  | isTrue h => isTrue (by cases a; cases b; exact congrArg Content.mk h)
  | isFalse h => isFalse fun e => h (congrArg Content.packed e)

namespace Content

def ofBytes (bytes : Bytes) : Content := ⟨⟨bytes.toArray⟩⟩

def toBytes (c : Content) : Bytes := c.packed.data.toList

def size (c : Content) : Nat := c.packed.size

def slice (c : Content) (position count : Nat) : Bytes :=
  (c.packed.extract position (position + count)).data.toList

def append (c : Content) (data : Bytes) : Content := ⟨c.packed ++ ⟨data.toArray⟩⟩

/-- Bytes written over those at a position; a gap is filled with zeros. -/
def overwrite (c : Content) (position : Nat) (data : Bytes) : Content :=
  if position = c.size then c.append data
  else
    let gap : ByteArray := ⟨Array.replicate (position - c.size) 0⟩
    let piece : ByteArray := ⟨data.toArray⟩
    ⟨c.packed.extract 0 position ++ gap ++ piece ++
      c.packed.extract (position + piece.size) c.size⟩

instance : Repr Content where
  reprPrec c n := reprPrec c.toBytes n

@[simp] theorem toBytes_ofBytes (bytes : Bytes) : (ofBytes bytes).toBytes = bytes := by
  simp [ofBytes, toBytes]

@[simp] theorem toBytes_append (c : Content) (data : Bytes) :
    (c.append data).toBytes = c.toBytes ++ data := by
  simp [append, toBytes, ByteArray.data_append]

theorem size_eq (c : Content) : c.size = c.toBytes.length := rfl

theorem toBytes_slice (c : Content) (position count : Nat) :
    c.slice position count = (c.toBytes.drop position).take count := by
  simp [slice, toBytes, ByteArray.data_extract, Array.toList_extract, List.extract]

theorem toBytes_overwrite (c : Content) (position : Nat) (data : Bytes) :
    (c.overwrite position data).toBytes =
      c.toBytes.take position ++ List.replicate (position - c.size) 0 ++ data ++
        c.toBytes.drop (position + data.length) := by
  unfold overwrite
  split
  · next h => simp [h, size_eq]
  · have hd : (ByteArray.mk data.toArray).size = data.length := rfl
    have hc : c.packed.size = c.packed.data.toList.length := rfl
    have hl : List.take (c.packed.size - (position + data.length))
        (List.drop (position + data.length) c.packed.data.toList) =
        List.drop (position + data.length) c.packed.data.toList :=
      List.take_of_length_le (Nat.le_of_eq (by rw [List.length_drop, hc]))
    simp [toBytes, ByteArray.data_append, ByteArray.data_extract, Array.toList_extract,
      List.extract, hd, size, hl, -ByteArray.size_data]

end Content
end PipelineShell
