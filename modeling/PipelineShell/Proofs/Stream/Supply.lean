import PipelineShell.Proofs.Stream.ChunkQueue
import PipelineShell.Stream.Pumping

/-!
# What a stream holds

The bytes that reading chunk by chunk gives before the end.
-/

namespace PipelineShell

variable {ρ : Type}

namespace Supply
variable {supply : Supply ρ} {r r' r'' : ρ} {chunk data : Bytes} {chunks : List Bytes}

/-- Reading goes on with these chunks, none of them empty. -/
inductive Gives (supply : Supply ρ) : ρ → List Bytes → ρ → Prop
  | nil (r : ρ) : Gives supply r [] r
  | cons {r r' r'' : ρ} {chunk : Bytes} {chunks : List Bytes}
      (read : supply.read? Pump.chunkSize r = some (chunk, r')) (full : chunk ≠ [])
      (rest : Gives supply r' chunks r'') : Gives supply r (chunk :: chunks) r''

/-- Reading goes on with these bytes and then comes to the end of the stream. -/
def Holds (supply : Supply ρ) (r : ρ) (data : Bytes) : Prop :=
  ∃ chunks r' r'', supply.Gives r chunks r' ∧
    supply.read? Pump.chunkSize r' = some ([], r'') ∧ chunks.flatten = data

theorem Gives.append {more : List Bytes} (h : supply.Gives r chunks r')
    (h' : supply.Gives r' more r'') : supply.Gives r (chunks ++ more) r'' := by
  induction h with
  | nil r => exact h'
  | cons read full _ ih => exact .cons read full (ih h')

theorem Gives.prefix_of_holds (h : supply.Gives r chunks r') (hd : supply.Holds r data) :
    chunks.flatten <+: data := by
  induction h generalizing data with
  | nil r => exact List.nil_prefix
  | cons read full _ ih =>
    obtain ⟨all, e, e', hall, hend, rfl⟩ := hd
    cases hall with
    | nil r =>
      rw [hend] at read
      cases read
      exact absurd rfl full
    | cons read' _ rest =>
      rw [read'] at read
      cases read
      rw [List.flatten_cons, List.flatten_cons, List.prefix_append_right_inj]
      exact ih ⟨_, _, _, rest, hend, rfl⟩

theorem Holds.unique {data' : Bytes} (h : supply.Holds r data) (h' : supply.Holds r data') :
    data = data' := by
  obtain ⟨chunks, e, -, hgives, -, rfl⟩ := id h
  obtain ⟨chunks', e', -, hgives', -, rfl⟩ := id h'
  have hlength := (hgives.prefix_of_holds h').length_le
  have hlength' := (hgives'.prefix_of_holds h).length_le
  exact (hgives.prefix_of_holds h').eq_of_length (Nat.le_antisymm hlength hlength')

theorem Holds.cons (read : supply.read? Pump.chunkSize r = some (chunk, r')) (full : chunk ≠ [])
    (h : supply.Holds r' data) : supply.Holds r (chunk ++ data) := by
  obtain ⟨chunks, e, e', hgives, hend, rfl⟩ := h
  exact ⟨chunk :: chunks, e, e', .cons read full hgives, hend, rfl⟩

/-- A stream at which nobody waits holds what is left to be read, if each read takes what it gives
off that and gives nothing only when nothing is left. -/
theorem holds_of_content {P : ρ → Prop} (content : ρ → Bytes)
    (h : ∀ r, P r → ∃ chunk r', supply.read? Pump.chunkSize r = some (chunk, r') ∧ P r' ∧
      chunk ++ content r' = content r ∧ (chunk = [] → content r = []))
    (hr : P r) : supply.Holds r (content r) := by
  -- each chunk leaves less to read
  induction hn : (content r).length using Nat.strongRecOn generalizing r with
  | ind n ih =>
    obtain ⟨chunk, r', hread, hr', hsplit, hend⟩ := h r hr
    by_cases hchunk : chunk = []
    · rw [hend hchunk]
      exact ⟨[], r, r', .nil r, hchunk ▸ hread, rfl⟩
    · have hlength := congrArg List.length hsplit
      have hpositive := List.length_pos_iff.2 hchunk
      rw [List.length_append] at hlength
      rw [← hsplit]
      exact (ih _ (by omega) hr' rfl).cons hread hchunk

end Supply

theorem Source.holds_iff (source : Source ρ) (r : ρ) (data : Bytes) :
    source.supply.Holds r data ↔ data = source.content r := by
  have hholds : source.supply.Holds r (source.content r) :=
    Supply.holds_of_content (P := fun _ => True) source.content
      (fun r _ => ⟨_, _, rfl, trivial, source.content_read r, source.content_of_read_eq_nil r⟩)
      trivial
  refine ⟨fun h => h.unique hholds, ?_⟩
  rintro rfl
  exact hholds

namespace ChunkQueue

theorem Kept.read_closed {q : ChunkQueue} (h : Kept q) (hc : q.closed = true) :
    ∃ chunk p, supply.read? Pump.chunkSize q = some (chunk, p) ∧ (Kept p ∧ p.closed = true) ∧
      chunk ++ p.channel.content = q.channel.content ∧ (chunk = [] → q.channel.content = []) := by
  have hlimit : Channel.limit Pump.chunkSize ≠ some 0 := by decide
  have hready : q.channel.ready = true := Channel.ready_of_closed hc
  obtain ⟨hchannel, hkept⟩ := h.readSome? Pump.chunkSize
  rw [Channel.readSome?, if_pos hready] at hchannel
  obtain ⟨⟨chunk, p⟩, hread, heq⟩ := Option.map_eq_some_iff.1 hchannel
  have hreads : Channel.Reads (Channel.limit Pump.chunkSize) chunk q.channel p.channel :=
    Channel.reads_of_readSome? (by rw [Channel.readSome?, if_pos hready, ← heq])
  exact ⟨chunk, p, hread, ⟨hkept _ _ hread, hreads.closed.trans hc⟩, hreads.taken,
    hreads.atEnd hlimit⟩

theorem Kept.holds_iff {q : ChunkQueue} (h : Kept q) (hc : q.closed = true) (data : Bytes) :
    supply.Holds q data ↔ data = q.channel.content := by
  have hholds : supply.Holds q q.channel.content :=
    Supply.holds_of_content (P := fun q => Kept q ∧ q.closed = true) (fun q => q.channel.content)
      (fun q hq => hq.1.read_closed hq.2) ⟨h, hc⟩
  refine ⟨fun h => h.unique hholds, ?_⟩
  rintro rfl
  exact hholds

end ChunkQueue

end PipelineShell
