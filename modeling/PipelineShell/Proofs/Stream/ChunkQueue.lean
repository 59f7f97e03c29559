import PipelineShell.Proofs.Stream.Exchange

/-!
# A channel loses nothing

The queue of a `Channel`, with the end mark in it, answers all requests as the list of its chunks
does.
-/

namespace PipelineShell

namespace ChunkQueue
open Channel (Request Answer Exchange Exchanges returned accepted requests)

/-! ### The queue and its channel -/

/-- How a queue is kept: the mark stands last, put there by closing and gone once it is met. -/
inductive Kept : ChunkQueue → Prop
  | opened (chunks : List Bytes) (pending : Bytes) (full : ∀ chunk ∈ chunks, chunk ≠ []) :
      Kept ⟨chunks.map some, pending, false, false⟩
  | marked (chunks : List Bytes) (pending : Bytes) (full : ∀ chunk ∈ chunks, chunk ≠ []) :
      Kept ⟨chunks.map some ++ [none], pending, false, true⟩
  | drained : Kept ⟨[], [], true, true⟩

variable {q p : ChunkQueue} {r : Request} {a : Answer} {es : List Exchange}

theorem channel_opened (chunks : List Bytes) (pending : Bytes) (atEnd closed : Bool) :
    (ChunkQueue.mk (chunks.map some) pending atEnd closed).channel = ⟨chunks, pending, closed⟩ := by
  simp [channel]

theorem channel_marked (chunks : List Bytes) (pending : Bytes) (atEnd closed : Bool) :
    (ChunkQueue.mk (chunks.map some ++ [none]) pending atEnd closed).channel =
      ⟨chunks, pending, closed⟩ := by
  simp [channel]

theorem refill_full {chunk : Bytes} (h : chunk ≠ []) (chunks : List Bytes) (closed : Bool) :
    (Channel.mk (chunk :: chunks) [] closed).refill = ⟨chunks, chunk, closed⟩ := by
  cases chunk with
  | nil => exact absurd rfl h
  | cons b bs => rfl

theorem refill_pending (b : UInt8) (bs : Bytes) (chunks : List Bytes) (closed : Bool) :
    (Channel.mk chunks (b :: bs) closed).refill = ⟨chunks, b :: bs, closed⟩ := rfl

theorem Kept.refill (h : Kept q) :
    (q.refill? = none ∧ q.channel.ready = false) ∨
      ∃ p, q.refill? = some p ∧ Kept p ∧ q.channel.ready = true ∧
        p.channel = q.channel.refill := by
  cases h with
  | opened chunks pending full =>
    rw [channel_opened]
    cases pending with
    | cons b bs =>
      refine .inr ⟨_, rfl, .opened chunks _ full, rfl, ?_⟩
      rw [channel_opened, refill_pending]
    | nil =>
      cases chunks with
      | nil => exact .inl ⟨rfl, rfl⟩
      | cons chunk chunks =>
        obtain ⟨hne, hrest⟩ := List.forall_mem_cons.1 full
        refine .inr ⟨_, rfl, .opened chunks chunk hrest, rfl, ?_⟩
        rw [channel_opened, refill_full hne]
  | marked chunks pending full =>
    rw [channel_marked]
    cases pending with
    | cons b bs =>
      refine .inr ⟨_, rfl, .marked chunks _ full, rfl, ?_⟩
      rw [channel_marked, refill_pending]
    | nil =>
      cases chunks with
      | nil => exact .inr ⟨_, rfl, .drained, rfl, rfl⟩
      | cons chunk chunks =>
        obtain ⟨hne, hrest⟩ := List.forall_mem_cons.1 full
        refine .inr ⟨⟨chunks.map some ++ [none], chunk, false, true⟩, rfl,
          .marked chunks chunk hrest, rfl, ?_⟩
        rw [channel_marked, refill_full hne]
  | drained => exact .inr ⟨_, rfl, .drained, rfl, rfl⟩

theorem Kept.drop (h : Kept q) (n : Nat) : Kept { q with pending := q.pending.drop n } := by
  cases h with
  | opened chunks pending full => exact .opened chunks _ full
  | marked chunks pending full => exact .marked chunks _ full
  | drained =>
    rw [List.drop_nil]
    exact .drained

theorem Kept.channel_of_content (h : Kept q) (hc : q.channel.content = []) :
    q.channel = ⟨[], [], q.closed⟩ := by
  have hnil (chunks : List Bytes) (full : ∀ chunk ∈ chunks, chunk ≠ [])
      (hf : chunks.flatten = []) : chunks = [] := by
    cases chunks with
    | nil => rfl
    | cons chunk chunks =>
      have hchunk : chunk = [] := (List.append_eq_nil_iff.1 hf).1
      exact absurd hchunk (full chunk (List.mem_cons_self ..))
  cases h with
  | opened chunks pending full =>
    rw [channel_opened] at hc ⊢
    obtain ⟨hp, hf⟩ := List.append_eq_nil_iff.1 hc
    rw [show pending = [] from hp, hnil chunks full hf]
  | marked chunks pending full =>
    rw [channel_marked] at hc ⊢
    obtain ⟨hp, hf⟩ := List.append_eq_nil_iff.1 hc
    rw [show pending = [] from hp, hnil chunks full hf]
  | drained => rfl

/-- How many bytes a request gets of so many that are there. -/
def share (size : Int) (there : Nat) : Nat := if size < 0 then there else size.toNat

theorem readSome?_of_refill? (h : q.refill? = some p) (size : Int) :
    q.readSome? size = some (p.pending.take (share size p.pending.length),
      { p with pending := p.pending.drop (share size p.pending.length) }) := by
  simp only [readSome?, h, Option.map_some, share]
  by_cases hneg : size < 0
  · simp [hneg]
  · by_cases hall : (p.pending.length : Int) ≤ size
    · have hle : p.pending.length ≤ size.toNat := by omega
      simp [hneg, hall, List.take_of_length_le hle, List.drop_of_length_le hle]
    · simp [hneg, hall]

theorem readSome_limit (c : Channel) (size : Int) :
    c.readSome (Channel.limit size) =
      (c.refill.pending.take (share size c.refill.pending.length),
        { c.refill with
          pending := c.refill.pending.drop (share size c.refill.pending.length) }) := by
  unfold Channel.limit share
  by_cases hneg : size < 0
  · simp [Channel.readSome, hneg]
  · simp [Channel.readSome, hneg]

theorem Kept.readSome? (h : Kept q) (size : Int) :
    (q.readSome? size).map (fun (data, p) => (data, p.channel)) =
        q.channel.readSome? (Channel.limit size) ∧
      ∀ data p, q.readSome? size = some (data, p) → Kept p := by
  rcases h.refill with ⟨hnone, hready⟩ | ⟨p, hp, hk, hready, hchannel⟩
  · simp [ChunkQueue.readSome?, Channel.readSome?, hnone, hready]
  · have hpending : q.channel.refill.pending = p.pending := by rw [← hchannel]; rfl
    rw [readSome?_of_refill? hp, Channel.readSome?, hready, if_pos rfl, readSome_limit, hpending,
      ← hchannel]
    refine ⟨rfl, fun data p' heq => ?_⟩
    cases heq
    exact hk.drop _

/-- A queue from which everything has been read makes the reader wait unless it is closed. -/
theorem Kept.closed_of_ready (h : Kept q) (hc : q.channel.content = [])
    (hready : q.channel.ready = true) : q.closed = true := by
  rw [h.channel_of_content hc] at hready
  simpa [Channel.ready] using hready

/-- An open queue makes who wants to read all of it wait; a closed one is read to its end. -/
theorem Kept.chunks? (h : Kept q) :
    (q.closed = false ∧ q.chunks? = none) ∨
      ∃ chunks p, q.closed = true ∧ q.chunks? = some (chunks, p) ∧
        chunks.flatten = q.channel.content ∧ Kept p ∧ p.channel = ⟨[], [], true⟩ := by
  have hsome := (h.readSome? (-1)).1
  have hkept := (h.readSome? (-1)).2
  rw [show Channel.limit (-1) = none from rfl] at hsome
  fun_induction ChunkQueue.chunks? q with
  | case1 q hr =>
    rw [hr, Option.map_none] at hsome
    refine .inl ⟨?_, rfl⟩
    cases hq : q.closed with
    | false => rfl
    | true =>
      have hready : q.channel.ready = true := Channel.ready_of_closed hq
      simp [Channel.readSome?, hready] at hsome
  | case2 q rest hr =>
    rw [hr, Option.map_some] at hsome
    have hreads := Channel.reads_of_readSome? hsome.symm
    have hend := hreads.atEnd (by simp) rfl
    have hclosed := h.closed_of_ready hend hreads.ready
    have hrest := hkept _ _ hr
    have hcontent : rest.channel.content = [] := hreads.taken.trans hend
    have hopen : rest.closed = true := hreads.closed.trans hclosed
    refine .inr ⟨[], rest, hclosed, rfl, hend.symm, hrest, ?_⟩
    rw [hrest.channel_of_content hcontent, hopen]
  | case3 q chunk rest hr hne ih =>
    rw [hr, Option.map_some] at hsome
    have hreads := Channel.reads_of_readSome? hsome.symm
    have hrest := hkept _ _ hr
    rcases ih hrest (hrest.readSome? (-1)).1 (hrest.readSome? (-1)).2 with
      ⟨hclosed, hnone⟩ | ⟨chunks, p, hclosed, hchunks, hflat, hp, hchannel⟩
    · exact .inl ⟨hreads.closed.symm.trans hclosed, by rw [hnone, Option.map_none]⟩
    · refine .inr ⟨chunk :: chunks, p, hreads.closed.symm.trans hclosed, ?_, ?_, hp, hchannel⟩
      · rw [hchunks, Option.map_some]
      · rw [List.flatten_cons, hflat, hreads.taken]

theorem Kept.read? (h : Kept q) (size : Int) :
    (q.read? size).map (fun (data, p) => (data, p.channel)) =
        q.channel.read? (Channel.limit size) ∧
      ∀ data p, q.read? size = some (data, p) → Kept p := by
  by_cases hsize : 0 ≤ size
  · have hlimit : Channel.limit size = some size.toNat := by
      rw [Channel.limit, if_neg (by omega)]
    have hread := h.readSome? size
    simp only [ChunkQueue.read?, hsize, ↓reduceIte]
    rw [hlimit] at hread ⊢
    exact hread
  · have hlimit : Channel.limit size = none := by rw [Channel.limit, if_pos (by omega)]
    simp only [ChunkQueue.read?, hsize, ↓reduceIte, hlimit, Channel.read?]
    have hchannel : q.channel.closed = q.closed := rfl
    rcases h.chunks? with ⟨hopen, hnone⟩ | ⟨chunks, p, hclosed, hchunks, hflat, hp, hend⟩
    · simp [hnone, hchannel, hopen]
    · rw [hchunks, hchannel, hclosed, Option.map_some, Option.map_some, if_pos rfl,
        Channel.readAll_eq, Bytes.ofChunks_eq_flatten, hflat, hend, hchannel, hclosed]
      refine ⟨rfl, fun data p' heq => ?_⟩
      cases heq
      exact hp

theorem channel_write? (q : ChunkQueue) (data : Bytes) :
    (q.write? data).map channel = q.channel.write? data := by
  cases hc : q.closed with
  | true => simp [write?, Channel.write?, channel, hc]
  | false =>
    by_cases hd : data.isEmpty = true
    · simp [write?, Channel.write?, channel, hc, hd]
    · simp [write?, Channel.write?, channel, hc, hd]

theorem Kept.write? (h : Kept q) {data : Bytes} (hw : q.write? data = some p) : Kept p := by
  cases h with
  | opened chunks pending full =>
    by_cases hd : data.isEmpty = true
    · simp only [ChunkQueue.write?, hd, Bool.false_eq_true, ↓reduceIte, Option.some.injEq] at hw
      rw [← hw]
      exact .opened chunks pending full
    · simp only [ChunkQueue.write?, hd, Bool.false_eq_true, ↓reduceIte, Option.some.injEq] at hw
      have hentries : chunks.map some ++ [some data] = (chunks ++ [data]).map some := by simp
      rw [← hw, hentries]
      refine .opened _ pending fun chunk hchunk => ?_
      rcases List.mem_append.1 hchunk with hchunk | hchunk
      · exact full chunk hchunk
      · rw [List.mem_singleton.1 hchunk]
        simpa using hd
  | marked chunks pending full => cases hw
  | drained => cases hw

theorem channel_close (q : ChunkQueue) : q.close.channel = q.channel.close := by
  cases hc : q.closed with
  | true => simp [close, Channel.close, channel, hc]
  | false => simp [close, Channel.close, channel, hc]

theorem Kept.close (h : Kept q) : Kept q.close := by
  cases h with
  | opened chunks pending full => exact .marked chunks pending full
  | marked chunks pending full => exact .marked chunks pending full
  | drained => exact .drained

theorem Kept.serve? (h : Kept q) (r : Request) :
    (q.serve? r).map (fun (a, p) => (a, p.channel)) = q.channel.serve? r ∧
      ∀ a p, q.serve? r = some (a, p) → Kept p := by
  cases r with
  | write data =>
    have hchannel := q.channel_write? data
    simp only [ChunkQueue.serve?, Channel.serve?, ← hchannel]
    cases hw : q.write? data with
    | none =>
      refine ⟨rfl, fun a p heq => ?_⟩
      cases heq
      exact h
    | some p =>
      refine ⟨rfl, fun a p' heq => ?_⟩
      cases heq
      exact h.write? hw
  | read size =>
    obtain ⟨hchannel, hkept⟩ := h.read? size
    simp only [ChunkQueue.serve?, Channel.serve?, ← hchannel, Option.map_map]
    refine ⟨rfl, fun a p heq => ?_⟩
    obtain ⟨data, -, hr⟩ := Channel.bytes_of_served heq
    exact hkept data p hr
  | readSome size =>
    obtain ⟨hchannel, hkept⟩ := h.readSome? size
    simp only [ChunkQueue.serve?, Channel.serve?, ← hchannel, Option.map_map]
    refine ⟨rfl, fun a p heq => ?_⟩
    obtain ⟨data, -, hr⟩ := Channel.bytes_of_served heq
    exact hkept data p hr
  | flush =>
    refine ⟨rfl, fun a p heq => ?_⟩
    cases heq
    exact h
  | close =>
    refine ⟨?_, fun a p heq => ?_⟩
    · simp only [ChunkQueue.serve?, Channel.serve?, ← q.channel_close]
      rfl
    · cases heq
      exact h.close

theorem Kept.served (h : Kept q) (hs : q.serve? r = some (a, p)) :
    q.channel.serve? r = some (a, p.channel) ∧ Kept p := by
  obtain ⟨hchannel, hkept⟩ := h.serve? r
  rw [hs, Option.map_some] at hchannel
  exact ⟨hchannel.symm, hkept a p hs⟩

theorem Kept.exchanges (h : Kept q) (hs : Exchanges ChunkQueue.serve? q es p) :
    Exchanges Channel.serve? q.channel es p.channel ∧ Kept p := by
  induction hs with
  | nil q => exact ⟨.nil _, h⟩
  | cons served _ ih =>
    obtain ⟨hstep, hkept⟩ := h.served served
    obtain ⟨hrest, hend⟩ := ih hkept
    exact ⟨.cons hstep hrest, hend⟩

theorem Kept.answers_of_closed (h : Kept q) (hc : q.closed = true) (rs : List Request) :
    ∃ es p, requests es = rs ∧ Exchanges ChunkQueue.serve? q es p := by
  induction rs generalizing q with
  | nil => exact ⟨[], q, rfl, .nil q⟩
  | cons r rs ih =>
    have hsome := Channel.serve?_of_closed (c := q.channel) hc r
    rw [← (h.serve? r).1, Option.isSome_map] at hsome
    obtain ⟨⟨a, p⟩, hs⟩ := Option.isSome_iff_exists.1 hsome
    obtain ⟨hstep, hkept⟩ := h.served hs
    have hclosed : p.closed = true := (Channel.served_closed hstep).2 (.inl hc)
    obtain ⟨es, p', hrs, hes⟩ := ih hkept hclosed
    exact ⟨(r, a) :: es, p', by rw [← hrs]; rfl, .cons hs hes⟩

theorem Kept.takes (h : Kept q) (hq : q.closed = false) (data : Bytes) :
    ∃ p, q.serve? (.write data) = some (.written data.length, p) := by
  obtain ⟨d, hd, -⟩ := Channel.serve?_write_open (c := q.channel) hq data
  rw [← (h.serve? _).1] at hd
  obtain ⟨⟨a, p⟩, hs, hp⟩ := Option.map_eq_some_iff.1 hd
  exact ⟨p, by rw [hs, (Prod.mk.inj hp).1]⟩

theorem Kept.end_of_served (h : Kept q) (hr : r.wants = true)
    (hs : q.serve? r = some (.bytes [], p)) :
    q.closed = true ∧ q.channel.content = [] ∧ p.channel.content = [] := by
  obtain ⟨hstep, -⟩ := h.served hs
  obtain ⟨hready, hend⟩ := Channel.end_of_served hstep hr
  have hcontent := Channel.served_content hstep
  have hnothing : Channel.Exchange.accepted (r, .bytes []) = [] := by cases r <;> rfl
  rw [hend, hnothing] at hcontent
  exact ⟨h.closed_of_ready hend hready, hend, hcontent⟩

theorem Kept.drains (h : Kept q) (hq : q.closed = true) {size : Int} (hsize : size < 0) :
    ∃ p, q.serve? (.read size) = some (.bytes q.channel.content, p) := by
  rcases h.chunks? with ⟨hopen, -⟩ | ⟨chunks, p, -, hchunks, hflat, -⟩
  · rw [hopen] at hq
    cases hq
  · have hneg : ¬0 ≤ size := by omega
    exact ⟨p, by simp [ChunkQueue.serve?, ChunkQueue.read?, hneg, hchunks,
      Bytes.ofChunks_eq_flatten, hflat]⟩

theorem kept_empty : Kept {} := .opened [] [] (by simp)

/-- What holds of a queue after a run of requests that were all answered. -/
structure Lossless (es : List Exchange) (q : ChunkQueue) : Prop where
  /-- What was read, what is left of the chunk being read and the chunks in the queue are together
  what was written. -/
  kept : returned es ++ q.pending ++ (q.entries.filterMap id).flatten = accepted es
  /-- Just a closed queue refuses what is written, and stays as it is. -/
  refuses : ∀ data, Request.close ∈ requests es ↔ q.serve? (.write data) = some (.refused, q)
  takes : Request.close ∉ requests es →
    ∀ data, ∃ p, q.serve? (.write data) = some (.written data.length, p)
  /-- Who wants some bytes and gets none has come to the end, where nobody gets any more. -/
  atEnd : ∀ r p, r.wants = true → q.serve? r = some (.bytes [], p) →
    Request.close ∈ requests es ∧ returned es = accepted es ∧
      ∀ es' p', Exchanges serve? p es' p' → returned es' = []
  /-- All that is left of a closed queue can be read at once. -/
  drains : Request.close ∈ requests es → ∀ size < 0, ∃ data p,
    q.serve? (.read size) = some (.bytes data, p) ∧ returned es ++ data = accepted es
  /-- A closed queue makes nobody wait, however much is asked. -/
  answers : Request.close ∈ requests es →
    ∀ rs, ∃ es' p, requests es' = rs ∧ Exchanges serve? q es' p
  /-- The channel that the queue stands for has given the same answers. -/
  channel : Exchanges Channel.serve? {} es q.channel

theorem lossless_of_exchanges (h : Exchanges serve? {} es q) : Lossless es q := by
  obtain ⟨hchannel, hkept⟩ := kept_empty.exchanges h
  have hcontent : returned es ++ q.channel.content = accepted es := hchannel.content
  have hclosed : q.closed = true ↔ Request.close ∈ requests es :=
    hchannel.closed.trans (by simp [channel])
  have hopen (hc : Request.close ∉ requests es) (data : Bytes) :
      ∃ p, q.serve? (.write data) = some (.written data.length, p) :=
    hkept.takes (Bool.eq_false_iff.2 (mt hclosed.1 hc)) data
  refine ⟨?_, fun data => ⟨fun hc => ?_, fun hr => ?_⟩, hopen, fun r p hr hs => ?_,
    fun hc size hsize => ?_, fun hc rs => ?_, hchannel⟩
  · rw [List.append_assoc]
    exact hcontent
  · have hq := hclosed.2 hc
    simp [serve?, write?, hq]
  · refine Decidable.byContradiction fun hc => ?_
    obtain ⟨p, hp⟩ := hopen hc data
    rw [hp] at hr
    cases hr
  · obtain ⟨hq, hend, hrest⟩ := hkept.end_of_served hr hs
    obtain ⟨hstep, hp⟩ := hkept.served hs
    have hpclosed : p.channel.closed = true := (Channel.served_closed hstep).2 (.inl hq)
    refine ⟨hclosed.1 hq, by rw [← hcontent, hend, List.append_nil], fun es' p' hes => ?_⟩
    exact (hp.exchanges hes).1.returned_of_closed hpclosed hrest
  · obtain ⟨p, hp⟩ := hkept.drains (hclosed.2 hc) hsize
    exact ⟨q.channel.content, p, hp, hcontent⟩
  · exact hkept.answers_of_closed (hclosed.2 hc) rs

/-- Writes and reads of all kinds, with the channel closed twice in between. -/
def mixedExchanges : List Exchange :=
  [(.write [1, 2, 3], .written 3), (.write [], .written 0), (.readSome 0, .bytes []),
    (.read 2, .bytes [1, 2]), (.write [4], .written 1), (.flush, .done), (.close, .done),
    (.close, .done), (.write [5], .refused), (.readSome 9, .bytes [3]), (.read (-1), .bytes [4]),
    (.readSome (-1), .bytes [])]

theorem lossless_of_exchanges_mixed :
    Exchanges serve? {} mixedExchanges { atEnd := true, closed := true } ∧
      Lossless mixedExchanges { atEnd := true, closed := true } := by
  have hdrain : serve? ⟨[some [4], none], [], false, true⟩ (.read (-1)) =
      some (.bytes [4], { atEnd := true, closed := true }) := by
    cbv
  have hrun : Exchanges serve? {} mixedExchanges { atEnd := true, closed := true } :=
    .cons rfl (.cons rfl (.cons rfl (.cons rfl (.cons rfl (.cons rfl (.cons rfl (.cons rfl
      (.cons rfl (.cons rfl (.cons hdrain (.cons rfl (.nil _))))))))))))
  exact ⟨hrun, lossless_of_exchanges hrun⟩

end ChunkQueue
end PipelineShell
