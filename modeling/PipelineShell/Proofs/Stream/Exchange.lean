import PipelineShell.Stream.ChunkQueue

/-!
# Requests to a channel

In any sequence of requests, what was read and what is kept are together what was written.
-/

namespace PipelineShell

namespace Channel

def Answer.returned : Answer → Bytes
  | .bytes data => data
  | _ => []

/-- A request with its answer. -/
abbrev Exchange := Request × Answer

/-- What a request has added to the stream. -/
def Exchange.accepted : Exchange → Bytes
  | (.write data, .written _) => data
  | _ => []

/-- Whether more than no bytes are asked for. -/
def Request.wants : Request → Bool
  | .read size | .readSome size => size != 0
  | _ => false

def returned (es : List Exchange) : Bytes := es.flatMap (·.2.returned)

def accepted (es : List Exchange) : Bytes := es.flatMap Exchange.accepted

def requests (es : List Exchange) : List Request := es.map (·.1)

/-- A run of requests that are all answered. -/
inductive Exchanges {σ : Type} (serve? : σ → Request → Option (Answer × σ)) :
    σ → List Exchange → σ → Prop
  | nil (s : σ) : Exchanges serve? s [] s
  | cons {s t u : σ} {r : Request} {a : Answer} {es : List Exchange}
      (served : serve? s r = some (a, t)) (rest : Exchanges serve? t es u) :
      Exchanges serve? s ((r, a) :: es) u

variable {c d : Channel} {r : Request} {a : Answer} {es : List Exchange}

/-! ### One request -/

theorem limit_ne_zero {size : Int} (h : size ≠ 0) : limit size ≠ some 0 := by
  unfold limit
  split
  · simp
  · rw [ne_eq, Option.some.injEq]
    omega

/-- What a read that does not wait comes to: it takes what it returns off the front, leaves the
channel as open as it was, and returns nothing only at the end. -/
structure Reads (size : Option Nat) (data : Bytes) (c d : Channel) : Prop where
  ready : c.ready = true
  taken : data ++ d.content = c.content
  closed : d.closed = c.closed
  atEnd : size ≠ some 0 → data = [] → c.content = []

theorem reads_of_readSome? {size : Option Nat} {data : Bytes}
    (h : c.readSome? size = some (data, d)) : Reads size data c d := by
  unfold readSome? at h
  split at h
  · next hready =>
    have hr : c.readSome size = (data, d) := Option.some.inj h
    have hc := c.content_readSome size
    rw [hr] at hc
    cases size with
    | none =>
      have hp : c.refill.pending = data := congrArg Prod.fst hr
      have hd : { c.refill with pending := [] } = d := congrArg Prod.snd hr
      refine ⟨hready, hc, by rw [← hd]; exact c.closed_refill, fun _ he => ?_⟩
      exact content_eq_nil_of_refill (hp.trans he)
    | some n =>
      have hd : { c.refill with pending := c.refill.pending.drop n } = d := congrArg Prod.snd hr
      refine ⟨hready, hc, by rw [← hd]; exact c.closed_refill, fun hn he => ?_⟩
      have hpos : 0 < n := Nat.pos_of_ne_zero (by simpa using hn)
      exact c.content_of_readSome_eq_nil hpos (by rw [hr]; exact he)
  · cases h

theorem reads_of_read? {size : Option Nat} {data : Bytes} (h : c.read? size = some (data, d)) :
    Reads size data c d := by
  cases size with
  | some n => exact reads_of_readSome? h
  | none =>
    simp only [read?] at h
    split at h
    · next hclosed =>
      rw [readAll_eq, Option.some.injEq, Prod.mk.injEq] at h
      obtain ⟨rfl, rfl⟩ := h
      exact ⟨ready_of_closed hclosed, by simp [content], rfl, fun _ he => he⟩
    · cases h

theorem bytes_of_served {σ : Type} {read : Option (Bytes × σ)} {s : σ}
    (h : (read.map fun (data, s) => (Answer.bytes data, s)) = some (a, s)) :
    ∃ data, a = .bytes data ∧ read = some (data, s) := by
  obtain ⟨⟨data, s'⟩, hr, heq⟩ := Option.map_eq_some_iff.1 h
  rw [Prod.mk.injEq] at heq
  obtain ⟨rfl, rfl⟩ := heq
  exact ⟨data, rfl, hr⟩

theorem serve?_write_closed (h : c.closed = true) (data : Bytes) :
    c.serve? (.write data) = some (.refused, c) := by
  simp [serve?, write?, h]

theorem serve?_write_open (h : c.closed = false) (data : Bytes) :
    ∃ d, c.serve? (.write data) = some (.written data.length, d) ∧
      d.content = c.content ++ data ∧ d.closed = false := by
  by_cases hd : data.isEmpty = true
  · refine ⟨c, by simp [serve?, write?, h, hd], ?_, h⟩
    rw [List.isEmpty_iff.1 hd, List.append_nil]
  · exact ⟨{ c with chunks := c.chunks ++ [data] }, by simp [serve?, write?, h, hd],
      by simp [content], h⟩

/-- What an answer has returned came off the front of what was kept, behind which came what the
request has added. -/
theorem served_content (h : c.serve? r = some (a, d)) :
    a.returned ++ d.content = c.content ++ Exchange.accepted (r, a) := by
  cases r with
  | write data =>
    cases hc : c.closed with
    | true =>
      rw [serve?_write_closed hc] at h
      cases h
      simp [Answer.returned, Exchange.accepted]
    | false =>
      obtain ⟨e, he, hcontent, -⟩ := serve?_write_open hc data
      rw [he] at h
      cases h
      exact hcontent
  | read size =>
    obtain ⟨data, rfl, hr⟩ := bytes_of_served h
    simpa [Answer.returned, Exchange.accepted] using (reads_of_read? hr).taken
  | readSome size =>
    obtain ⟨data, rfl, hr⟩ := bytes_of_served h
    simpa [Answer.returned, Exchange.accepted] using (reads_of_readSome? hr).taken
  | flush =>
    cases h
    simp [Answer.returned, Exchange.accepted]
  | close =>
    cases h
    simp [Answer.returned, Exchange.accepted]

theorem served_closed (h : c.serve? r = some (a, d)) :
    d.closed = true ↔ c.closed = true ∨ r = .close := by
  cases r with
  | write data =>
    cases hc : c.closed with
    | true =>
      rw [serve?_write_closed hc] at h
      cases h
      simp [hc]
    | false =>
      obtain ⟨e, he, -, hopen⟩ := serve?_write_open hc data
      rw [he] at h
      cases h
      simp [hopen]
  | read size =>
    obtain ⟨data, rfl, hr⟩ := bytes_of_served h
    simp [(reads_of_read? hr).closed]
  | readSome size =>
    obtain ⟨data, rfl, hr⟩ := bytes_of_served h
    simp [(reads_of_readSome? hr).closed]
  | flush =>
    cases h
    simp
  | close =>
    cases h
    simp

theorem serve?_of_closed (h : c.closed = true) (r : Request) : (c.serve? r).isSome = true := by
  have hready := ready_of_closed h
  cases r with
  | write data => rw [serve?_write_closed h, Option.isSome_some]
  | read size => cases hl : limit size <;> simp [serve?, read?, readSome?, hl, h, hready]
  | readSome size => simp [serve?, readSome?, hready]
  | flush => rfl
  | close => rfl

theorem end_of_served (h : c.serve? r = some (.bytes [], d)) (hr : r.wants = true) :
    c.ready = true ∧ c.content = [] := by
  cases r with
  | read size =>
    obtain ⟨data, hdata, hread⟩ := bytes_of_served h
    cases hdata
    have hreads := reads_of_read? hread
    exact ⟨hreads.ready, hreads.atEnd (limit_ne_zero (by simpa [Request.wants] using hr)) rfl⟩
  | readSome size =>
    obtain ⟨data, hdata, hread⟩ := bytes_of_served h
    cases hdata
    have hreads := reads_of_readSome? hread
    exact ⟨hreads.ready, hreads.atEnd (limit_ne_zero (by simpa [Request.wants] using hr)) rfl⟩
  | write data => cases hr
  | flush => cases hr
  | close => cases hr

/-! ### A run of requests -/

theorem Exchanges.content (h : Exchanges serve? c es d) :
    returned es ++ d.content = c.content ++ accepted es := by
  induction h with
  | nil c => simp [returned, accepted]
  | @cons c d e r a es served _ ih =>
    have hstep := served_content served
    simp only [returned, accepted, List.flatMap_cons, List.append_assoc] at ih ⊢
    rw [ih, ← List.append_assoc, hstep, List.append_assoc]

theorem Exchanges.closed (h : Exchanges serve? c es d) :
    d.closed = true ↔ c.closed = true ∨ Request.close ∈ requests es := by
  induction h with
  | nil c => simp [requests]
  | @cons c d e r a es served _ ih =>
    rw [ih, served_closed served]
    simp only [requests, List.map_cons, List.mem_cons, eq_comm (a := Request.close), or_assoc]

theorem Exchanges.accepted_of_closed (h : Exchanges serve? c es d) (hc : c.closed = true) :
    accepted es = [] := by
  induction h with
  | nil c => rfl
  | @cons c d e r a es served _ ih =>
    have hrest := ih ((served_closed served).2 (Or.inl hc))
    have hfirst : Exchange.accepted (r, a) = [] := by
      cases r with
      | write data =>
        rw [serve?_write_closed hc] at served
        cases served
        rfl
      | _ => rfl
    rw [accepted, List.flatMap_cons, hfirst]
    exact hrest

theorem Exchanges.returned_of_closed (h : Exchanges serve? c es d) (hc : c.closed = true)
    (he : c.content = []) : returned es = [] := by
  have hcontent := h.content
  rw [he, h.accepted_of_closed hc] at hcontent
  exact (List.append_eq_nil_iff.1 hcontent).1

end Channel
end PipelineShell
