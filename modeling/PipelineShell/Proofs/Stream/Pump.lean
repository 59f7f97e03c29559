import PipelineShell.Stream.Pump

/-!
# What a pump hands over

With a sink that does not fail, `Pump.copy` hands over the whole content of its source, in order.
-/

namespace PipelineShell

/-- The sink takes some pieces in turn: each is written and flushed, and the sink still works. -/
inductive Sink.Takes {σ : Type} (sink : Sink σ) : List Bytes → σ → σ → Prop
  | nil (s : σ) : Takes sink [] s s
  | cons {piece : Bytes} {pieces : List Bytes} {s t u v : σ}
      (written : sink.write piece s = (t, true)) (flushed : sink.flush t = (u, true))
      (rest : Takes sink pieces u v) : Takes sink (piece :: pieces) s v

/-- The sink works in every state that has a property, and keeps it. -/
def Sink.Steady {σ : Type} (sink : Sink σ) (P : σ → Prop) : Prop :=
  ∀ (data : Bytes) (s : σ), P s →
    ∃ t u, sink.write data s = (t, true) ∧ sink.flush t = (u, true) ∧ P u

theorem Sink.Steady.takes {σ : Type} {sink : Sink σ} {P : σ → Prop} (h : sink.Steady P)
    {pieces : List Bytes} {s t : σ} (hs : P s) (ht : sink.Takes pieces s t) : P t := by
  induction ht with
  | nil s => exact hs
  | @cons piece pieces s t u v hw hf _ ih =>
    obtain ⟨t', u', hw', hf', hu⟩ := h piece s hs
    rw [hw, Prod.mk.injEq] at hw'
    obtain ⟨rfl, -⟩ := hw'
    rw [hf, Prod.mk.injEq] at hf'
    obtain ⟨rfl, -⟩ := hf'
    exact ih hu

namespace Pump
variable {ρ σ : Type}

theorem copy_eof (source : Source ρ) (sink : Sink σ) {r : ρ} (s : σ)
    (h : (source.read r).1 = []) : copy source sink r s = ((source.read r).2, s) := by
  rw [copy]
  simp only [h, ↓reduceDIte]

theorem copy_piece (source : Source ρ) (sink : Sink σ) {r : ρ} {s t u : σ}
    (h : (source.read r).1 ≠ []) (hw : sink.write (source.read r).1 s = (t, true))
    (hf : sink.flush t = (u, true)) :
    copy source sink r s = copy source sink (source.read r).2 u := by
  rw [copy]
  simp only [h, ↓reduceDIte, hw, hf]

theorem copy_break (source : Source ρ) (sink : Sink σ) {r : ρ} {s t : σ}
    (h : (source.read r).1 ≠ []) (hw : sink.write (source.read r).1 s = (t, false)) :
    copy source sink r s = ((source.read r).2, t) := by
  rw [copy]
  simp only [h, ↓reduceDIte, hw]

theorem copy_takes (source : Source ρ) {sink : Sink σ} {P : σ → Prop} (hsink : sink.Steady P)
    (r : ρ) {s : σ} (hs : P s) :
    ∃ pieces : List Bytes, pieces.flatten = source.content r ∧
      sink.Takes pieces s (copy source sink r s).2 := by
  -- each chunk leaves less to read
  induction hn : (source.content r).length using Nat.strongRecOn generalizing r s with
  | ind n ih =>
    have hsplit := source.content_read r
    by_cases h : (source.read r).1 = []
    · rw [copy_eof source sink s h, source.content_of_read_eq_nil r h]
      exact ⟨[], rfl, .nil s⟩
    · obtain ⟨t, u, hw, hf, hu⟩ := hsink (source.read r).1 s hs
      have hlt := source.length_content_lt h
      obtain ⟨pieces, hp, ht⟩ := ih _ (by omega) (source.read r).2 hu rfl
      rw [copy_piece source sink h hw hf]
      exact ⟨(source.read r).1 :: pieces, by rw [List.flatten_cons, hp, hsplit], .cons hw hf ht⟩

theorem copy_keeps {source : Source ρ} {sink : Sink σ} {P : σ → Prop}
    (hwrite : ∀ data s, P s → P (sink.write data s).1) (hflush : ∀ s, P s → P (sink.flush s).1)
    (r : ρ) {s : σ} (hs : P s) : P (copy source sink r s).2 := by
  induction hn : (source.content r).length using Nat.strongRecOn generalizing r s with
  | ind n ih =>
    by_cases h : (source.read r).1 = []
    · rw [copy_eof source sink s h]
      exact hs
    · have hw := hwrite (source.read r).1 s hs
      have hf := hflush _ hw
      have hlt := source.length_content_lt h
      rw [copy]
      rcases hsw : sink.write (source.read r).1 s with ⟨t, _ | _⟩
      · rw [hsw] at hw
        simpa only [h, ↓reduceDIte] using hw
      · rw [hsw] at hw hf
        rcases hsf : sink.flush t with ⟨u, _ | _⟩
        · rw [hsf] at hf
          simpa only [h, ↓reduceDIte, hsw, hsf] using hf
        · rw [hsf] at hf
          simp only [h, ↓reduceDIte, hsf]
          exact ih _ (by omega) _ hf rfl

end Pump

theorem Channel.content_ofBytes (data : Bytes) : (Channel.ofBytes data).content = data := by
  cases data with
  | nil => rfl
  | cons b bs => simp [Channel.ofBytes, Channel.content]

end PipelineShell
