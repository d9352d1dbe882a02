import CommandBridge.Proofs.Bridge.Connections
import CommandBridge.Proofs.Bridge.Deadlock
import Mathlib.Data.List.Perm.Subperm

/-! A call opens one connection at most, so a bridge never has more connections to close than it has
had calls. -/
namespace CommandBridge

variable {σ ρ : Type}

/-- The call does not come to the end of a handshake any more. -/
def Point.isPastHandshake (p : Point ρ) : Prop := p.rank < toLex (9, 0)

namespace Bridge

/-- All these calls are past their handshakes, and there is one for each connection that has been
opened. -/
structure OpenedBy (b : Bridge σ ρ) (f : Option (Nat × Point ρ)) (ids : List Nat) : Prop where
  nodup : ids.Nodup
  length : ids.length = (b.told Event.opened?).length
  past : ∀ id ∈ ids, ∃ p, b.spot f id = some p ∧ p.isPastHandshake

section
variable {s : Setup σ ρ} {mayStop : Bridge σ ρ → Nat → Prop} {t : Target} {remote : σ}
variable {b : Bridge σ ρ} {f : Option (Nat × Point ρ)} {m m' : Moment σ ρ} {id : Nat}

theorem Next.opened (hn : Next s mayStop m m') :
    m'.1.told Event.opened? = m.1.told Event.opened? ∨
      ∃ id t k name c, m.2 = some (id, .connected t k (.ok name)) ∧ m'.2 = some (id, .opened c) ∧
        m'.1.told Event.opened? = m.1.told Event.opened? ++ [c.id] := by
  cases hn with
  | start h => exact .inl (h.told rfl fun _ => rfl)
  | move h =>
    cases h.connections with
    | quiet _ ho => exact .inl ho
    | @install t k name c generation hp _ he hp' =>
      refine .inr ⟨_, t, k, name, c, by rw [hp], by rw [hp'], ?_⟩
      rw [told_append he]
      rfl
    | reuse _ _ _ _ he | drop _ _ he => exact .inl (congrArg (·.filterMap Event.opened?) he)
    | execute _ _ he | lose _ _ he =>
      left
      rw [told_append he]
      exact List.append_nil _
  | @stop b id =>
    rcases cancel_cases b id with he | ⟨ph, -, -, he⟩
    · exact .inl (by rw [he])
    · exact .inl (by rw [he, told_stopped fun _ _ => rfl])
  | park | abandon | elapse | remote => exact .inl rfl

theorem Next.isPastHandshake (hn : Next s mayStop m m') (hv : Visited s mayStop t remote m.1 m.2)
    {p : Point ρ} (hq : m.1.spot m.2 id = some p) (hp : p.isPastHandshake) :
    ∃ p', m'.1.spot m'.2 id = some p' ∧ p'.isPastHandshake := by
  obtain ⟨p', hq', hg⟩ := hn.spot hv hq
  refine ⟨p', hq', ?_⟩
  rcases hg.rank with rfl | hlt
  · exact hp
  · exact hlt.trans hp

theorem Visited.exists_openedBy (h : Visited s mayStop t remote b f) : ∃ ids, b.OpenedBy f ids := by
  suffices ∀ m, Later s mayStop (Bridge.new t remote, none) m → ∃ ids, m.1.OpenedBy m.2 ids from
    this (b, f) h.later
  intro m hl
  induction hl with
  | refl => exact ⟨[], List.nodup_nil, rfl, List.forall_mem_nil _⟩
  | @tail m₁ m₂ hl hn ih =>
    have hv : Visited s mayStop t remote m₁.1 m₁.2 := Later.visited hl .new
    obtain ⟨ids, hb⟩ := ih
    have hpast : ∀ id ∈ ids, ∃ p, m₂.1.spot m₂.2 id = some p ∧ p.isPastHandshake := by
      intro id hid
      obtain ⟨p, hq, hp⟩ := hb.past id hid
      exact hn.isPastHandshake hv hq hp
    rcases hn.opened with ho | ⟨id, t', k, name, c, hf, hf', ho⟩
    · exact ⟨ids, hb.nodup, ho ▸ hb.length, hpast⟩
    · -- the call that has just got its answer is not one of those before
      have hnew : id ∉ ids := by
        intro hid
        obtain ⟨p, hq, hp⟩ := hb.past id hid
        rw [hf, spot_running] at hq
        obtain rfl := Option.some.inj hq
        exact absurd hp (lt_irrefl _)
      have hopened : ∃ p, m₂.1.spot m₂.2 id = some p ∧ p.isPastHandshake := by
        refine ⟨.opened c, by rw [hf']; exact spot_running _ _ _, ?_⟩
        simp [Point.isPastHandshake, Point.rank, Prod.Lex.toLex_lt_toLex]
      refine ⟨id :: ids, List.nodup_cons.mpr ⟨hnew, hb.nodup⟩, ?_,
        List.forall_mem_cons.mpr ⟨hopened, hpast⟩⟩
      rw [ho, List.length_append, List.length_cons, hb.length]
      rfl

/-- There are not more connections than calls. -/
theorem Visited.opened_le (h : Visited s mayStop t remote b f) :
    (b.told Event.opened?).length ≤ b.calls.length := by
  obtain ⟨ids, hb⟩ := h.exists_openedBy
  have hids : ids ⊆ List.range b.calls.length := by
    intro id hid
    obtain ⟨p, hq, -⟩ := hb.past id hid
    obtain ⟨r, hr, -⟩ := h.suits id p hq
    exact List.mem_range.mpr (request?_lt hr)
  rw [← hb.length, ← List.length_range (n := b.calls.length)]
  exact (hb.nodup.subperm hids).length_le

theorem Visited.retired_le (h : Visited s mayStop t remote b f) :
    b.session.retired.length ≤ b.calls.length := by
  have hopened := h.opened_le
  have hkeeps : b.ledger.Keeps := h.ledger.keeps (Nat.le_refl 0)
  rw [told_opened?, List.length_map] at hopened
  exact Nat.le_trans (Nat.le_of_add_right_le hkeeps) hopened

end

end Bridge

end CommandBridge
