import CommandBridge.Proofs.Bridge.Locks

/-! The locks of a bridge in every state that it can reach. -/
namespace CommandBridge

open Function

variable {σ ρ : Type}

/-- How a call with that request stands to the turn once it has gone on with it. -/
def Request.turnHold (r : Request) : Hold := if r.needsTurn then .has else .out

def Phase.stance (r : Request) : Phase ρ → Stance
  | queued => Stance.of .waits .out
  | waiting _ | losing _ _ => Stance.of r.turnHold .waits
  | opening _ _ _ => Stance.of r.turnHold .has
  | executing _ _ | closing _ _ _ => Stance.of r.turnHold .out
  | ended _ | cancelled => Stance.of .out .out

def Point.stance (r : Request) : Point ρ → Stance
  | turn => Stance.of .waits .out
  | act _ | connected _ _ _ | handshakeTimedOut _ | failLost _ _ => Stance.of r.turnHold .has
  | park ph => ph.stance r
  | approach _ | opened _ | notOpened _ | execute _ _ _ | executed _ _ | lose _ _ | conclude _ _
  | close _ | closeOwn _ | closed _ _ _ => Stance.of r.turnHold .out

@[simp] theorem Stance.of_turn (t a : Hold) : Stance.of t a .turn = t := rfl

@[simp] theorem Stance.of_access (t a : Hold) : Stance.of t a .access = a := rfl

@[simp] theorem Stance.update_turn (t a x : Hold) :
    update (Stance.of t a) .turn x = Stance.of x a := by
  funext g
  cases g <;> rfl

@[simp] theorem Stance.update_access (t a x : Hold) :
    update (Stance.of t a) .access x = Stance.of t x := by
  funext g
  cases g <;> rfl

theorem Request.turnHold_ne_waits (r : Request) : r.turnHold ≠ .waits := by
  unfold turnHold
  split <;> simp

namespace Bridge

def locks (b : Bridge σ ρ) : Gate → Lock
  | .turn => b.turn
  | .access => b.access

theorem locks_turn (b : Bridge σ ρ) (l : Lock) :
    ({ b with turn := l } : Bridge σ ρ).locks = update b.locks .turn l := by
  funext g
  cases g <;> rfl

theorem locks_access (b : Bridge σ ρ) (l : Lock) :
    ({ b with access := l } : Bridge σ ρ).locks = update b.locks .access l := by
  funext g
  cases g <;> rfl

def stances (b : Bridge σ ρ) (f : Option (Nat × Point ρ)) (j : Nat) : Stance :=
  match b.request? j, b.spot f j with
  | some r, some p => p.stance r
  | _, _ => Stance.of .out .out

/-- The calls that a lock was passed to, with the one that is about to take its turn. -/
def passed (b : Bridge σ ρ) : Option (Nat × Point ρ) → List Nat
  | some (id, .turn) => id :: b.ready
  | _ => b.ready

def InOrder (b : Bridge σ ρ) (f : Option (Nat × Point ρ)) : Prop :=
  Locks b.locks (b.passed f) (b.stances f)

section
variable {b b' : Bridge σ ρ} {id : Nat} {p p' : Point ρ} {r : Request}

theorem stances_running (hr : b.request? id = some r) :
    b.stances (some (id, p)) id = p.stance r := by simp [stances, hr, spot_running]

/-- A move changes no other stance. -/
theorem stances_move (hc : b'.calls = b.calls) (hr : b.request? id = some r) :
    b'.stances (some (id, p')) = update (b.stances (some (id, p))) id (p'.stance r) := by
  funext j
  by_cases hj : j = id
  · subst hj
    rw [update_self, stances_running ((request?_of_calls hc j).trans hr)]
  · simp only [stances, update_of_ne hj, spot_of_calls hc, request?_of_calls hc, spot_other hj]

theorem InOrder.same (h : b.InOrder (some (id, p))) (hr : b.request? id = some r)
    (hc : b'.calls = b.calls) (hl : b'.locks = b.locks)
    (hd : b'.passed (some (id, p')) = b.passed (some (id, p)))
    (hs : p'.stance r = p.stance r) : b'.InOrder (some (id, p')) := by
  have hst : b'.stances (some (id, p')) = b.stances (some (id, p)) := by
    rw [stances_move hc hr, hs, ← stances_running hr, update_eq_self]
  unfold InOrder
  rwa [hl, hd, hst]

/-- A move after which one lock, and the stance of the running call to it, have changed. -/
theorem inOrder_of_changed {g : Gate} {x : Hold} {ls : Gate → Lock} {ready : List Nat}
    (h : Locks ls ready (changed (b.stances (some (id, p))) id g x))
    (hr : b.request? id = some r) (hc : b'.calls = b.calls) (hl : b'.locks = ls)
    (hd : b'.passed (some (id, p')) = ready) (hs : p'.stance r = update (p.stance r) g x) :
    b'.InOrder (some (id, p')) := by
  unfold InOrder
  rw [hl, hd, stances_move hc hr, hs, ← stances_running hr]
  exact h

theorem InOrder.takeTurn (h : b.InOrder (some (id, .turn))) (hr : b.request? id = some r)
    (hc : b'.calls = b.calls) (hl : b'.locks = b.locks)
    (hd : b'.passed (some (id, p')) = b.ready) (hs : p'.stance r = Stance.of .has .out) :
    b'.InOrder (some (id, p')) := by
  have hm : b.stances (some (id, .turn)) id .turn = .waits := by rw [stances_running hr]; rfl
  have hh : b.turn.holder = some id := Locks.holder_of_ready h List.mem_cons_self hm
  refine inOrder_of_changed (Locks.take h hm hh) hr hc hl ?_ ?_
  · exact hd.trans (List.erase_cons_head id b.ready).symm
  · exact hs.trans (Stance.update_turn _ _ _).symm

theorem stance_ne_waits {x y : Hold} (hs : p.stance r = Stance.of x y) (hx : x ≠ .waits)
    (hy : y ≠ .waits) (hr : b.request? id = some r) (g : Gate) :
    b.stances (some (id, p)) id g ≠ .waits := by
  rw [stances_running hr, hs]
  cases g with
  | turn => exact hx
  | access => exact hy

theorem passed_of_stance {x y : Hold} (hs : p.stance r = Stance.of x y) (hx : x ≠ .waits) :
    b.passed (some (id, p)) = b.ready := by
  cases p with
  | turn => exact absurd (congrFun hs .turn).symm hx
  | _ => rfl

theorem InOrder.enter (h : b.InOrder (some (id, p))) (hr : b.request? id = some r)
    (hg : (b.access.request id).holder = some id) (hc : b'.calls = b.calls)
    (hl : b'.locks = update b.locks .access (b.access.request id))
    (hd : b'.passed (some (id, p')) = b.ready) (hs : p.stance r = Stance.of r.turnHold .out)
    (hs' : p'.stance r = Stance.of r.turnHold .has) : b'.InOrder (some (id, p')) := by
  have hw := stance_ne_waits (b := b) hs r.turnHold_ne_waits (by simp) hr
  have ho : b.stances (some (id, p)) id .access = .out := by rw [stances_running hr, hs]; rfl
  refine inOrder_of_changed (Locks.request_got h hw ho hg) hr hc hl ?_ ?_
  · rw [hd, passed_of_stance hs r.turnHold_ne_waits]
  · rw [hs, hs', Stance.update_access]

theorem InOrder.wait (h : b.InOrder (some (id, p))) (hr : b.request? id = some r)
    (hg : (b.access.request id).holder ≠ some id) (hc : b'.calls = b.calls)
    (hl : b'.locks = update b.locks .access (b.access.request id))
    (hd : b'.passed (some (id, p')) = b.ready) (hs : p.stance r = Stance.of r.turnHold .out)
    (hs' : p'.stance r = Stance.of r.turnHold .waits) : b'.InOrder (some (id, p')) := by
  have hw := stance_ne_waits (b := b) hs r.turnHold_ne_waits (by simp) hr
  have ho : b.stances (some (id, p)) id .access = .out := by rw [stances_running hr, hs]; rfl
  refine inOrder_of_changed (Locks.request_waits h hw ho hg) hr hc hl ?_ ?_
  · rw [hd, passed_of_stance hs r.turnHold_ne_waits]
  · rw [hs, hs', Stance.update_access]

theorem InOrder.passAccess (h : b.InOrder (some (id, p))) (hr : b.request? id = some r)
    (hc : b'.calls = b.calls) (hl : b'.locks = update b.locks .access b.access.pass)
    (hd : b'.passed (some (id, p')) = b.ready ++ b.access.pass.holder.toList)
    (hs : p.stance r = Stance.of r.turnHold .has) (hs' : p'.stance r = Stance.of r.turnHold .out) :
    b'.InOrder (some (id, p')) := by
  have hw := stance_ne_waits (b := b) hs r.turnHold_ne_waits (by simp) hr
  have hm : b.stances (some (id, p)) id .access = .has := by rw [stances_running hr, hs]; rfl
  refine inOrder_of_changed (Locks.pass h hw hm) hr hc hl ?_ ?_
  · rw [hd, passed_of_stance hs r.turnHold_ne_waits]
    rfl
  · rw [hs, hs', Stance.update_access]

theorem InOrder.passTurn (h : b.InOrder (some (id, p))) (hr : b.request? id = some r)
    (hc : b'.calls = b.calls) (hl : b'.locks = update b.locks .turn b.turn.pass)
    (hd : b'.passed (some (id, p')) = b.ready ++ b.turn.pass.holder.toList)
    (hs : p.stance r = Stance.of .has .out) (hs' : p'.stance r = Stance.of .out .out) :
    b'.InOrder (some (id, p')) := by
  have hw := stance_ne_waits (b := b) hs (by simp) (by simp) hr
  have hm : b.stances (some (id, p)) id .turn = .has := by rw [stances_running hr, hs]; rfl
  refine inOrder_of_changed (Locks.pass h hw hm) hr hc hl ?_ ?_
  · rw [hd, passed_of_stance hs (by simp)]
    rfl
  · rw [hs, hs', Stance.update_turn]

theorem Request.turnHold_of_needsTurn (h : r.needsTurn = true) : r.turnHold = .has := by
  simp [Request.turnHold, h]

/-- Only the caller of an action gets its answer. -/
theorem Request.turnHold_of_answer {a : SessionAction} {x : Session} {answer : Answer ρ}
    (hw : r.Wants a) (h : a.answer? x = some answer) : r.turnHold = .out := by
  cases r with
  | session => rfl
  | invoke => obtain ⟨-, rfl | rfl⟩ := hw <;> simp [SessionAction.answer?] at h
  | shutdown =>
    cases hw
    simp [SessionAction.answer?] at h
  | execute | close => cases hw

theorem Moves.inOrder {s : Setup σ ρ} (h : Moves s id b p b' p') (hr : b.request? id = some r)
    (hp : p.Suits r) (ho : b.InOrder (some (id, p))) : b'.InOrder (some (id, p')) := by
  have hc := h.calls
  cases h with
  | start hi =>
    exact ho.takeTurn hr hc rfl rfl (by simp [Point.stance, Request.turnHold_of_needsTurn hp])
  | shutDown =>
    exact ho.takeTurn hr hc rfl rfl (by simp [Point.stance, Request.turnHold_of_needsTurn hp])
  | enter hg | lose hg => exact ho.enter hr hg hc (locks_access _ _) rfl rfl rfl
  | wait hg | loseLater hg => exact ho.wait hr hg hc (locks_access _ _) rfl rfl rfl
  | serve ha =>
    refine ho.passAccess hr hc (locks_access _ _) rfl rfl ?_
    rw [Request.turnHold_of_answer hp ha]
    rfl
  | handOut h hi =>
    refine ho.passAccess hr hc (locks_access _ _) rfl rfl ?_
    obtain ⟨a, hi⟩ := hi
    cases hr.symm.trans hi
    rfl
  | collect | reuse | refuse | install | fail | timeOut | failLost =>
    exact ho.passAccess hr hc (locks_access _ _) rfl rfl rfl
  | failOther hi =>
    obtain ⟨i, rfl, -⟩ := hp
    exact absurd hr (hi i)
  | conclude =>
    obtain ⟨rfl, hi⟩ := hp
    refine ho.passTurn hr hc (locks_turn _ _) rfl ?_ rfl
    simp [Point.stance, Request.turnHold, Request.needsTurn, hi]
  | leave =>
    refine ho.passTurn hr hc (locks_turn _ _) rfl ?_ rfl
    simp [Point.stance, Request.turnHold_of_needsTurn hp]
  | _ =>
    refine ho.same hr hc rfl rfl ?_
    cases r <;> simp_all [Point.Suits, Request.Wants, Request.Runs, Request.needsTurn,
      Request.turnHold, Point.stance, Phase.stance]

theorem stances_start {s : Setup σ ρ} (h : Starts s b b' id p) (hr : b'.request? id = some r) :
    b'.stances (some (id, p)) = update (b.stances none) id (p.stance r) := by
  funext j
  by_cases hj : j = id
  · subst hj
    rw [update_self, stances_running hr]
  · obtain ⟨ho, hq⟩ := h.other hj
    simp [stances, update_of_ne hj, ho, hq]

theorem stances_new (b : Bridge σ ρ) : b.stances none b.calls.length = Stance.of .out .out := by
  simp [stances, request?]

theorem stances_resting {ph : Phase ρ} (hr : b.request? id = some r) (hp : b.phase? id = some ph) :
    b.stances none id = ph.stance r := by
  simp [stances, hr, spot, hp, Point.stance]

theorem InOrder.startSame {s : Setup σ ρ} (h : b.InOrder none) (hs : Starts s b b' id p)
    (hr : b'.request? id = some r) (hl : b'.locks = b.locks)
    (hd : (b'.passed (some (id, p))).Perm b.ready) (hst : p.stance r = b.stances none id) :
    b'.InOrder (some (id, p)) := by
  unfold InOrder at h ⊢
  rw [hl, stances_start hs hr, hst, update_eq_self]
  exact h.perm hd.symm

theorem inOrder_of_start {s : Setup σ ρ} {g : Gate} {x : Hold} {ls : Gate → Lock}
    {ready : List Nat} (h : Locks ls ready (changed (b.stances none) id g x))
    (hs : Starts s b b' id p) (hr : b'.request? id = some r) (hl : b'.locks = ls)
    (hd : b'.passed (some (id, p)) = ready) (hst : p.stance r = update (b.stances none id) g x) :
    b'.InOrder (some (id, p)) := by
  unfold InOrder
  rw [hl, hd, stances_start hs hr, hst]
  exact h

/-- A call goes on with the session that was passed to it. -/
theorem InOrder.startAtSession {s : Setup σ ρ} {ph : Phase ρ} (h : b.InOrder none)
    (hs : Starts s b b' id p) (hr : b.request? id = some r) (hr' : b'.request? id = some r)
    (hp : b.phase? id = some ph) (hm : id ∈ b.ready) (hl : b'.locks = b.locks)
    (hd : b'.passed (some (id, p)) = b.ready.erase id)
    (hph : ph.stance r = Stance.of r.turnHold .waits)
    (hst : p.stance r = Stance.of r.turnHold .has) : b'.InOrder (some (id, p)) := by
  have hold : b.stances none id = Stance.of r.turnHold .waits :=
    (stances_resting hr hp).trans hph
  have hw : b.stances none id .access = .waits := by rw [hold]; rfl
  have hh : b.access.holder = some id := Locks.holder_of_ready h hm hw
  refine inOrder_of_start (Locks.take h hw hh) hs hr' hl hd ?_
  rw [hst, hold, Stance.update_access]

theorem Starts.inOrder {s : Setup σ ρ} (h : Starts s b b' id p) (hb : b.AllSuit none)
    (ho : b.InOrder none) : b'.InOrder (some (id, p)) := by
  have hs := h
  obtain ⟨r, hr', hsuit⟩ := h.suits hb
  have out (g : Gate) : b.stances none b.calls.length g = .out := by
    rw [stances_new]
    cases g <;> rfl
  have fresh (g : Gate) : b.stances none b.calls.length g ≠ .waits := by simp [out]
  cases h with
  | skip | approach | execute | close =>
    refine ho.startSame hs hr' rfl (List.Perm.refl _) ?_
    cases (request?_addCall _ _).symm.trans hr'
    exact (stances_new b).symm
  | takeTurn hn h =>
    refine inOrder_of_start (Locks.request_passed ho fresh (out .turn) h) hs hr'
      (locks_turn _ _) rfl ?_
    rw [stances_new, Stance.update_turn]
    rfl
  | queue hn h =>
    refine inOrder_of_start (Locks.request_waits ho fresh (out .turn) h) hs hr'
      (locks_turn _ _) rfl ?_
    rw [stances_new, Stance.update_turn]
    rfl
  | queued hm hp =>
    exact ho.startSame hs hr' rfl (List.perm_cons_erase hm).symm (stances_resting hr' hp).symm
  | waiting hm hp => exact ho.startAtSession hs hr' hr' hp hm rfl rfl rfl rfl
  | losing hm hp => exact ho.startAtSession hs hr' hr' hp hm rfl rfl rfl rfl
  | connected hp | handshakeTimedOut hp | executed hp | executedOwn hp | executionTimedOut hp
  | closed hp | closeTimedOut hp =>
    exact ho.startSame hs hr' rfl (List.Perm.refl _) (stances_resting hr' hp).symm

theorem stopped_locks (b : Bridge σ ρ) (id : Nat) :
    (b.stopped id).locks = fun g => (b.locks g).leave id := by
  have hg : (b.giveUp id).locks = b.locks := by
    unfold giveUp
    split <;> rfl
  rw [← hg]
  funext g
  unfold stopped released leaveTurn leaveAccess Lock.leave
  cases g <;> dsimp only <;> split <;> split <;>
    simp_all [locks, setPhase, Bridge.passTurn, Bridge.passAccess]

theorem stopped_ready (b : Bridge σ ρ) (id : Nat) :
    (b.stopped id).ready = b.ready.erase id ++ b.access.next id ++ b.turn.next id := by
  have ht : (b.giveUp id).turn = b.turn := by
    unfold giveUp
    split <;> rfl
  have ha : (b.giveUp id).access = b.access := by
    unfold giveUp
    split <;> rfl
  rw [← ht, ← ha]
  unfold stopped released leaveTurn leaveAccess Lock.next
  dsimp only
  split <;> split <;> simp_all [setPhase, Bridge.passTurn, Bridge.passAccess]

theorem stances_park {ph : Phase ρ} (hr : b.request? id = some r) :
    (b.setPhase id ph).stances none = b.stances (some (id, .park ph)) := by
  funext j
  simp only [stances, spot_setPhase hr, request?_setPhase]

theorem stances_stopped {ph : Phase ρ} (hr : b.request? id = some r)
    (hp : b.phase? id = some ph) :
    (b.stopped id).stances none = update (b.stances none) id fun _ => .out := by
  funext j
  simp only [stances, spot_stopped hp, request?_stopped]
  by_cases hj : j = id
  · subst hj
    simp only [hr, spot_running, update_self]
    funext g
    cases g <;> rfl
  · simp only [spot_other hj, update_of_ne hj]
    rfl

theorem InOrder.stop {ph : Phase ρ} (h : b.InOrder none) (hr : b.request? id = some r)
    (hp : b.phase? id = some ph) : (b.stopped id).InOrder none := by
  unfold InOrder
  rw [stopped_locks, stances_stopped hr hp]
  by_cases hw : b.stances none id .turn = .waits
  · have ha : b.stances none id .access ≠ .waits := fun ha =>
      nomatch Locks.single h id .turn .access hw ha
    refine (Locks.leave_both h (fun g => ?_) (by decide : Gate.access ≠ .turn) ha).perm ?_
    · cases g <;> simp
    · show List.Perm _ (b.stopped id).ready
      rw [stopped_ready, List.append_assoc, List.append_assoc]
      exact List.perm_append_comm.append_left _
  · refine (Locks.leave_both h (fun g => ?_) (by decide : Gate.turn ≠ .access) hw).perm ?_
    · cases g <;> simp
    · show List.Perm _ (b.stopped id).ready
      rw [stopped_ready]
      exact List.Perm.refl _

theorem Visited.inOrder {s : Setup σ ρ} {mayStop : Bridge σ ρ → Nat → Prop} {t : Target}
    {remote : σ} {f : Option (Nat × Point ρ)} (h : Visited s mayStop t remote b f) :
    b.InOrder f := by
  induction h with
  | new =>
    have hst : ∀ j, (Bridge.new t remote : Bridge σ ρ).stances none j = Stance.of .out .out := by
      simp [stances, request?, Bridge.new]
    refine ⟨fun g => ?_, List.nodup_nil, ?_, by simp [passed, Bridge.new], ?_⟩
    · cases g <;> exact Lock.orderly_free fun j => by rw [hst]; rfl
    · intro j g g' hg
      cases g <;> simp [hst] at hg
    · intro j g hg
      cases g <;> simp [hst] at hg
  | start h hs ih => exact hs.inOrder h.suits ih
  | @move b b' id p p' h hm ih =>
    obtain ⟨r, hr, hp⟩ := h.suits id p (spot_running b id p)
    exact hm.inOrder hr hp ih
  | @park b id ph h ih =>
    obtain ⟨r, hr, -⟩ := h.suits id (.park ph) (spot_running b id _)
    unfold InOrder
    rw [stances_park hr]
    exact ih
  | @stop b id h hs ih =>
    rcases cancel_cases b id with he | ⟨ph, hp, -, he⟩
    · rwa [he]
    · obtain ⟨r, hr, -⟩ := h.suits id (.park ph) (spot_resting hp)
      rw [he]
      exact ih.stop hr hp
  | abandon h c ih => exact ih
  | elapse h time ih => exact ih
  | remote h remote ih => exact ih

theorem Visited.stance_of_phase {s : Setup σ ρ} {mayStop : Bridge σ ρ → Nat → Prop} {t : Target}
    {remote : σ} {ph : Phase ρ} (h : Visited s mayStop t remote b none)
    (hp : b.phase? id = some ph) :
    ∃ r, b.request? id = some r ∧ b.stances none id = ph.stance r := by
  obtain ⟨r, hr, -⟩ := h.suits id (.park ph) (spot_resting hp)
  exact ⟨r, hr, stances_resting hr hp⟩

end

end Bridge

end CommandBridge
