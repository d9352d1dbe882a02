import CommandBridge.Proofs.Bridge.Sequential

/-! What a bridge at rest does when it is shut down, or asked for nothing. -/
namespace CommandBridge.Bridge

variable {σ ρ : Type} {s : Setup σ ρ} {b : Bridge σ ρ} {old : List (Call ρ)} {x : Session} {m : σ}
variable {i : Invocation}

/-- The call after the calls `old` has its answer, and no other call is under way. -/
structure Over (old : List (Call ρ)) (a : Answer ρ) (x : Session) (m : σ) (b : Bridge σ ρ) :
    Prop extends b.Resting where
  answer : b.answer? old.length = some a
  session : b.session = x
  remote : b.remote = m

theorem Concluded.over {r : Except Failure (Output ρ)} (h : Concluded old i r x m b) :
    Over old (.ofResult r) x m b :=
  { h.resting with answer := h.answer?, session := h.session, remote := h.remote }

theorem Over.comes {a : Answer ρ} (h : Over old a x m b) {n : Nat} :
    Comes s old.length (Over old a x m) n b := by
  have hphase : b.phase? old.length = some (.ended a) := by
    have ha := h.answer
    unfold Bridge.answer? at ha
    split at ha
    · cases ha
      assumption
    · cases ha
  exact .of_ended h.ready hphase rfl h

theorem Resting.over_finish (h : b.Resting) {q : Request} (a : Answer ρ) :
    Over b.calls a b.session b.remote ((b.addCall q).finish b.calls.length a) := by
  have hcalls : ((b.addCall q).finish b.calls.length a).calls = b.calls ++ [⟨q, .ended a⟩] := by
    simp [addCall, finish, setPhase, List.modify_eq_take_drop]
  refine { h with ended := ?_, answer := ?_, session := rfl, remote := rfl }
  · rw [hcalls]
    exact List.forall_mem_append.mpr ⟨h.ended, List.forall_mem_singleton.mpr rfl⟩
  · simp [Bridge.answer?, phase?, hcalls]

/-- Without a pipeline there is nothing to run. -/
theorem Resting.over_run_blank (h : b.Resting) (hi : i.pipeline = []) :
    Over b.calls (.records []) b.session b.remote (b.run s (.invoke i)) := by
  have hsubmit : b.submit s (.invoke i) =
      (b.addCall (.invoke i)).finish b.calls.length (.records []) :=
    if_pos (by rw [hi]; rfl)
  have hover := h.over_finish (q := .invoke i) (.records [])
  exact Comes.run (n := 0) (hsubmit ▸ hover.comes) (Nat.zero_le _)

namespace Newest

theorem allClosed (h : Newest old .shutdown m b) (ha : b.access = .free) (hx : b.session = x) :
    Over old .done x m (b.allClosed s old.length) := by
  have hturn : b.turn.pass = .free := by rw [h.turn]; rfl
  have hcalls : (b.passTurn.finish old.length .done).calls = old ++ [⟨.shutdown, .ended .done⟩] :=
    h.calls_setPhase (.ended .done)
  rw [Bridge.allClosed, h.request?]
  refine { ended := ?_, turn := hturn, access := ha, ready := ?_, answer := ?_, session := hx,
           remote := h.remote }
  · rw [hcalls]
    exact List.forall_mem_append.mpr ⟨h.ended, List.forall_mem_singleton.mpr rfl⟩
  · simp [passTurn, finish, Bridge.setPhase, hturn, h.ready, Lock.free]
  · simp [Bridge.answer?, Bridge.phase?, hcalls]

/-- Each of the connections is closed, with a moment for each. -/
theorem closeAll (h : Newest old .shutdown m b) (ha : b.access = .free) (hx : b.session = x)
    (cs : List Connection) :
    Comes s old.length (Over old .done x (s.closeAll m cs)) cs.length
      (b.closeAll s old.length cs) := by
  induction cs generalizing m b with
  | nil => exact (h.allClosed ha hx).comes
  | cons c rest ih =>
    refine h.closeAll_cons (fun _ => Request.noConfusion) fun b' h' hx' ha' => ?_
    exact ih h' (ha'.trans ha) (hx'.trans hx)

end Newest

/-- A shutdown that is submitted to a bridge at rest begins with what there is to close. -/
theorem Resting.submit_shutdown (h : b.Resting) : ∃ b',
    Newest b.calls .shutdown b.remote b' ∧ b'.access = .free ∧
      b'.session = b.session.retireAll.2 ∧
      b.submit s .shutdown = b'.closeAll s b.calls.length b.session.retireAll.1 := by
  have ht : b.turn.request b.calls.length = ⟨some b.calls.length, []⟩ := by rw [h.turn]; rfl
  have ha : b.access.request b.calls.length = ⟨some b.calls.length, []⟩ := by rw [h.access]; rfl
  have hp : (b.access.request b.calls.length).pass = .free := by rw [ha]; rfl
  let begun : Bridge σ ρ :=
    { (b.addCall .shutdown).record .shuttingDown with turn := b.turn.request b.calls.length }
  let entered : Bridge σ ρ := { begun with access := b.access.request b.calls.length }
  have h₁ : Newest b.calls .shutdown b.remote begun := ⟨h.ended, ⟨.queued, rfl⟩, ht, h.ready, rfl⟩
  have h₂ : Newest b.calls .shutdown b.remote entered := { h₁ with }
  have h₃ : Newest b.calls .shutdown b.remote ((entered.withSession b.session.retireAll.2).record
      (.handedOut b.calls.length b.session.retireAll.1)).passAccess :=
    { h₂ with
      ready := by
        simp [entered, begun, passAccess, withSession, Bridge.record, addCall, hp, h.ready,
          Lock.free] }
  refine ⟨_, h₃, hp, rfl, ?_⟩
  calc b.submit s .shutdown
      = begun.takeTurn s b.calls.length := if_pos (congrArg Lock.holder ht)
    _ = begun.waitToAct s b.calls.length .retireAll := by rw [takeTurn, h₁.request?]
    _ = entered.act s b.calls.length .retireAll := if_pos (congrArg Lock.holder ha)
    _ = entered.handOut s b.calls.length b.session.retireAll := rfl
    _ = _ := by rw [handOut, h₃.request?]

/-- What is retired or live is closed, one after the other. -/
theorem Resting.over_run_shutdown (h : b.Resting)
    (hr : b.session.retireAll.1.length ≤ timersPerCall * (b.calls.length + 1)) :
    Over b.calls .done b.session.retireAll.2 (s.closeAll b.remote b.session.retireAll.1)
      (b.run s .shutdown) := by
  obtain ⟨b', h', ha, hx, hsubmit⟩ := h.submit_shutdown (s := s)
  have hcomes := h'.closeAll (s := s) ha hx b.session.retireAll.1
  exact Comes.run (hsubmit ▸ hcomes) hr

end CommandBridge.Bridge
