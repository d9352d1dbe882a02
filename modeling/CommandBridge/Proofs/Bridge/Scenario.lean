import CommandBridge.Proofs.Bridge.AuditTrace
import CommandBridge.Proofs.Bridge.Bystander
import CommandBridge.Proofs.Bridge.Progress
import Mathlib.Data.List.Induction

/-! Scenarios, and how they go without one of the calls. -/
namespace CommandBridge

variable {σ ρ : Type}

/-- The number of a call when call `x` is not there. -/
def below (x id : Nat) : Nat := if id < x then id else id - 1

theorem above_below {x id : Nat} (h : id ≠ x) : above x (below x id) = id := by
  unfold above below
  by_cases hlt : id < x
  · simp [hlt]
  · rw [if_neg hlt, if_neg (by omega)]
    omega

/-- One thing of a scenario. What a bridge is not ready for does not happen. -/
inductive Happening (σ : Type) where
  | submit (r : Request)
  /-- A call goes on with the lock that was passed to it. -/
  | goOn (id : Nat)
  /-- The time of a call that waits for the endpoint has come. -/
  | expire (id : Nat)
  | cancel (id : Nat)
  | abandon (c : Connection)
  | elapse (time : Nat)
  /-- The endpoint changes without being called. -/
  | change (f : σ → σ)
  /-- The schedule does what it does next. -/
  | proceed

namespace Happening

/-- The same without call `x`. -/
def without (x : Nat) : Happening σ → Option (Happening σ)
  | goOn id => if id = x then none else some (goOn (below x id))
  | expire id => if id = x then none else some (expire (below x id))
  | cancel id => if id = x then none else some (cancel (below x id))
  | e => some e

/-- The same, with the calls numbered anew. -/
def renumber (f : Nat → Nat) : Happening σ → Happening σ
  | goOn id => goOn (f id)
  | expire id => expire (f id)
  | cancel id => cancel (f id)
  | e => e

theorem of_without {x : Nat} {e : Happening σ} (h : e.without x = none) :
    e = goOn x ∨ e = expire x ∨ e = cancel x := by
  cases e with
  | goOn id | expire id | cancel id =>
    by_cases hid : id = x
    · simp [hid]
    · simp [without, hid] at h
  | _ => cases h

theorem renumber_of_without {x : Nat} {e e' : Happening σ} (h : e.without x = some e') :
    e'.renumber (above x) = e := by
  cases e with
  | goOn id | expire id | cancel id =>
    by_cases hid : id = x
    · simp [without, hid] at h
    · simp only [without, if_neg hid, Option.some.injEq] at h
      subst h
      simp [renumber, above_below hid]
  | _ =>
    cases h
    rfl

end Happening

namespace Bridge

def happen (s : Setup σ ρ) (b : Bridge σ ρ) : Happening σ → Bridge σ ρ
  | .submit r => b.submit s r
  | .goOn id => if id ∈ b.ready then goOn s { b with ready := b.ready.erase id } id else b
  | .expire id =>
    match (b.phase? id).bind Phase.due? with
    | some due => expire s { b with now := due } id
    | none => b
  | .cancel id => b.cancel id
  | .abandon c => b.abandon c
  | .elapse time => { b with now := time }
  | .change f => b.withRemote (f b.remote)
  | .proceed => b.proceed s

/-- Everything of a scenario happens, one thing after the other. -/
def play (s : Setup σ ρ) (b : Bridge σ ρ) (scenario : List (Happening σ)) : Bridge σ ρ :=
  scenario.foldl (happen s) b

section
variable {s : Setup σ ρ} {t : Target} {remote : σ} {b : Bridge σ ρ}

theorem step_happen (b : Bridge σ ρ) (e : Happening σ) :
    b.happen s e = b ∨ Step s (fun _ _ => True) b (b.happen s e) := by
  cases e with
  | submit r => exact .inr (.submit r)
  | goOn id =>
    show ite _ _ _ = b ∨ Step s _ b (ite _ _ _)
    split
    · exact .inr (.goOn ‹_›)
    · exact .inl rfl
  | expire id =>
    unfold happen
    dsimp only
    split
    · exact .inr (.expire ‹_›)
    · exact .inl rfl
  | cancel id => exact .inr (.cancel trivial)
  | abandon c => exact .inr (.abandon c)
  | elapse time => exact .inr (.elapse time)
  | change f => exact .inr (.remote _)
  | proceed => exact .inr (step_proceed b)

theorem play_concat (s : Setup σ ρ) (b : Bridge σ ρ) (scenario : List (Happening σ))
    (e : Happening σ) : b.play s (scenario ++ [e]) = (b.play s scenario).happen s e :=
  List.foldl_concat _ _ _ _

theorem play_append (s : Setup σ ρ) (b : Bridge σ ρ) (scenario scenario' : List (Happening σ)) :
    b.play s (scenario ++ scenario') = (b.play s scenario).play s scenario' :=
  List.foldl_append

/-- A scenario takes the bridge from one state in which no call runs to another. -/
theorem Visited.later_play (hv : Visited s (fun _ _ => True) t remote b none)
    (scenario : List (Happening σ)) :
    Later s (fun _ _ => True) (b, none) (b.play s scenario, none) := by
  induction scenario using List.reverseRecOn with
  | nil => exact .refl
  | append_singleton scenario e ih =>
    rw [play_concat]
    rcases step_happen (s := s) (b.play s scenario) e with he | he
    · rw [he]
      exact ih
    · exact ih.trans (he.later (Later.visited ih hv))

end

/-- The earlier of what was found before and of what call `y` waits for. -/
def sooner (best : Option (Nat × Nat)) (y : Call ρ × Nat) : Option (Nat × Nat) :=
  match y.1.phase.due?, best with
  | some due, some (least, _) => if due < least then some (due, y.2) else best
  | some due, none => some (due, y.2)
  | none, _ => best

theorem foldl_eraseIdx {α β : Type} {f : β → α → β} {l : List α} {x : Nat}
    (hx : ∀ y, l[x]? = some y → ∀ z, f z y = z) (z : β) :
    (l.eraseIdx x).foldl f z = l.foldl f z := by
  induction l generalizing x z with
  | nil => rfl
  | cons y l ih =>
    cases x with
    | zero =>
      show l.foldl f z = l.foldl f (f z y)
      rw [hx y rfl]
    | succ x =>
      apply ih
      intro y' hy'
      exact hx y' hy'

section
variable {x id : Nat} {extra : List (Nat × Event)} {b b' : Bridge σ ρ} {s : Setup σ ρ}

theorem nextDue?_eq (b : Bridge σ ρ) : b.nextDue? = b.calls.zipIdx.foldl sooner none := rfl

theorem foldl_sooner (x : Nat) (ys : List (Call ρ × Nat)) (best : Option (Nat × Nat)) :
    (ys.map fun y => (y.1, above x y.2)).foldl sooner (best.map fun y => (y.1, above x y.2)) =
      (ys.foldl sooner best).map fun y => (y.1, above x y.2) := by
  induction ys generalizing best with
  | nil => rfl
  | cons y ys ih =>
    have hy : sooner (best.map fun y => (y.1, above x y.2)) (y.1, above x y.2) =
        (sooner best y).map fun y => (y.1, above x y.2) := by
      unfold sooner
      cases y.1.phase.due? with
      | none => rfl
      | some due =>
        cases best with
        | none => rfl
        | some least =>
          show (if due < least.1 then _ else _) = Option.map _ (if due < least.1 then _ else _)
          split <;> rfl
    show List.foldl sooner (sooner _ _) _ = _
    rw [hy, ih]
    rfl

/-- The schedule never waits for call `x`. -/
theorem Without.nextDue? (h : b.Without x extra b') :
    b.nextDue? = b'.nextDue?.map fun y => (y.1, above x y.2) := by
  have hcalls : b'.calls.zipIdx.map (fun y => (y.1, above x y.2)) = b.calls.zipIdx.eraseIdx x := by
    apply List.ext_getElem?
    intro j
    rw [getElem?_eraseIdx_above]
    simp [List.getElem?_zipIdx, h.getElem? j, Function.comp_def]
  have hidle (y : Call ρ × Nat) (hy : b.calls.zipIdx[x]? = some y) (best : Option (Nat × Nat)) :
      sooner best y = best := by
    have hdue : y.1.phase.due? = none := by
      rw [List.getElem?_zipIdx, Option.map_eq_some_iff] at hy
      obtain ⟨c, hc, rfl⟩ := hy
      have hp : b.phase? x = some c.phase := by simp [Bridge.phase?, hc]
      rcases h.idle with hi | hi
      · rw [Option.some.inj (hp.symm.trans hi)]
        rfl
      · rw [Option.some.inj (hp.symm.trans hi)]
        rfl
    unfold sooner
    rw [hdue]
  rw [nextDue?_eq, nextDue?_eq, ← foldl_eraseIdx hidle, ← hcalls]
  exact foldl_sooner x b'.calls.zipIdx none

theorem Without.not_ready (h : b.Without x extra b') : x ∉ b.ready := by
  rw [h.ready]
  intro hx
  obtain ⟨j, -, hj⟩ := List.mem_map.mp hx
  exact above_ne x j hj

theorem Without.not_access (h : b.Without x extra b') :
    b.access.holder ≠ some x ∧ x ∉ b.access.waiting := by
  rw [h.access]
  constructor
  · intro hx
    obtain ⟨j, -, hj⟩ := Option.map_eq_some_iff.mp hx
    exact above_ne x j hj
  · intro hx
    obtain ⟨j, -, hj⟩ := List.mem_map.mp hx
    exact above_ne x j hj

theorem Without.not_turn (h : b.Without x extra b') : b.turn.holder ≠ some x := by
  rw [h.turn.holder]
  intro hx
  obtain ⟨j, -, hj⟩ := Option.map_eq_some_iff.mp hx
  exact above_ne x j hj

theorem Without.submit (h : b.Without x extra b') (r : Request) :
    (b.submit s r).Follows x extra (b'.submit s r) := by
  have ha := h.addCall r
  unfold Bridge.submit
  dsimp only
  rw [h.length]
  cases r with
  | invoke i =>
    dsimp only
    split
    · exact (ha.finish b'.calls.length _).follows
    · exact ha.withTurn _ fun h => h.takeTurn _
  | shutdown => exact (ha.record .shuttingDown).withTurn _ fun h => h.takeTurn _
  | session a => exact ha.waitToAct _ a
  | execute c i => exact ha.execute _ c i none
  | close c => exact ha.close _ c

theorem Without.goOn (h : b.Without x extra b') (id : Nat) :
    (Bridge.goOn s b (above x id)).Follows x extra (Bridge.goOn s b' id) := by
  unfold Bridge.goOn
  rw [h.phase? id]
  cases b'.phase? id with
  | none => exact h.follows
  | some ph =>
    cases ph with
    | queued => exact h.takeTurn id
    | waiting a => exact h.act id a
    | losing c e => exact h.failLost id c e
    | _ => exact h.follows

theorem Without.expire (h : b.Without x extra b') (id : Nat) :
    (Bridge.expire s b (above x id)).Follows x extra (Bridge.expire s b' id) := by
  unfold Bridge.expire
  rw [h.phase? id]
  cases b'.phase? id with
  | none => exact h.follows
  | some ph =>
    cases ph with
    | opening t k timer =>
      dsimp only
      rw [h.remote]
      split
      · exact (h.withRemote _).connected id t k _
      · exact h.handshakeTimedOut id t
    | executing c timer =>
      dsimp only
      rw [h.request? id, h.remote]
      cases b'.request? id with
      | none => exact h.follows
      | some r =>
        cases r with
        | invoke i =>
          dsimp only
          split
          · exact (h.withRemote _).executed id c _
          · exact h.lose id c _
        | execute c' i => exact (h.withRemote _).executed id c _
        | _ => exact h.follows
    | closing c rest timer =>
      dsimp only
      rw [h.remote]
      split
      · exact (h.withRemote _).closed id c rest _
      · exact (h.record (.closeTimedOut c)).closeAll id rest
    | _ => exact h.follows

theorem Without.giveUp (h : b.Without x extra b') (id : Nat) :
    (b.giveUp (above x id)).Without x extra (b'.giveUp id) := by
  unfold Bridge.giveUp
  rw [h.request? id, h.phase? id]
  cases b'.request? id with
  | none => exact h
  | some r =>
    cases r with
    | invoke i =>
      cases b'.phase? id with
      | none => exact h
      | some ph =>
        cases ph with
        | executing c timer => exact (h.record (.abandoned id c)).withSession (·.abandon c)
        | _ => exact h
    | _ => exact h

theorem Without.leaveAccess (h : b.Without x extra b') (id : Nat) :
    (b.leaveAccess (above x id)).Without x extra (b'.leaveAccess id) := by
  have hholder : b.access.holder = some (above x id) ↔ b'.access.holder = some id := by
    rw [h.access]
    exact Lock.holder_renumber (above_injective x)
  unfold Bridge.leaveAccess
  by_cases hh : b'.access.holder = some id
  · rw [if_pos hh, if_pos (hholder.mpr hh)]
    exact h.passAccess
  · rw [if_neg hh, if_neg fun h => hh (hholder.mp h)]
    exact { h with
      access := by
        rw [h.access]
        show Lock.mk _ ((b'.access.waiting.map (above x)).erase (above x id)) = _
        rw [← List.map_erase (above_injective x)]
        rfl }

theorem Without.leaveTurn (h : b.Without x extra b') (id : Nat) :
    (b.leaveTurn (above x id)).Follows x extra (b'.leaveTurn id) := by
  unfold Bridge.leaveTurn
  by_cases hh : b'.turn.holder = some id
  · rw [if_pos hh, if_pos (h.turn.holder_iff.mpr hh)]
    exact h.passTurn
  · rw [if_neg hh, if_neg fun h' => hh (h.turn.holder_iff.mp h')]
    exact Without.follows { h with turn := h.turn.erase id }

theorem Without.cancel (h : b.Without x extra b') (id : Nat) :
    (b.cancel (above x id)).Follows x extra (b'.cancel id) := by
  have hg := h.giveUp id
  have hr : ({ b.giveUp (above x id) with ready := b.ready.erase (above x id) } :
      Bridge σ ρ).Without x extra { b'.giveUp id with ready := b'.ready.erase id } :=
    { hg with
      ready := by
        rw [h.ready, ← List.map_erase (above_injective x)] }
  unfold Bridge.cancel
  rw [h.phase? id]
  cases b'.phase? id with
  | none => exact h.follows
  | some ph =>
    dsimp only
    split
    · exact h.follows
    · exact ((hr.leaveAccess id).leaveTurn id).setPhase id .cancelled

/-- Only call `x` itself notices when it is stopped. -/
theorem Without.cancel_self (h : b.Without x extra b') : (b.cancel x).Without x extra b' := by
  obtain ⟨hholder, hwaiting⟩ := h.not_access
  rcases h.idle with hp | hp
  · have hg : b.giveUp x = b := by
      unfold Bridge.giveUp
      rw [hp]
      split
      · rename_i he
        cases he
      · rfl
    have hready : ({ b.giveUp x with ready := b.ready.erase x } : Bridge σ ρ) = b := by
      rw [hg, List.erase_of_not_mem h.not_ready]
    have haccess : b.leaveAccess x = b := by
      unfold Bridge.leaveAccess
      rw [if_neg hholder, List.erase_of_not_mem hwaiting]
    have hturn : b.leaveTurn x =
        { b with turn := { b.turn with waiting := b.turn.waiting.erase x } } :=
      if_neg h.not_turn
    have hcancel : b.cancel x =
        ({ b with turn := { b.turn with waiting := b.turn.waiting.erase x } } :
          Bridge σ ρ).setPhase x .cancelled := by
      rw [cancel_queued hp, stopped, released, hready, haccess, hturn]
    rw [hcancel]
    exact { h with
      turn := h.turn.erase_self
      calls := (eraseIdx_modify b.calls x _).trans h.calls
      idle := by
        right
        rw [phase?_setPhase, if_pos rfl]
        exact congrArg (Option.map _) hp }
  · unfold Bridge.cancel
    rw [hp]
    exact h

theorem Without.wake (h : b.Without x extra b') : (b.wake s).Follows x extra (b'.wake s) := by
  unfold Bridge.wake
  rw [h.nextDue?]
  cases b'.nextDue? with
  | none => exact h.follows
  | some y => exact (h.atTime y.1).expire y.2

theorem Without.resume (h : b.Without x extra b') : (b.resume s).Follows x extra (b'.resume s) := by
  unfold Bridge.resume
  rw [h.ready]
  cases hr : b'.ready with
  | nil => exact h.follows
  | cons id rest =>
    have hrest : ({ b with ready := rest.map (above x) } : Bridge σ ρ).Without x extra
        { b' with ready := rest } := { h with ready := rfl }
    exact hrest.goOn id

theorem Without.proceed (h : b.Without x extra b') :
    (b.proceed s).Follows x extra (b'.proceed s) := by
  unfold Bridge.proceed
  rw [h.ready, List.isEmpty_map]
  split
  · exact h.wake
  · exact h.resume

/-- What happens to call `x` changes nothing else. -/
theorem Without.happen_own (h : b.Without x extra b') {e : Happening σ} (he : e.without x = none) :
    (b.happen s e).Without x extra b' := by
  rcases Happening.of_without he with rfl | rfl | rfl
  · show Without x extra (ite _ _ _) b'
    rw [if_neg h.not_ready]
    exact h
  · have hdue : (b.phase? x).bind Phase.due? = none := by
      rcases h.idle with hp | hp <;> rw [hp] <;> rfl
    unfold Bridge.happen
    dsimp only
    rw [hdue]
    exact h
  · exact h.cancel_self

/-- Everything else happens at both alike. -/
theorem Without.happen (h : b.Without x extra b') (e : Happening σ) :
    (b.happen s (e.renumber (above x))).Follows x extra (b'.happen s e) := by
  cases e with
  | submit r => exact h.submit r
  | goOn id =>
    have hmem : above x id ∈ b.ready ↔ id ∈ b'.ready := by
      rw [h.ready]
      exact List.mem_map_of_injective (above_injective x)
    have hr : ({ b with ready := b.ready.erase (above x id) } : Bridge σ ρ).Without x extra
        { b' with ready := b'.ready.erase id } :=
      { h with
        ready := by
          rw [h.ready, ← List.map_erase (above_injective x)] }
    show Follows x extra (ite _ _ _) (ite _ _ _)
    by_cases hm : id ∈ b'.ready
    · rw [if_pos hm, if_pos (hmem.mpr hm)]
      exact hr.goOn id
    · rw [if_neg hm, if_neg fun h => hm (hmem.mp h)]
      exact h.follows
  | expire id =>
    unfold Happening.renumber Bridge.happen
    dsimp only
    rw [h.phase? id]
    cases (b'.phase? id).bind Phase.due? with
    | none => exact h.follows
    | some due => exact (h.atTime due).expire id
  | cancel id => exact h.cancel id
  | abandon c => exact (h.withSession (·.abandon c)).follows
  | elapse time => exact (h.atTime time).follows
  | change f =>
    have hr := h.withRemote (f b'.remote)
    show Follows x extra (b.withRemote (f b.remote)) _
    rw [h.remote]
    exact hr.follows
  | proceed => exact h.proceed

/-- Without call `x` the same scenario leads to the same, as long as the call is not passed the
turn. -/
theorem Without.play (h : b.Without x extra b') {scenario : List (Happening σ)}
    (hx : ∀ part, part <+: scenario → (b.play s part).turn.holder ≠ some x) :
    (b.play s scenario).Without x extra (b'.play s (scenario.filterMap (·.without x))) := by
  induction scenario using List.reverseRecOn with
  | nil => exact h
  | append_singleton scenario e ih =>
    have hscenario := ih fun part hp => hx part (hp.trans (List.prefix_append _ _))
    have hholder := hx _ List.prefix_rfl
    rw [play_concat] at hholder ⊢
    rw [List.filterMap_append]
    cases he : e.without x with
    | none =>
      rw [List.filterMap_cons_none he, List.filterMap_nil, List.append_nil]
      exact hscenario.happen_own he
    | some e' =>
      rw [List.filterMap_cons_some he, List.filterMap_nil, play_concat]
      rw [← Happening.renumber_of_without he] at hholder ⊢
      exact hscenario.happen e' hholder

end

end Bridge

end CommandBridge
