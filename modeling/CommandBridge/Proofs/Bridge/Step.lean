import CommandBridge.Bridge.Schedule

/-! Everything that can happen at a bridge, in any order. The schedule takes only such steps. -/
namespace CommandBridge.Bridge

variable {σ ρ : Type}

/-- One thing that happens at a bridge. Calls that a lock was passed to go on in any order, calls
that wait for the endpoint go on in any order too, and `mayStop` tells which calls may be
stopped. -/
inductive Step (s : Setup σ ρ) (mayStop : Bridge σ ρ → Nat → Prop) :
    Bridge σ ρ → Bridge σ ρ → Prop where
  | submit {b : Bridge σ ρ} (r : Request) : Step s mayStop b (b.submit s r)
  | goOn {b : Bridge σ ρ} {id : Nat} (h : id ∈ b.ready) :
      Step s mayStop b (goOn s { b with ready := b.ready.erase id } id)
  | expire {b : Bridge σ ρ} {id due : Nat} (h : (b.phase? id).bind Phase.due? = some due) :
      Step s mayStop b (expire s { b with now := due } id)
  | cancel {b : Bridge σ ρ} {id : Nat} (h : mayStop b id) : Step s mayStop b (b.cancel id)
  | abandon {b : Bridge σ ρ} (c : Connection) : Step s mayStop b (b.abandon c)
  | elapse {b : Bridge σ ρ} (time : Nat) : Step s mayStop b { b with now := time }
  /-- The endpoint changes without being called. -/
  | remote {b : Bridge σ ρ} (remote : σ) : Step s mayStop b (b.withRemote remote)

/-- The states of a bridge that begins with target `t` and an endpoint in state `remote`. -/
inductive Reachable (s : Setup σ ρ) (mayStop : Bridge σ ρ → Nat → Prop) (t : Target)
    (remote : σ) : Bridge σ ρ → Prop where
  | new : Reachable s mayStop t remote (new t remote)
  | step {b b' : Bridge σ ρ} (h : Reachable s mayStop t remote b) (hs : Step s mayStop b b') :
      Reachable s mayStop t remote b'

theorem due_of_nextDue {b : Bridge σ ρ} {due id : Nat} (h : b.nextDue? = some (due, id)) :
    (b.phase? id).bind Phase.due? = some due := by
  let sound (best : Option (Nat × Nat)) : Prop :=
    ∀ due id, best = some (due, id) → (b.phase? id).bind Phase.due? = some due
  have hsound : sound b.nextDue? := by
    refine List.foldlRecOn (motive := sound) _ _ (fun _ _ h => by simp at h) fun best hb x hm => ?_
    have hx : b.phase? x.2 = some x.1.phase := by
      simp [phase?, List.mem_zipIdx_iff_getElem?.mp hm]
    intro due id hd
    dsimp only at hd
    split at hd
    · split at hd
      · obtain ⟨rfl, rfl⟩ := Prod.mk.inj (Option.some.inj hd)
        simp [*]
      · exact hb _ _ hd
    · obtain ⟨rfl, rfl⟩ := Prod.mk.inj (Option.some.inj hd)
      simp [*]
    · exact hb _ _ hd
  exact hsound due id h

theorem isSome_foldl {α β : Type} {go : Option β → α → Option β} {x : α} {xs : List α}
    (hg : ∀ best y, best.isSome → (go best y).isSome) (hx : ∀ best, (go best x).isSome)
    (hm : x ∈ xs) (best : Option β) : (xs.foldl go best).isSome := by
  induction xs generalizing best with
  | nil => simp at hm
  | cons y xs ih =>
    rcases List.mem_cons.mp hm with rfl | hm
    · refine List.foldlRecOn (motive := fun b => b.isSome) xs go (hx best) fun b hb z _ => ?_
      exact hg b z hb
    · exact ih hm (go best y)

theorem exists_nextDue {b : Bridge σ ρ} {due id : Nat}
    (h : (b.phase? id).bind Phase.due? = some due) : ∃ x, b.nextDue? = some x := by
  obtain ⟨ph, hp, hd⟩ := Option.bind_eq_some_iff.mp h
  obtain ⟨c, hc, rfl⟩ := Option.map_eq_some_iff.mp hp
  have hm : (c, id) ∈ b.calls.zipIdx := List.mem_zipIdx_iff_getElem?.mpr hc
  refine Option.isSome_iff_exists.mp (isSome_foldl (fun best y hb => ?_) (fun best => ?_) hm none)
  · dsimp only
    split
    · split <;> rfl
    · rfl
    · exact hb
  · cases best with
    | none => simp [hd]
    | some least =>
      simp only [hd]
      split <;> rfl

section
variable {s : Setup σ ρ} {mayStop : Bridge σ ρ → Nat → Prop} {t : Target} {remote : σ}
variable {b : Bridge σ ρ}

theorem step_resume (b : Bridge σ ρ) : Step s mayStop b (b.resume s) := by
  unfold Bridge.resume
  split
  · exact .elapse b.now
  · rename_i id rest hr
    have hg : Step s mayStop b _ := .goOn (by simp [hr] : id ∈ b.ready)
    simpa only [hr, List.erase_cons_head] using hg

theorem step_wake (b : Bridge σ ρ) : Step s mayStop b (b.wake s) := by
  unfold Bridge.wake
  split
  · rename_i hd
    exact .expire (due_of_nextDue hd)
  · exact .elapse b.now

theorem Reachable.resume (h : Reachable s mayStop t remote b) :
    Reachable s mayStop t remote (b.resume s) := h.step (step_resume b)

theorem Reachable.wake (h : Reachable s mayStop t remote b) :
    Reachable s mayStop t remote (b.wake s) := h.step (step_wake b)

theorem Reachable.settle (h : Reachable s mayStop t remote b) :
    Reachable s mayStop t remote (b.settle s) := by
  unfold Bridge.settle
  induction locksPerCall * b.calls.length generalizing b with
  | zero => exact h
  | succ n ih =>
    rw [settleWithin]
    split
    · exact h
    · exact ih h.resume

theorem Reachable.await (h : Reachable s mayStop t remote b) (id : Nat) :
    Reachable s mayStop t remote (b.await s id) := by
  unfold Bridge.await
  replace h := h.settle
  generalize b.settle s = c at h
  induction timersPerCall * b.calls.length generalizing c with
  | zero => exact h
  | succ n ih =>
    rw [awaitWithin]
    split
    · exact h
    · exact ih _ h.wake.settle

theorem Reachable.passTime (h : Reachable s mayStop t remote b) (ms : Nat) :
    Reachable s mayStop t remote (b.passTime s ms) := by
  unfold Bridge.passTime
  replace h := h.settle
  generalize b.settle s = c at h
  induction timersPerCall * b.calls.length generalizing c with
  | zero => exact h.step (.elapse _)
  | succ n ih =>
    rw [passTimeWithin]
    split
    · exact ih _ h.wake.settle
    · exact h.step (.elapse _)

/-- A call that is submitted and waited for takes only such steps. -/
theorem Reachable.run (h : Reachable s mayStop t remote b) (r : Request) :
    Reachable s mayStop t remote (b.run s r) :=
  (h.step (.submit r)).await _

end

/-- An endpoint that numbers its connections and takes a second for each pipeline. -/
def countingEndpoint : Endpoint Nat Unit where
  connect _ _ n := (n + 1, .now (.ok (toString n)))
  connected _ _ n := (n + 1, .ok (toString n))
  execute _ _ n := (n, .later (some 1000))
  executed _ _ n := (n, .ok ⟨[()], []⟩)
  close _ n := (n, .now (.ok none))
  closed _ n := (n, .ok none)

def countingSetup : Setup Nat Unit := ⟨countingEndpoint, 30000, 5000⟩

def localTarget : Target :=
  ⟨⟨"http".toList, [], [], some "localhost".toList, none, .segments [], none, none⟩, "", .basic⟩

/-- A pipeline of one stage. -/
def singleStage : Invocation := ⟨[⟨"Get-Mailbox", []⟩], .empty⟩

end CommandBridge.Bridge
