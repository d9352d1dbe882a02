import CommandBridge.Proofs.Bridge.Waits

/-! The calls that set the target and the credential of a session take effect in the order in which
they were made: those that have are followed by those in the line for the session. -/
namespace CommandBridge

variable {σ ρ : Type}

/-- What a session opens connections with. -/
structure Settings where
  target : Target
  credential : Option Credential

/-- One thing that a call can set. -/
inductive Setting where
  | target (target : Target)
  | credential (credential : Option Credential)

def Setting.apply : Setting → Settings → Settings
  | target t, x => { x with target := t }
  | credential k, x => { x with credential := k }

/-- The settings of a session that begins with target `t`, after one thing after the other. -/
def Settings.after (t : Target) (ys : List Setting) : Settings :=
  ys.foldl (fun x y => y.apply x) ⟨t, none⟩

theorem Settings.after_append (t : Target) (ys : List Setting) (y : Setting) :
    Settings.after t (ys ++ [y]) = y.apply (Settings.after t ys) := by
  simp [Settings.after]

def SessionAction.setting? : SessionAction → Option Setting
  | setCredential k => some (.credential (some k))
  | clearCredential => some (.credential none)
  | setTarget t => some (.target t)
  | _ => none

def Request.setting? : Request → Option Setting
  | session a => a.setting?
  | _ => none

/-- Only the caller of an action sets what the action sets. -/
theorem Request.setting?_of_wants {r : Request} {a : SessionAction} (h : r.Wants a) :
    r.setting? = a.setting? := by
  cases r with
  | session => exact congrArg SessionAction.setting? h.symm
  | invoke => obtain ⟨-, rfl | rfl⟩ := h <;> rfl
  | shutdown =>
    cases h
    rfl
  | execute | close => cases h

theorem Request.setting?_of_needsTurn {r : Request} (h : r.needsTurn = true) :
    r.setting? = none := by
  cases r with
  | session => simp [needsTurn] at h
  | _ => rfl

theorem SessionAction.setting?_of_taken {a : SessionAction} {x : Session} {cs : List Connection}
    (h : a.taken? x = some cs) : a.setting? = none := by
  cases a with
  | takeRetired | retireAll => rfl
  | _ => simp [taken?] at h

namespace Session

def settings (x : Session) : Settings := ⟨x.target, x.credential⟩

theorem settings_discardAbandoned (x : Session) : x.discardAbandoned.settings = x.settings := by
  unfold discardAbandoned
  split <;> rfl

theorem settings_invalidate (x : Session) (c : Connection) :
    (x.invalidate c).settings = x.settings := by
  unfold invalidate
  split <;> rfl

theorem settings_update (x : Session) (a : SessionAction) :
    (a.update x).settings = a.setting?.elim x.settings (·.apply x.settings) := by
  cases a with
  | invalidate c => exact x.settings_invalidate c
  | ensureOpen | isOpen | takeRetired => exact x.settings_discardAbandoned
  | _ => rfl

end Session

def Point.isCancelled : Point ρ → Bool
  | park .cancelled => true
  | _ => false

namespace Lock
variable {l : Lock} {hold : Nat → Hold} {id : Nat}

theorem Orderly.line_leave_eq_filter (h : l.Orderly hold) :
    (l.leave id).line = l.line.filter (· != id) :=
  (line_leave l id).trans (List.Nodup.erase_eq_filter h.nodup id)

theorem line_pass (l : Lock) : l.pass.line = l.waiting := by
  unfold line pass
  cases l.waiting <;> rfl

/-- The call that has the lock is the first in the line. -/
theorem line_of_holder (h : l.holder = some id) : l.line = id :: l.pass.line := by
  rw [line_pass, line, h]
  rfl

end Lock

/-- Where a call that sets something can be. -/
theorem Point.Suits.of_setting? {p : Point ρ} {r : Request} {y : Setting} (h : p.Suits r)
    (hy : r.setting? = some y) :
    (∃ a, (p = .approach a ∨ p = .act a) ∧ a.setting? = some y) ∨ ∃ ph, p = .park ph := by
  have no {r : Request} (hn : r.needsTurn = true) : r.setting? ≠ some y := by
    rw [Request.setting?_of_needsTurn hn]
    simp
  cases p with
  | approach a | act a => exact .inl ⟨a, by simp, Request.setting?_of_wants h ▸ hy⟩
  | park ph => exact .inr ⟨ph, rfl⟩
  | turn | close => exact absurd hy (no h)
  | connected | handshakeTimedOut | opened | notOpened =>
    exact nomatch (Request.setting?_of_wants h).symm.trans hy
  | lose | failLost =>
    obtain ⟨i, rfl, -⟩ := h
    simp [Request.setting?] at hy
  | conclude =>
    obtain ⟨rfl, -⟩ := h
    simp [Request.setting?] at hy
  | execute =>
    rcases h with ⟨rfl, -⟩ | ⟨⟨c, rfl⟩, -⟩ <;> simp [Request.setting?] at hy
  | executed =>
    rcases h with ⟨i, rfl, -⟩ | ⟨c, i, rfl⟩ <;> simp [Request.setting?] at hy
  | closeOwn =>
    obtain ⟨c, rfl⟩ := h
    simp [Request.setting?] at hy
  | closed =>
    rcases h with h | ⟨c, rfl⟩
    · exact absurd hy (no h)
    · simp [Request.setting?] at hy

namespace Bridge

/-- What a call sets, or is to set. -/
def setting? (b : Bridge σ ρ) (j : Nat) : Option Setting := (b.request? j).bind Request.setting?

/-- The calls that set something, in the order in which they were made, but for those that were
stopped before they could. -/
def setters (b : Bridge σ ρ) (f : Option (Nat × Point ρ)) : List Nat :=
  (List.range b.calls.length).filter fun j =>
    (b.setting? j).isSome && !(b.spot f j).any Point.isCancelled

/-- What the session is set to once all calls that have been made have had their effect. -/
def settings (b : Bridge σ ρ) (t : Target) : Settings :=
  .after t ((b.setters none).filterMap b.setting?)

/-- The call that comes for the session. -/
def comer : Option (Nat × Point ρ) → List Nat
  | some (id, .approach _) => [id]
  | _ => []

@[simp] theorem comer_none : comer (none : Option (Nat × Point ρ)) = [] := rfl

/-- The calls that have yet to set something, in the order in which they come to it. -/
def queue (b : Bridge σ ρ) (f : Option (Nat × Point ρ)) : List Nat :=
  (b.access.line ++ comer f).filter fun j => (b.setting? j).isSome

/-- The calls that have set something come before those that have yet to. -/
structure Served (b : Bridge σ ρ) (f : Option (Nat × Point ρ)) (t : Target) (done : List Nat) :
    Prop where
  ended : ∀ j ∈ done, ∃ x, b.spot f j = some (.park (.ended x))
  order : b.setters f = done ++ b.queue f
  settings : b.session.settings = .after t (done.filterMap b.setting?)

/-- What happens to the calls that set something. -/
inductive QueueMove (m m' : Moment σ ρ) : Prop where
  | stays (hs : m'.1.setters m'.2 = m.1.setters m.2) (hq : m'.1.queue m'.2 = m.1.queue m.2)
      (hx : m'.1.session.settings = m.1.session.settings)
  | joins (id : Nat) (hy : (m'.1.setting? id).isSome) (hid : id = m.1.calls.length)
      (hs : m'.1.setters m'.2 = m.1.setters m.2 ++ [id])
      (hq : m'.1.queue m'.2 = m.1.queue m.2 ++ [id])
      (hx : m'.1.session.settings = m.1.session.settings)
  | serves (id : Nat) (y : Setting) (x : Answer ρ) (hy : m.1.setting? id = some y)
      (hs : m'.1.setters m'.2 = m.1.setters m.2)
      (hq : m.1.queue m.2 = id :: m'.1.queue m'.2)
      (hx : m'.1.session.settings = y.apply m.1.session.settings)
      (hp : m'.1.spot m'.2 id = some (.park (.ended x)))
  | leaves (id : Nat) (hp : ∀ x, m.1.spot m.2 id ≠ some (.park (.ended x)))
      (hs : m'.1.setters m'.2 = (m.1.setters m.2).filter (· != id))
      (hq : m'.1.queue m'.2 = (m.1.queue m.2).filter (· != id))
      (hx : m'.1.session.settings = m.1.session.settings)

section
variable {s : Setup σ ρ} {mayStop : Bridge σ ρ → Nat → Prop} {t : Target} {remote : σ}
variable {b b' : Bridge σ ρ} {m m' : Moment σ ρ} {f f' : Option (Nat × Point ρ)}
variable {id j : Nat} {p p' : Point ρ} {r : Request}

theorem setting?_of_request (hr : b.request? id = some r) : b.setting? id = r.setting? := by
  simp [setting?, hr]

theorem setting?_congr (h : b'.request? j = b.request? j) : b'.setting? j = b.setting? j := by
  rw [setting?, h, setting?]

theorem Moves.not_cancelled (h : Moves s id b p b' p') :
    p.isCancelled = false ∧ p'.isCancelled = false := by
  cases h <;> exact ⟨rfl, rfl⟩

theorem setters_congr (hc : b'.calls.length = b.calls.length)
    (hr : ∀ j, b'.request? j = b.request? j)
    (hg : ∀ j, (b'.spot f' j).any Point.isCancelled = (b.spot f j).any Point.isCancelled) :
    b'.setters f' = b.setters f := by
  unfold setters
  rw [hc]
  refine List.filter_congr fun j _ => ?_
  rw [setting?_congr (hr j), hg]

theorem Moves.setters (h : Moves s id b p b' p') :
    b'.setters (some (id, p')) = b.setters (some (id, p)) := by
  refine setters_congr (by rw [h.calls]) (request?_of_calls h.calls) fun j => ?_
  rw [spot_of_calls h.calls]
  by_cases hj : j = id
  · subst hj
    rw [spot_running, spot_running]
    exact h.not_cancelled.2.trans h.not_cancelled.1.symm
  · rw [spot_other hj, spot_other hj]

/-- The line for the session changes by the running call alone. -/
theorem Moves.line (h : Moves s id b p b' p') (hr : b.request? id = some r) (hp : p.Suits r)
    (ho : b.InOrder (some (id, p))) : b'.access.line = b.access.line ∨
      b'.access.line = b.access.line ++ [id] ∧ (id ∈ comer (some (id, p)) ∨ r.setting? = none) ∨
        b'.access.line = b.access.line.filter (· != id) := by
  have hl : b.access.Orderly fun j => b.stances (some (id, p)) j .access := Locks.orderly ho .access
  have pass (hs : p.stance r .access = .has) :
      b.access.pass.line = b.access.line.filter (· != id) := by
    rw [← hl.line_leave_eq_filter, Lock.leave, if_pos (hl.has id (by rw [stances_running hr, hs]))]
  cases h with
  | enter | wait => exact .inr (.inl ⟨hl.line_request, .inl (List.mem_singleton.mpr rfl)⟩)
  | lose | loseLater =>
    obtain ⟨i, rfl, -⟩ := hp
    exact .inr (.inl ⟨hl.line_request, .inr rfl⟩)
  | serve | handOut | collect | reuse | refuse | install | fail | timeOut | failLost | failOther =>
    exact .inr (.inr (pass rfl))
  | _ => exact .inl rfl

/-- A call that sets nothing does not matter to those that do. -/
theorem queue_of_line (hy : b.setting? id = none) (hr : ∀ j, b'.request? j = b.request? j)
    (hl : b'.access.line = b.access.line ∨ b'.access.line = b.access.line ++ [id] ∨
      b'.access.line = b.access.line.filter (· != id)) :
    b'.queue (some (id, p')) = b.queue (some (id, p)) := by
  have hcomer (q : Point ρ) :
      (comer (some (id, q))).filter (fun j => (b.setting? j).isSome) = [] := by
    cases q <;> simp [comer, hy]
  unfold queue
  simp only [setting?_congr (hr _), List.filter_append, hcomer, List.append_nil]
  rcases hl with hl | hl | hl
  · rw [hl]
  · rw [hl, List.filter_append]
    simp [hy]
  · rw [hl, List.filter_filter]
    refine List.filter_congr fun j _ => ?_
    by_cases hj : j = id
    · simp [hj, hy]
    · simp [hj]

/-- Only a call that sets something changes the settings. -/
theorem Moves.settings (h : Moves s id b p b' p') (hp : p.Suits r) (hy : r.setting? = none) :
    b'.session.settings = b.session.settings := by
  cases h with
  | @serve a | @handOut a | @collect a =>
    refine (b.session.settings_update a).trans ?_
    rw [← Request.setting?_of_wants hp, hy]
    rfl
  | reuse | refuse | connect | connectNever | connectLater =>
    exact b.session.settings_discardAbandoned
  | failLost | failOther => exact b.session.settings_invalidate _
  | _ => rfl

theorem Moves.queueMove (h : Moves s id b p b' p') (hr : b.request? id = some r) (hp : p.Suits r)
    (ho : b.InOrder (some (id, p))) : QueueMove (b, some (id, p)) (b', some (id, p')) := by
  have hs := h.setters
  have hreq := request?_of_calls h.calls
  have hl : b.access.Orderly fun j => b.stances (some (id, p)) j .access := Locks.orderly ho .access
  cases hy : r.setting? with
  | none =>
    refine .stays hs (queue_of_line ?_ hreq ?_) (h.settings hp hy)
    · rw [setting?_of_request hr, hy]
    · exact (h.line hr hp ho).imp_right fun hl => hl.imp_left And.left
  | some y =>
    rcases Point.Suits.of_setting? hp hy with ⟨a, rfl | rfl, ha⟩ | ⟨ph, rfl⟩
    · have hq : (b.access.request id).line = b.access.line ++ [id] := hl.line_request
      cases h with
      | enter | wait =>
        refine .stays hs ?_ rfl
        simp only [queue, comer, hq, List.append_nil, setting?_congr (hreq _)]
    · cases h with
      | @serve a x hx =>
        have hh := hl.has id (by rw [stances_running hr]; rfl)
        have hid : (b.setting? id).isSome := by simp [setting?_of_request hr, hy]
        refine .serves id y x ((setting?_of_request hr).trans hy) hs ?_ ?_ (spot_running _ _ _)
        · simp only [queue, comer, List.append_nil, Lock.line_of_holder hh, setting?_congr (hreq _),
            List.filter_cons, hid, if_true]
          rfl
        · exact (b.session.settings_update a).trans (by rw [ha]; rfl)
      | handOut ht | collect ht => exact nomatch (SessionAction.setting?_of_taken ht).symm.trans ha
      | reuse | refuse | connect | connectNever | connectLater =>
        simp [SessionAction.setting?] at ha
    · cases h

theorem InOrder.lt_of_mem_line (h : b.InOrder f) (g : Gate) (hj : j ∈ (b.locks g).line) :
    j < b.calls.length := by
  have ho : (b.locks g).Orderly fun j => b.stances f j g := Locks.orderly h g
  rcases List.mem_append.mp hj with hj | hj
  · exact lt_of_stance (ho.holder j (Option.mem_toList.mp hj))
  · exact lt_of_stance (f := f) (g := g) (by simp [ho.waiting j hj])

theorem setters_new {p : Point ρ} (hc : b'.calls = b.calls ++ [⟨r, .queued⟩])
    (hp : p.isCancelled = false)
    (ho : ∀ j, j ≠ b.calls.length → b'.spot (some (b.calls.length, p)) j = b.spot none j ∧
      b'.request? j = b.request? j) :
    b'.setters (some (b.calls.length, p)) =
      b.setters none ++ if r.setting?.isSome then [b.calls.length] else [] := by
  have hr : b'.setting? b.calls.length = r.setting? := by simp [setting?, request?, hc]
  unfold setters
  rw [hc, List.length_append, List.length_singleton, List.range_succ, List.filter_append]
  congr 1
  · refine List.filter_congr fun j hj => ?_
    obtain ⟨hs, hq⟩ := ho j (Nat.ne_of_lt (List.mem_range.mp hj))
    rw [setting?_congr hq, hs]
  · simp [hr, spot_running, hp, List.filter_cons]

theorem queue_new {p : Point ρ} (hc : b'.calls = b.calls ++ [⟨r, .queued⟩])
    (hl : b'.access = b.access) (hb : b.InOrder none)
    (ho : ∀ j, j ≠ b.calls.length → b'.request? j = b.request? j) :
    b'.queue (some (b.calls.length, p)) =
      b.queue none ++ if r.setting?.isSome then comer (some (b.calls.length, p)) else [] := by
  have hr : b'.setting? b.calls.length = r.setting? := by simp [setting?, request?, hc]
  unfold queue
  rw [hl, List.filter_append, List.filter_append, List.append_assoc]
  congr 1
  · refine List.filter_congr fun j hj => ?_
    rw [setting?_congr (ho j (Nat.ne_of_lt (hb.lt_of_mem_line .access hj)))]
  · cases p <;> simp [comer, hr, List.filter_cons]

theorem Starts.queueMove (h : Starts s b b' id p) (hb : b.InOrder none) :
    QueueMove (b, none) (b', some (id, p)) := by
  have hx : b'.session.settings = b.session.settings := by rw [h.session]
  have new {r : Request} (hc : b'.calls = b.calls ++ [⟨r, .queued⟩]) (hid : id = b.calls.length)
      (hl : b'.access = b.access) (hg : p.isCancelled = false) (hy : r.setting? = none) :
      QueueMove (b, none) (b', some (id, p)) := by
    subst hid
    refine .stays ?_ ?_ hx
    · rw [setters_new hc hg fun j => h.other]
      simp [hy]
    · rw [queue_new hc hl hb fun j hj => (h.other hj).2]
      simp [hy]
  have old {ph : Phase ρ} (hp : b.phase? id = some ph) (hf : (Point.park ph).isCancelled = false)
      (hc : b'.calls = b.calls) (hl : b'.access = b.access) (hg : p.isCancelled = false)
      (hcomer : comer (some (id, p)) = []) : QueueMove (b, none) (b', some (id, p)) := by
    refine .stays (setters_congr (by rw [hc]) (request?_of_calls hc) fun j => ?_) ?_ hx
    · by_cases hj : j = id
      · subst hj
        rw [spot_running, spot_resting hp]
        exact hg.trans hf.symm
      · rw [(h.other hj).1]
    · simp only [Bridge.queue, hl, hcomer, comer_none, setting?_congr (request?_of_calls hc _)]
  have hother := fun j => h.other (j := j)
  cases h with
  | skip | execute | close => exact new rfl rfl rfl rfl rfl
  | takeTurn hn | queue hn => exact new rfl rfl rfl rfl (Request.setting?_of_needsTurn hn)
  | @approach a =>
    cases hy : a.setting? with
    | none => exact new rfl rfl rfl rfl hy
    | some y =>
      have hc : (b.addCall (.session a)).calls = b.calls ++ [⟨.session a, .queued⟩] := rfl
      have hr : (b.addCall (.session a)).setting? b.calls.length = some y :=
        (setting?_of_request (request?_addCall b _)).trans hy
      refine .joins b.calls.length (by simp [hr]) rfl ?_ ?_ rfl
      · refine (setters_new hc rfl hother).trans ?_
        simp [Request.setting?, hy]
      · refine (queue_new hc rfl hb fun j hj => (hother j hj).2).trans ?_
        simp [Request.setting?, hy, comer]
  | queued _ hp | waiting _ hp | losing _ hp | connected hp | handshakeTimedOut hp | executed hp
  | executedOwn hp | executionTimedOut hp | closed hp | closeTimedOut hp =>
    exact old hp rfl rfl rfl rfl rfl

theorem queueMove_stopped {ph : Phase ρ} (hb : b.InOrder none) (hp : b.phase? id = some ph)
    (hf : ph.isFinal = false) : QueueMove (b, none) (b.stopped id, none) := by
  have ho : b.access.Orderly fun j => b.stances none j .access := Locks.orderly hb .access
  have hl : (b.stopped id).access = b.access.leave id := congrFun (stopped_locks b id) .access
  have hreq := request?_stopped b id
  have hlen : (b.stopped id).calls.length = b.calls.length := by
    simp [stopped, setPhase, released_calls]
  refine .leaves id (fun x hq => ?_) ?_ ?_ ?_
  · obtain rfl := Point.park.inj (Option.some.inj ((spot_resting hp).symm.trans hq))
    simp [Phase.isFinal] at hf
  · unfold setters
    rw [hlen, List.filter_filter]
    refine List.filter_congr fun j _ => ?_
    rw [setting?_congr (hreq j), spot_stopped hp]
    by_cases hj : j = id
    · simp [hj, spot_running, Point.isCancelled]
    · simp [hj, spot_other hj]
  · simp only [Bridge.queue, comer_none, List.append_nil, hl, ho.line_leave_eq_filter,
      setting?_congr (hreq _), List.filter_filter, Bool.and_comm]
  · obtain ⟨-, ht, hk⟩ := b.stopped_identity id
    simp [Session.settings, ht, hk]

theorem Next.queueMove (hn : Next s mayStop m m') (hv : Visited s mayStop t remote m.1 m.2) :
    QueueMove m m' := by
  cases hn with
  | start h => exact h.queueMove hv.inOrder
  | @move b b' id p p' h =>
    obtain ⟨r, hr, hp⟩ := hv.suits id p (spot_running b id p)
    exact h.queueMove hr hp hv.inOrder
  | @park b id ph =>
    obtain ⟨r, hr, -⟩ := hv.suits id (.park ph) (spot_running b id _)
    refine .stays ?_ ?_ rfl
    · refine setters_congr ?_ (request?_setPhase b id ph) fun j => by rw [spot_setPhase hr]
      simp [setPhase]
    · simp only [queue, comer, setting?_congr (request?_setPhase b id ph _)]
      rfl
  | @stop b id =>
    rcases cancel_cases b id with he | ⟨ph, hp, hf, he⟩
    · exact .stays (by rw [he]) (by rw [he]) (by rw [he])
    · rw [he]
      exact queueMove_stopped hv.inOrder hp hf
  | abandon | elapse | remote => exact .stays rfl rfl rfl

theorem Next.setting?_eq_some {y : Setting} (hn : Next s mayStop m m')
    (hy : m.1.setting? j = some y) : m'.1.setting? j = some y := by
  obtain ⟨r, hr, hy⟩ := Option.bind_eq_some_iff.mp hy
  rw [setting?_of_request (hn.request? hr), hy]

theorem Next.setting? {q : Point ρ} (hn : Next s mayStop m m')
    (hv : Visited s mayStop t remote m.1 m.2) (hq : m.1.spot m.2 j = some q) :
    m'.1.setting? j = m.1.setting? j := by
  obtain ⟨r, hr, -⟩ := hv.suits j q hq
  rw [setting?_of_request hr, setting?_of_request (hn.request? hr)]

theorem Next.served {done : List Nat} (hn : Next s mayStop m m')
    (hv : Visited s mayStop t remote m.1 m.2) (h : m.1.Served m.2 t done) :
    ∃ done', m'.1.Served m'.2 t done' := by
  have hold (j : Nat) (hj : j ∈ done) : ∃ x, m'.1.spot m'.2 j = some (.park (.ended x)) := by
    obtain ⟨x, hx⟩ := h.ended j hj
    exact ⟨x, hn.spot_final hv hx rfl⟩
  have hset : done.filterMap m'.1.setting? = done.filterMap m.1.setting? := by
    refine List.filterMap_congr fun j hj => ?_
    obtain ⟨x, hx⟩ := h.ended j hj
    exact hn.setting? hv hx
  cases hn.queueMove hv with
  | stays hs hq hx => exact ⟨done, hold, by rw [hs, hq, h.order], by rw [hx, hset, h.settings]⟩
  | joins id _ _ hs hq hx =>
    exact ⟨done, hold, by rw [hs, hq, h.order, List.append_assoc], by rw [hx, hset, h.settings]⟩
  | serves id y x hy hs hq hx hp =>
    have hid : m'.1.setting? id = some y := hn.setting?_eq_some hy
    refine ⟨done ++ [id], fun j hj => ?_, by rw [hs, h.order, hq, List.append_assoc]; rfl, ?_⟩
    · rcases List.mem_append.mp hj with hj | hj
      · exact hold j hj
      · obtain rfl := List.mem_singleton.mp hj
        exact ⟨x, hp⟩
    · rw [hx, List.filterMap_append, hset, List.filterMap_cons_some hid, List.filterMap_nil,
        Settings.after_append, h.settings]
  | leaves id hp hs hq hx =>
    refine ⟨done, hold, ?_, by rw [hx, hset, h.settings]⟩
    rw [hs, hq, h.order, List.filter_append]
    congr 1
    refine List.filter_eq_self.mpr fun j hj => ?_
    obtain ⟨x, hx⟩ := h.ended j hj
    have hne : j ≠ id := fun e => hp x (e ▸ hx)
    simpa using hne

theorem Visited.exists_served (h : Visited s mayStop t remote b f) :
    ∃ done, b.Served f t done := by
  have run {m : Moment σ ρ} (hl : Later s mayStop (Bridge.new t remote, none) m) :
      ∃ done, m.1.Served m.2 t done := by
    induction hl with
    | refl => exact ⟨[], by simp, rfl, rfl⟩
    | tail hl hn ih =>
      obtain ⟨done, hd⟩ := ih
      exact hn.served (Later.visited hl .new) hd
  exact run h.later

/-- When none has yet to set anything, the session is what it has been set to. -/
theorem Visited.settings_of_queue (h : Visited s mayStop t remote b none)
    (hq : b.queue none = []) : b.session.settings = b.settings t := by
  obtain ⟨done, hd⟩ := h.exists_served
  rw [hd.settings, Bridge.settings, hd.order, hq, List.append_nil]

end

end Bridge

end CommandBridge
