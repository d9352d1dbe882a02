import CommandBridge.Proofs.Bridge.Trail

/-! What the audit is told: one invocation after the other, each with the outcome that its caller
gets. -/
namespace CommandBridge

variable {σ ρ : Type}

/-- What the audit is told of one invocation. -/
structure AuditBlock where
  call : Nat
  command : String
  /-- `none` when the end of the invocation has not been told. -/
  outcome : Option Outcome

def AuditBlock.events (x : AuditBlock) : List Event :=
  .started x.call x.command :: (x.outcome.map (.finished x.call x.command)).toList

theorem AuditBlock.of_mem_events {x : AuditBlock} {e : Event} (h : e ∈ x.events) :
    e = .started x.call x.command ∨ ∃ o, x.outcome = some o ∧ e = .finished x.call x.command o := by
  rcases List.mem_cons.mp h with h | h
  · exact .inl h
  · obtain ⟨o, ho, he⟩ := Option.map_eq_some_iff.mp (Option.mem_toList.mp h)
    exact .inr ⟨o, ho, he.symm⟩

/-- An event that the audit is told of. -/
def Event.audited? : Event → Option Event
  | started id command => some (.started id command)
  | finished id command o => some (.finished id command o)
  | _ => none

/-- The outcome that belongs to the answer of call `k`, which is the invocation `i`. -/
inductive Agrees (k : Nat) (i : Invocation) (trail : List (Nat × Point ρ)) :
    Answer ρ → Outcome → Prop where
  | succeeded {c rs} (h : (k, .executed c (.ok ⟨rs, []⟩)) ∈ trail) :
      Agrees k i trail (.records rs) (.succeeded rs.length)
  | advised {c rs errors} (h : (k, .executed c (.ok ⟨rs, errors⟩)) ∈ trail) (he : errors ≠ [])
      (hr : rs ≠ []) :
      Agrees k i trail (.records rs) (.advised rs.length (Command.redact errors i.extra))
  | failed (e : Failure) : Agrees k i trail (.failed e) (.failed e.message)

namespace Bridge

/-- What the audit has been told, in order. -/
def audit (b : Bridge σ ρ) : List Event := b.told Event.audited?

/-- A block is told of an invocation, and of its result when it has ended. -/
structure TellsOf (s : Setup σ ρ) (b : Bridge σ ρ) (f : Option (Nat × Point ρ))
    (trail : List (Nat × Point ρ)) (x : AuditBlock) (i : Invocation) : Prop where
  request : b.request? x.call = some (.invoke i)
  command : x.command = i.command
  ended : ∀ o, x.outcome = some o → ∃ r, o = .ofResult r ∧
    b.spot f x.call = some (.park (.ended (.ofResult r))) ∧ Reason s x.call i trail r

/-- What the audit has been told, invocation by invocation. Before the last one comes to its end
the others have, or have been stopped. -/
structure Audited (s : Setup σ ρ) (b : Bridge σ ρ) (f : Option (Nat × Point ρ))
    (trail : List (Nat × Point ρ)) (blocks : List AuditBlock) : Prop where
  audit : b.audit = blocks.flatMap AuditBlock.events
  tells : ∀ x ∈ blocks, ∃ i, b.TellsOf s f trail x i
  gone : ∀ x ∈ blocks.dropLast, x.outcome = none → b.isGone f x.call

/-- What the audit is told between two moments. -/
inductive AuditMove (m m' : Moment σ ρ) : Prop where
  | quiet (he : m'.1.audit = m.1.audit)
  | start {id i} (hf : m.2 = some (id, .turn)) (hr : m.1.request? id = some (.invoke i))
      (he : m'.1.audit = m.1.audit ++ [.started id i.command])
  | conclude {id i r} (hf : m.2 = some (id, .conclude i r))
      (hf' : m'.2 = some (id, .park (.ended (.ofResult r))))
      (he : m'.1.audit = m.1.audit ++ [.finished id i.command (.ofResult r)])

section
variable {s : Setup σ ρ} {mayStop : Bridge σ ρ → Nat → Prop} {t : Target} {remote : σ}
variable {b b' : Bridge σ ρ} {m m' : Moment σ ρ} {trail : List (Nat × Point ρ)}
variable {f : Option (Nat × Point ρ)} {blocks : List AuditBlock}

/-- What an invocation makes of an output, in terms of the errors as they were reported. -/
theorem accept_cases (i : Invocation) (o : Output ρ) :
    o.errors = [] ∧ i.accept o = .ok ⟨o.records, []⟩ ∨
      o.errors ≠ [] ∧ o.records = [] ∧
        i.accept o = .error (.remote (Command.redact o.errors i.extra)) ∨
      o.errors ≠ [] ∧ o.records ≠ [] ∧ Command.redact o.errors i.extra ≠ [] ∧
        i.accept o = .ok ⟨o.records, Command.redact o.errors i.extra⟩ := by
  have hred : Command.redact o.errors i.extra = [] ↔ o.errors = [] := List.map_eq_nil_iff
  by_cases he : o.errors = []
  · refine .inl ⟨he, ?_⟩
    simp [Invocation.accept, hred.mpr he]
  · have hne : Command.redact o.errors i.extra ≠ [] := fun hn => he (hred.mp hn)
    by_cases hr : o.records = []
    · refine .inr (.inl ⟨he, hr, ?_⟩)
      simp [Invocation.accept, hne, hr]
    · refine .inr (.inr ⟨he, hr, hne, ?_⟩)
      simp [Invocation.accept, hr]

theorem ofResult_advised {rs : List ρ} {messages : List String} (h : messages ≠ []) :
    Outcome.ofResult (.ok (⟨rs, messages⟩ : Output ρ)) = .advised rs.length messages := by
  simp [Outcome.ofResult, h]

theorem agrees_of_reason {k : Nat} {i : Invocation} {r : Except Failure (Output ρ)}
    (h : Reason s k i trail r) : Agrees k i trail (.ofResult r) (.ofResult r) := by
  cases h with
  | unauthenticated | handshakeTimedOut | executionTimedOut | handshake | execution =>
    exact .failed _
  | @output c o h =>
    obtain ⟨rs, errors⟩ := o
    rcases accept_cases i ⟨rs, errors⟩ with ⟨he, ha⟩ | ⟨-, -, ha⟩ | ⟨he, hr, hne, ha⟩
    · obtain rfl : errors = [] := he
      rw [ha]
      exact .succeeded h
    · rw [ha]
      exact .failed _
    · rw [ha, ofResult_advised hne]
      exact .advised h he hr

theorem startedCalls_eq (b : Bridge σ ρ) : b.startedCalls = b.audit.filterMap Event.started? := by
  unfold startedCalls audit told
  rw [List.filterMap_filterMap]
  congr 1
  funext e
  cases e <;> rfl

theorem finishedCalls_eq (b : Bridge σ ρ) :
    b.finishedCalls = b.audit.filterMap Event.finished? := by
  unfold finishedCalls audit told
  rw [List.filterMap_filterMap]
  congr 1
  funext e
  cases e <;> rfl

theorem Audited.started (h : b.Audited s f trail blocks) :
    b.startedCalls = blocks.map (·.call) := by
  rw [startedCalls_eq, h.audit]
  clear h
  induction blocks with
  | nil => rfl
  | cons x blocks ih =>
    have hx : x.events.filterMap Event.started? = [x.call] := by
      unfold AuditBlock.events
      cases x.outcome <;> rfl
    rw [List.flatMap_cons, List.filterMap_append, hx, ih]
    rfl

theorem Audited.mem_finished (h : b.Audited s f trail blocks) {k : Nat} :
    k ∈ b.finishedCalls ↔ ∃ x ∈ blocks, x.call = k ∧ x.outcome.isSome := by
  rw [finishedCalls_eq, h.audit, List.filterMap_flatMap, List.mem_flatMap]
  refine exists_congr fun x => and_congr_right fun _ => ?_
  unfold AuditBlock.events
  cases x.outcome <;> simp [Event.finished?, eq_comm]

/-- No invocation is told of twice. -/
theorem Audited.eq_of_call (h : b.Audited s f trail blocks) (ht : b.TakesTurns f) {x y : AuditBlock}
    (hx : x ∈ blocks) (hy : y ∈ blocks) (hxy : x.call = y.call) : x = y := by
  have hsorted : (blocks.map (·.call)).Pairwise (· < ·) := h.started ▸ ht.serial.sorted
  exact List.inj_on_of_nodup_map (hsorted.imp Nat.ne_of_lt) hx hy hxy

theorem Next.auditMove (hn : Next s mayStop m m') : AuditMove m m' := by
  cases hn with
  | start h => exact .quiet (h.told rfl fun _ => rfl)
  | move h =>
    cases h with
    | start hr => exact .start rfl hr (by simp [audit, Event.audited?])
    | conclude => exact .conclude rfl rfl (by simp [audit, Event.audited?])
    | serve => exact .quiet (told_events _ (fun _ => rfl) (fun _ => rfl) _)
    | close =>
      refine .quiet ((told_closeNotes _ (fun _ => rfl) (fun _ _ => rfl) _ _).trans ?_)
      simp [audit, Event.audited?]
    | closedOwn | closed => exact .quiet (told_closeNotes _ (fun _ => rfl) (fun _ _ => rfl) _ _)
    | _ => exact .quiet (by simp [audit, Event.audited?])
  | @stop b id =>
    rcases cancel_cases b id with he | ⟨ph, -, -, he⟩
    · exact .quiet (by rw [he])
    · exact .quiet (by rw [he]; exact told_stopped (fun _ _ => rfl) b id)
  | park | abandon | elapse | remote => exact .quiet rfl

theorem Next.isGone (hn : Next s mayStop m m') (hv : Visited s mayStop t remote m.1 m.2) {k : Nat}
    (hg : m.1.isGone m.2 k) : m'.1.isGone m'.2 k := hn.spot_final hv hg rfl

theorem TellsOf.next {x : AuditBlock} {i : Invocation} (h : m.1.TellsOf s m.2 trail x i)
    (hn : Next s mayStop m m') (hv : Visited s mayStop t remote m.1 m.2) :
    m'.1.TellsOf s m'.2 (trail ++ m'.2.toList) x i where
  request := hn.request? h.request
  command := h.command
  ended := by
    intro o ho
    obtain ⟨r, hor, hq, hr⟩ := h.ended o ho
    exact ⟨r, hor, hn.spot_final hv hq rfl, hr.mono⟩

/-- When an invocation starts, those that started before it have ended or been stopped. -/
theorem Audited.gone_of_turn {id : Nat} (h : b.Audited s (some (id, .turn)) trail blocks)
    (hv : Visited s mayStop t remote b (some (id, .turn))) {x : AuditBlock} (hx : x ∈ blocks)
    (hn : x.outcome = none) : b.isGone (some (id, .turn)) x.call := by
  have ho := hv.inOrder
  have ht := hv.takesTurns
  obtain ⟨r, hr, -⟩ := hv.suits id .turn (spot_running b id _)
  have hwaits : b.stances (some (id, .turn)) id .turn = .waits := by
    rw [stances_running hr]
    rfl
  have hholder : b.turn.holder = some id := ho.holder_of_ready List.mem_cons_self hwaits
  have hstarted : x.call ∈ b.startedCalls := by
    rw [h.started]
    exact List.mem_map_of_mem hx
  cases hst : b.stances (some (id, .turn)) x.call .turn with
  | out =>
    rcases ht.serial.done x.call hst hstarted with hf | hg
    · obtain ⟨y, hy, hyx, hsome⟩ := h.mem_finished.mp hf
      obtain rfl := h.eq_of_call ht hy hx hyx
      simp [hn] at hsome
    · exact hg
  | waits => exact absurd (ht.serial.later x.call hst x.call hstarted) (Nat.lt_irrefl _)
  | has =>
    have hid : some x.call = some id := ((ho.orderly .turn).has x.call hst).symm.trans hholder
    rw [Option.some.inj hid, hwaits] at hst
    simp at hst

/-- The invocation that concludes is the one that the audit was told of last. -/
theorem Audited.last_of_conclude {id : Nat} {i : Invocation} {r : Except Failure (Output ρ)}
    (h : b.Audited s (some (id, .conclude i r)) trail blocks)
    (hv : Visited s mayStop t remote b (some (id, .conclude i r))) :
    ∃ before, blocks = before ++ [⟨id, i.command, none⟩] := by
  have ht := hv.takesTurns
  obtain ⟨r', hr, hruns⟩ := hv.suits id _ (spot_running b id (.conclude i r))
  have hhas : b.stances (some (id, .conclude i r)) id .turn = .has := by
    rw [stances_running hr]
    exact Request.turnHold_of_needsTurn (by simp [hruns.1, Request.needsTurn, hruns.2])
  have hstarted : id ∈ b.startedCalls := ht.serial.begun id hhas ⟨r', i, hr, hruns⟩
  rw [h.started] at hstarted
  obtain ⟨x, hx, rfl⟩ := List.mem_map.mp hstarted
  have hspot := spot_running b x.call (.conclude i r)
  have hnone : x.outcome = none := by
    cases ho : x.outcome with
    | none => rfl
    | some o =>
      obtain ⟨j, hj⟩ := h.tells x hx
      obtain ⟨r₁, -, hq, -⟩ := hj.ended o ho
      simp [hspot] at hq
  have hcommand : x.command = i.command := by
    obtain ⟨j, hj⟩ := h.tells x hx
    obtain rfl := Request.invoke.inj (Option.some.inj ((hruns.1 ▸ hr).symm.trans hj.request))
    exact hj.command
  have hlast : x ∉ blocks.dropLast := fun hm =>
    absurd (hspot.symm.trans (h.gone x hm hnone)) (by simp)
  have hne : blocks ≠ [] := List.ne_nil_of_mem hx
  have hsplit := List.dropLast_append_getLast hne
  have hxl : x = blocks.getLast hne := by
    rw [← hsplit] at hx
    rcases List.mem_append.mp hx with hm | hm
    · exact absurd hm hlast
    · exact List.mem_singleton.mp hm
  refine ⟨blocks.dropLast, ?_⟩
  rw [← hnone, ← hcommand, hxl]
  exact hsplit.symm

theorem Audited.next (h : m.1.Audited s m.2 trail blocks) (htr : Trail s mayStop t remote m trail)
    (hn : Next s mayStop m m') :
    ∃ blocks', m'.1.Audited s m'.2 (trail ++ m'.2.toList) blocks' := by
  have hv := htr.visited
  have old (x : AuditBlock) (hx : x ∈ blocks) :
      ∃ i, m'.1.TellsOf s m'.2 (trail ++ m'.2.toList) x i := by
    obtain ⟨i, hi⟩ := h.tells x hx
    exact ⟨i, hi.next hn hv⟩
  cases hn.auditMove with
  | quiet he =>
    exact ⟨blocks, he.trans h.audit, old, fun x hx ho => hn.isGone hv (h.gone x hx ho)⟩
  | @start id i hf hr he =>
    refine ⟨blocks ++ [⟨id, i.command, none⟩], ?_, fun x hx => ?_, fun x hx ho => ?_⟩
    · rw [he, h.audit, List.flatMap_append]
      rfl
    · rcases List.mem_append.mp hx with hx | hx
      · exact old x hx
      · obtain rfl := List.mem_singleton.mp hx
        exact ⟨i, hn.request? hr, rfl, fun o ho => nomatch ho⟩
    · rw [List.dropLast_concat] at hx
      rw [hf] at h hv
      exact hn.isGone htr.visited (hf ▸ h.gone_of_turn hv hx ho)
  | @conclude id i r hf hf' he =>
    have hspot : m.1.spot m.2 id = some (.conclude i r) := by rw [hf, spot_running]
    obtain ⟨r', hr', hruns⟩ := hv.suits id _ hspot
    have hi : m.1.request? id = some (.invoke i) := hruns.1 ▸ hr'
    obtain ⟨before, rfl⟩ : ∃ before, blocks = before ++ [⟨id, i.command, none⟩] := by
      rw [hf] at h hv
      exact h.last_of_conclude hv
    refine ⟨before ++ [⟨id, i.command, some (.ofResult r)⟩], ?_, fun x hx => ?_, fun x hx ho => ?_⟩
    · rw [he, h.audit, List.flatMap_append, List.flatMap_append, List.append_assoc]
      rfl
    · rcases List.mem_append.mp hx with hx | hx
      · exact old x (List.mem_append_left _ hx)
      · obtain rfl := List.mem_singleton.mp hx
        refine ⟨i, hn.request? hi, rfl, fun o ho => ⟨r, (Option.some.inj ho).symm, ?_, ?_⟩⟩
        · rw [hf', spot_running]
        · exact (htr.reason hi hspot rfl).mono
    · rw [List.dropLast_concat] at hx
      exact hn.isGone hv (h.gone x (List.dropLast_concat ▸ hx) ho)

theorem Trail.audited (h : Trail s mayStop t remote m trail) :
    ∃ blocks, m.1.Audited s m.2 trail blocks := by
  induction h with
  | new => exact ⟨[], rfl, by simp, by simp⟩
  | next h hn ih =>
    obtain ⟨blocks, hb⟩ := ih
    exact hb.next h hn

/-- The audit is told nothing of call `k`. -/
def Unheard (b : Bridge σ ρ) (k : Nat) : Prop := k ∉ b.startedCalls ∧ k ∉ b.finishedCalls

theorem Unheard.of_audit {k : Nat} (h : b.Unheard k) (he : b'.audit = b.audit) : b'.Unheard k := by
  unfold Unheard at h ⊢
  rwa [startedCalls_eq, finishedCalls_eq, he, ← startedCalls_eq, ← finishedCalls_eq]

theorem Unheard.next {k : Nat} (h : m.1.Unheard k) (hg : m.1.isGone m.2 k)
    (hn : Next s mayStop m m') : m'.1.Unheard k := by
  have other {id : Nat} {p : Point ρ} (hf : m.2 = some (id, p)) (hp : p ≠ .park .cancelled) :
      k ≠ id := by
    rintro rfl
    unfold isGone at hg
    rw [hf, spot_running] at hg
    exact hp (Option.some.inj hg)
  obtain ⟨hs, hfin⟩ := h
  rw [startedCalls_eq] at hs
  rw [finishedCalls_eq] at hfin
  unfold Unheard
  rw [startedCalls_eq, finishedCalls_eq]
  cases hn.auditMove with
  | quiet he => exact he ▸ ⟨hs, hfin⟩
  | start hf hr he =>
    have hne := other hf (by simp)
    rw [he, List.filterMap_append, List.filterMap_append]
    simp [hs, hfin, hne, Event.started?, Event.finished?]
  | conclude hf hf' he =>
    have hne := other hf (by simp)
    rw [he, List.filterMap_append, List.filterMap_append]
    simp [hs, hfin, hne, Event.started?, Event.finished?]

theorem cancel_queued {k : Nat} (hp : b.phase? k = some .queued) : b.cancel k = b.stopped k := by
  unfold Bridge.cancel
  rw [hp]
  rfl

/-- A call that waits for its turn has not started, and never does if it is stopped there. -/
theorem Visited.unheard (h : Visited s mayStop t remote b none) {k : Nat}
    (hp : b.phase? k = some .queued) (hs : mayStop b k)
    (hl : Later s mayStop (b.cancel k, none) m) : m.1.Unheard k := by
  have hv : Visited s mayStop t remote (b.cancel k) none := h.stop hs
  obtain ⟨trail, htr⟩ := Trail.new.later h.later
  obtain ⟨blocks, hb⟩ := htr.audited
  obtain ⟨r, hr, -⟩ := h.suits k _ (spot_resting hp)
  have hwaits : b.stances none k .turn = .waits := by
    rw [stances_resting hr hp]
    rfl
  have hstarted : k ∉ b.startedCalls := fun hm =>
    Nat.lt_irrefl k (h.takesTurns.serial.later k hwaits k hm)
  have hfinished : k ∉ b.finishedCalls := by
    intro hm
    obtain ⟨x, hx, rfl, -⟩ := hb.mem_finished.mp hm
    exact hstarted (hb.started ▸ List.mem_map_of_mem hx)
  rw [cancel_queued hp] at hl hv
  suffices m.1.isGone m.2 k ∧ m.1.Unheard k from this.2
  induction hl with
  | refl =>
    have he : (b.stopped k).audit = b.audit := told_stopped (fun _ _ => rfl) b k
    exact ⟨isGone_stopped hp, Unheard.of_audit ⟨hstarted, hfinished⟩ he⟩
  | tail hl hn ih =>
    obtain ⟨hg, hu⟩ := ih
    exact ⟨hn.isGone (Later.visited hl hv) hg, hu.next hg hn⟩

end

/-- What the audit has been told of the invocation `i`, when `rest` is what it has been told
after. -/
inductive Fits (b : Bridge σ ρ) (trail : List (Nat × Point ρ)) (i : Invocation) :
    AuditBlock → List AuditBlock → Prop where
  | ended {k a o rest} (hp : b.phase? k = some (.ended a)) (h : Agrees k i trail a o) :
      Fits b trail i ⟨k, i.command, some o⟩ rest
  | stopped {k rest} (hp : b.phase? k = some .cancelled) : Fits b trail i ⟨k, i.command, none⟩ rest
  | underWay {k} (h : b.InProgress k) : Fits b trail i ⟨k, i.command, none⟩ []

/-- What the audit is told on a run with that trail. -/
structure AuditTrace (s : Setup σ ρ) (mayStop : Bridge σ ρ → Nat → Prop) (b : Bridge σ ρ)
    (trail : List (Nat × Point ρ)) : Prop where
  told : ∃ blocks, b.audit = blocks.flatMap AuditBlock.events ∧
    (blocks.map (·.call)).Pairwise (· < ·) ∧ ∀ before x rest, blocks = before ++ x :: rest →
      ∃ i, b.request? x.call = some (.invoke i) ∧ i.pipeline.isEmpty = false ∧
        b.Fits trail i x rest
  ended : ∀ k i a, b.request? k = some (.invoke i) → i.pipeline.isEmpty = false →
    b.phase? k = some (.ended a) → k ∈ b.finishedCalls
  queued : ∀ k, b.phase? k = some .queued → mayStop b k →
    ∀ m, Later s mayStop (b.cancel k, none) m → m.1.Unheard k
  executes_once : ((b.told Event.executing?).map (·.1)).Nodup
  answered_once : (answeredCalls trail).Nodup
  answers : ∀ k i c r, b.request? k = some (.invoke i) → (k, .executed c r) ∈ trail →
    s.Answers c i r

section
variable {s : Setup σ ρ} {mayStop : Bridge σ ρ → Nat → Prop} {t : Target} {remote : σ}
variable {b : Bridge σ ρ} {trail : List (Nat × Point ρ)}

theorem Trail.auditTrace (h : Trail s mayStop t remote (b, none) trail) :
    b.AuditTrace s mayStop trail := by
  have hv := h.visited
  have ht := hv.takesTurns
  obtain ⟨blocks, hb⟩ := h.audited
  have hsorted : (blocks.map (·.call)).Pairwise (· < ·) := hb.started ▸ ht.serial.sorted
  refine ⟨⟨blocks, hb.audit, hsorted, fun before x rest he => ?_⟩, fun k i a hi hne hp => ?_,
    fun k hp hs m hl => hv.unheard hp hs hl, h.executes_once, h.answered_once,
    fun k i c r hi hx => h.answers hi hx⟩
  · have hx : x ∈ blocks := he ▸ List.mem_append_right _ List.mem_cons_self
    have hstarted : x.call ∈ b.startedCalls := hb.started ▸ List.mem_map_of_mem hx
    obtain ⟨i, hi⟩ := hb.tells x hx
    obtain ⟨r, i', hr, hreq, hne⟩ := ht.serial.running x.call hstarted
    obtain rfl := Request.invoke.inj (Option.some.inj ((hreq ▸ hr).symm.trans hi.request))
    refine ⟨i', hi.request, hne, ?_⟩
    obtain ⟨k, command, outcome⟩ := x
    obtain rfl : command = i'.command := hi.command
    cases outcome with
    | some o =>
      obtain ⟨r, rfl, hq, hreason⟩ := hi.ended o rfl
      exact .ended (phase?_of_spot hq) (agrees_of_reason hreason)
    | none =>
      by_cases hc : b.phase? k = some .cancelled
      · exact .stopped hc
      have hrest : rest = [] := by
        by_contra hne
        have hm : ⟨k, i'.command, none⟩ ∈ blocks.dropLast := by
          rw [he, List.dropLast_append_cons, List.dropLast_cons_of_ne_nil hne]
          simp
        exact hc (phase?_of_gone (hb.gone _ hm rfl))
      subst hrest
      refine .underWay ⟨hstarted, fun hf => ?_, hc⟩
      obtain ⟨y, hy, hyk, hsome⟩ := hb.mem_finished.mp hf
      obtain rfl := hb.eq_of_call ht hy hx hyk
      simp at hsome
  · have hout : b.stances none k .turn = .out := by
      rw [stances_resting hi hp]
      rfl
    have hng : ¬ b.isGone none k := fun hg => nomatch hp.symm.trans (phase?_of_gone hg)
    have hstarted := (ht.serial.skipped k hout ⟨_, i, hi, rfl, hne⟩).resolve_right hng
    exact (ht.serial.done k hout hstarted).resolve_right hng

end

/-- The first invocation ended, the second was stopped in the line and the third on its way. -/
theorem auditTrace_threeCalls :
    threeCalls.audit = [.started 1 "Get-Mailbox", .finished 1 "Get-Mailbox" (.succeeded 1),
        .started 3 "Get-Mailbox"] ∧
      threeCalls.answer? 1 = some (.records [()]) ∧
        ∃ trail, Trail countingSetup (fun _ _ => True) localTarget 0 (threeCalls, none) trail ∧
          threeCalls.AuditTrace countingSetup (fun _ _ => True) trail := by
  obtain ⟨trail, h⟩ := reachable_threeCalls.exists_trail
  exact ⟨rfl, rfl, trail, h, h.auditTrace⟩

end Bridge

end CommandBridge
