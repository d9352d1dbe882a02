import CommandBridge.Proofs.Bridge.Identity
import CommandBridge.Proofs.Bridge.Settings

/-! An invocation that starts after the session has been reconfigured is executed on a connection
that was opened with what the session has been set to, or is refused. -/
namespace CommandBridge

variable {σ ρ : Type}

namespace Event

/-- The command and the outcome that are told of a call that ends. -/
def outcome? (j : Nat) : Event → Option (String × Outcome)
  | finished k command o => if k = j then some (command, o) else none
  | _ => none

/-- The connection on which a call has its pipeline executed. -/
def executes? (j : Nat) : Event → Option Connection
  | executing k c => if k = j then some c else none
  | _ => none

theorem caller?_of_outcome? {e : Event} {j : Nat} {x : String × Outcome}
    (h : e.outcome? j = some x) : e.caller? = some j := by
  cases e with
  | finished k => simp_all [outcome?, caller?]
  | _ => simp [outcome?] at h

theorem caller?_of_executes? {e : Event} {j : Nat} {c : Connection}
    (h : e.executes? j = some c) : e.caller? = some j := by
  cases e with
  | executing k => simp_all [executes?, caller?]
  | _ => simp [executes?] at h

end Event

namespace Point

/-- An invocation that has not come to the session yet. -/
def Fresh : Point ρ → Prop
  | turn | approach .takeRetired | park .queued | park (.waiting .takeRetired) |
    park .cancelled => True
  | _ => False

/-- An invocation of which nothing but a refusal can come. -/
def Barred : Point ρ → Prop
  | turn | approach _ | act _ | close _ | closed _ _ _ | park .queued | park (.waiting _) |
    park (.closing _ _ _) | park .cancelled => True
  | notOpened e => e = .unauthenticated
  | conclude _ r => r = .error .unauthenticated
  | park (.ended a) => a = .failed .unauthenticated
  | _ => False

end Point

namespace Bridge

/-- What becomes of call `j`, which is the invocation `i`, when the session has been set to `x`. -/
structure Obeys (b : Bridge σ ρ) (j : Nat) (i : Invocation) (x : Settings) : Prop where
  executes : ∀ before c, before ++ [.executing j c] <+: b.events →
    ∃ k, x = ⟨c.target, some k⟩ ∧ OpenedWith before c.target k c
  answer : x.credential = none → ∀ a, b.answer? j = some a → a = .failed .unauthenticated
  outcome : x.credential = none → ∀ y ∈ b.told (Event.outcome? j),
    y = (i.command, .failed Failure.unauthenticated.message)

/-- No call that has yet to set something is behind call `j` in the line for the session. -/
structure Last (m : Moment σ ρ) (j : Nat) : Prop where
  line : m.1.access.line.Pairwise fun x y => x = j → m.1.setting? y = none
  comer : ∀ y ∈ comer m.2, m.1.setting? y = none

/-- Call `j` has not come to the session yet. -/
structure Before (m : Moment σ ρ) (j : Nat) : Prop where
  spot : ∀ q, m.1.spot m.2 j = some q → q.Fresh
  executes : m.1.told (Event.executes? j) = []
  outcome : m.1.told (Event.outcome? j) = []

/-- Call `j`, which is the invocation `i`, has come to the session after all who set something. -/
structure After (m : Moment σ ρ) (j : Nat) (i : Invocation) : Prop where
  known : ∃ q, m.1.spot m.2 j = some q
  queue : m.1.queue m.2 = []
  executes : ∀ before c, before ++ [.executing j c] <+: m.1.events →
    ∃ k, m.1.session.settings = ⟨c.target, some k⟩ ∧ OpenedWith before c.target k c
  barred : m.1.session.credential = none → (∀ q, m.1.spot m.2 j = some q → q.Barred) ∧
    ∀ y ∈ m.1.told (Event.outcome? j), y = (i.command, .failed Failure.unauthenticated.message)

section
variable {s : Setup σ ρ} {mayStop : Bridge σ ρ → Nat → Prop} {t : Target} {remote : σ}
variable {b b' : Bridge σ ρ} {m m' : Moment σ ρ} {id j : Nat} {p p' : Point ρ} {i : Invocation}

/-- What is told of executions and of how invocations end is told when they come to it. -/
theorem Next.told {α : Type} {g : Event → Option α} (hn : Next s mayStop m m')
    (hg : ∀ e, (∀ k c, e ≠ .executing k c) → (∀ k x o, e ≠ .finished k x o) → g e = none) :
    m'.1.told g = m.1.told g ∨
      (∃ id c i limit, m.2 = some (id, .execute c i limit) ∧
        m'.1.events = m.1.events ++ [.executing id c]) ∨
      ∃ id i r, m.2 = some (id, .conclude i r) ∧
        m'.2 = some (id, .park (.ended (.ofResult r))) ∧
          m'.1.events = m.1.events ++ [.finished id i.command (.ofResult r)] := by
  cases hn with
  | start h => exact .inl (h.told (by simp [hg]) (by simp [hg]))
  | @move b b' id p p' h =>
    cases h with
    | execute | executeNever | executeLater => exact .inr (.inl ⟨_, _, _, _, rfl, by simp⟩)
    | conclude => exact .inr (.inr ⟨_, _, _, rfl, rfl, by simp⟩)
    | serve => exact .inl (told_events _ (by simp [hg]) (by simp [hg]) _)
    | close =>
      exact .inl ((told_closeNotes _ (by simp [hg]) (by simp [hg]) _ _).trans (by simp [hg]))
    | closedOwn | closed => exact .inl (told_closeNotes _ (by simp [hg]) (by simp [hg]) _ _)
    | _ => exact .inl (by simp [hg])
  | @stop b id =>
    rcases cancel_cases b id with he | ⟨ph, -, -, he⟩
    · exact .inl (by rw [he])
    · exact .inl (by rw [he, told_stopped (by simp [hg])])
  | park | abandon | elapse | remote => exact .inl rfl

theorem Next.outcome (hn : Next s mayStop m m') :
    m'.1.told (Event.outcome? j) = m.1.told (Event.outcome? j) ∨
      ∃ i r, m.2 = some (j, .conclude i r) ∧ m'.2 = some (j, .park (.ended (.ofResult r))) ∧
        m'.1.told (Event.outcome? j) =
          m.1.told (Event.outcome? j) ++ [(i.command, .ofResult r)] := by
  have hg (e : Event) (_ : ∀ k c, e ≠ .executing k c) (hf : ∀ k x o, e ≠ .finished k x o) :
      e.outcome? j = none := by
    cases e with
    | finished k x o => exact absurd rfl (hf k x o)
    | _ => rfl
  rcases hn.told hg with he | ⟨id, c, i, limit, -, he⟩ | ⟨id, i, r, hf, hf', he⟩
  · exact .inl he
  · exact .inl ((told_append he).trans (by simp [Event.outcome?]))
  · by_cases hj : id = j
    · subst hj
      exact .inr ⟨i, r, hf, hf', (told_append he).trans (by simp [Event.outcome?])⟩
    · exact .inl ((told_append he).trans (by simp [Event.outcome?, hj]))

theorem Next.executes (hn : Next s mayStop m m') :
    m'.1.told (Event.executes? j) = m.1.told (Event.executes? j) ∨
      ∃ c i limit, m.2 = some (j, .execute c i limit) ∧
        m'.1.events = m.1.events ++ [.executing j c] := by
  have hg (e : Event) (he : ∀ k c, e ≠ .executing k c) (_ : ∀ k x o, e ≠ .finished k x o) :
      e.executes? j = none := by
    cases e with
    | executing k c => exact absurd rfl (he k c)
    | _ => rfl
  rcases hn.told hg with he | ⟨id, c, i, limit, hf, he⟩ | ⟨id, i, r, -, -, he⟩
  · exact .inl he
  · by_cases hj : id = j
    · subst hj
      exact .inr ⟨c, i, limit, hf, he⟩
    · exact .inl ((told_append he).trans (by simp [Event.executes?, hj]))
  · exact .inl ((told_append he).trans (by simp [Event.executes?]))

theorem Next.events_grow (hn : Next s mayStop m m') : m.1.events <+: m'.1.events := by
  cases hn with
  | start h =>
    obtain ⟨es, he, -⟩ := h.events
    exact ⟨es, he.symm⟩
  | move h => exact h.events_grow
  | @stop b id =>
    rcases cancel_cases b id with he | ⟨ph, -, -, he⟩
    · exact ⟨[], (List.append_nil _).trans (congrArg events he.symm)⟩
    · obtain ⟨es, hes, -⟩ := b.stopped_events id
      rw [he]
      exact ⟨es, hes.symm⟩
  | park | abandon | elapse | remote => exact List.prefix_rfl

/-- A connection on which a call is about to execute an invocation is the live one. -/
theorem Visited.live_of_execute {c : Connection} {i' : Invocation} {limit : Option Nat}
    (h : Visited s mayStop t remote b (some (j, .execute c i' limit)))
    (hr : b.request? j = some (.invoke i)) : b.session.live = some c := by
  cases h with
  | start h hs =>
    cases hs with
    | execute => exact nomatch (request?_addCall _ _).symm.trans hr
  | move h hm =>
    cases hm with
    | run =>
      cases h with
      | start h hs => cases hs
      | move h hm =>
        cases hm with
        | reuse hl => exact hl
        | install => rfl

/-- Where nothing is left to be set, nothing changes the settings. -/
theorem Next.idle (hn : Next s mayStop m m') (hv : Visited s mayStop t remote m.1 m.2)
    (hq : m.1.queue m.2 = []) (hl : ∀ k ≥ m.1.calls.length, m'.1.setting? k = none) :
    m'.1.queue m'.2 = [] ∧ m'.1.session.settings = m.1.session.settings := by
  cases hn.queueMove hv with
  | stays _ hq' hx => exact ⟨hq'.trans hq, hx⟩
  | joins id hy hid =>
    rw [hl id (Nat.le_of_eq hid.symm)] at hy
    simp at hy
  | serves id _ _ _ _ hq' => exact nomatch hq.symm.trans hq'
  | leaves id _ _ hq' hx => exact ⟨by rw [hq', hq]; rfl, hx⟩

theorem Next.line (hn : Next s mayStop m m') (hv : Visited s mayStop t remote m.1 m.2) :
    m'.1.access.line = m.1.access.line ∨
      (∃ id, m'.1.access.line = m.1.access.line ++ [id] ∧ m'.1.setting? id = m.1.setting? id ∧
        (id ∈ Bridge.comer m.2 ∨ m.1.setting? id = none)) ∨
      ∃ id, m'.1.access.line = m.1.access.line.filter (· != id) := by
  cases hn with
  | start h => cases h <;> exact .inl rfl
  | @move b b' id p p' h =>
    obtain ⟨r, hr, hp⟩ := hv.suits id p (spot_running b id p)
    rcases h.line hr hp hv.inOrder with hl | ⟨hl, hs⟩ | hl
    · exact .inl hl
    · refine .inr (.inl ⟨id, hl, setting?_congr (request?_of_calls h.calls id), ?_⟩)
      exact hs.imp_right (setting?_of_request hr).trans
    · exact .inr (.inr ⟨id, hl⟩)
  | @stop b id =>
    rcases cancel_cases b id with he | ⟨ph, hp, -, he⟩
    · exact .inl (by rw [he])
    · have ho : b.access.Orderly fun j => b.stances none j .access :=
        Locks.orderly hv.inOrder .access
      have hl : (b.stopped id).access = b.access.leave id := congrFun (stopped_locks b id) .access
      exact .inr (.inr ⟨id, by rw [he, hl, ho.line_leave_eq_filter]⟩)
  | park | abandon | elapse | remote => exact .inl rfl

/-- A call that comes for the session is new, or takes turns. -/
theorem Next.comer (hn : Next s mayStop m m') (hv : Visited s mayStop t remote m.1 m.2) {y : Nat}
    (hy : y ∈ Bridge.comer m'.2) : y = m.1.calls.length ∨ m'.1.setting? y = none := by
  cases hn with
  | start h =>
    cases h with
    | approach => exact .inl (List.mem_singleton.mp hy)
    | _ => simp [Bridge.comer] at hy
  | @move b b' id p p' h =>
    obtain ⟨r, hr, hp⟩ := hv.suits id p (spot_running b id p)
    have hr' := (request?_of_calls h.calls id).trans hr
    cases h with
    | start | shutDown | proceed =>
      obtain rfl := List.mem_singleton.mp hy
      exact .inr ((setting?_of_request hr').trans (Request.setting?_of_needsTurn hp))
    | _ => simp [Bridge.comer] at hy
  | park | stop | abandon | elapse | remote => cases hy

theorem Next.last (hn : Next s mayStop m m') (hv : Visited s mayStop t remote m.1 m.2)
    (h : Last m j) (hl : ∀ k ≥ m.1.calls.length, m'.1.setting? k = none) : Last m' j := by
  have known {y : Nat} (hy : y ∈ m.1.access.line) : m'.1.setting? y = m.1.setting? y := by
    have hlt := hv.inOrder.lt_of_mem_line .access hy
    have hr : m.1.request? y = some m.1.calls[y].request := by simp [Bridge.request?, hlt]
    rw [setting?_of_request hr, setting?_of_request (hn.request? hr)]
  have hline : m.1.access.line.Pairwise fun x y => x = j → m'.1.setting? y = none :=
    h.line.imp_of_mem fun _ hy hxy hx => (known hy).trans (hxy hx)
  refine ⟨?_, fun y hy => ?_⟩
  · rcases hn.line hv with he | ⟨id, he, hid, hs⟩ | ⟨id, he⟩
    · rwa [he]
    · rw [he]
      refine List.pairwise_append.mpr ⟨hline, List.pairwise_singleton _ _, fun x _ y hy _ => ?_⟩
      obtain rfl := List.mem_singleton.mp hy
      exact hid.trans (hs.elim (h.comer y) fun hy => hy)
    · rw [he]
      exact hline.filter _
  · exact (hn.comer hv hy).elim (fun hy => hl y hy.ge) fun hy => hy

/-- When the call has the session, none has yet to set anything. -/
theorem Last.queue_eq_nil {a : SessionAction} (h : Last (b, some (j, .act a)) j)
    (hv : Visited s mayStop t remote b (some (j, .act a)))
    (hr : b.request? j = some (.invoke i)) : b.queue (some (j, .act a)) = [] := by
  have ho : b.access.Orderly fun k => b.stances (some (j, .act a)) k .access :=
    Locks.orderly hv.inOrder .access
  have hh := ho.has j (by rw [stances_running hr]; rfl)
  have hline := h.line
  rw [Lock.line_of_holder hh, List.pairwise_cons] at hline
  have hj : b.setting? j = none := setting?_of_request hr
  refine List.filter_eq_nil_iff.mpr fun y hy => ?_
  have hy : y ∈ b.access.line := by simpa [Bridge.comer] using hy
  rcases List.mem_cons.mp (Lock.line_of_holder hh ▸ hy) with rfl | hy
  · simp [hj]
  · simp [hline.1 y hy rfl]

theorem Moves.barred (h : Moves s j b p b' p') (hr : b.request? j = some (.invoke i))
    (hp : p.Suits (.invoke i)) (hl : ∀ c, b.session.live = some c → b.session.credential ≠ none)
    (hk : b.session.credential = none) (hb : p.Barred) : p'.Barred := by
  have hk' : b.session.discardAbandoned.credential = none :=
    (discardAbandoned_credential b.session).trans hk
  cases h with
  | start | enter | wait | collect | proceed | close | closeLater | closed => trivial
  | shutDown hr' | leave hr' => exact absurd hr (hr' i)
  | serve ha => obtain ⟨-, rfl | rfl⟩ := hp <;> simp [SessionAction.answer?] at ha
  | handOut _ hr' =>
    obtain ⟨a, hr'⟩ := hr'
    cases hr.symm.trans hr'
  | @reuse c hc =>
    rcases update_live .isOpen b.session with hn | ⟨hs, -⟩
    · cases hc.symm.trans hn
    · exact absurd hk (hl c (hs.symm.trans hc))
  | refuse => exact rfl
  | connect _ hc | connectNever _ hc | connectLater _ hc => cases hk'.symm.trans hc
  | giveIn => exact congrArg Except.error hb
  | giveFailure hr' => exact absurd hr (hr' i)
  | conclude =>
    obtain rfl := hb
    exact rfl
  | closedOwn hr' | closeFailed hr' =>
    obtain ⟨c, hr'⟩ := hr'
    cases hr.symm.trans hr'
  | _ => exact hb.elim

theorem Starts.barred {ph : Phase ρ} (h : Starts s b b' j p) (hp : b.phase? j = some ph)
    (hb : (Point.park ph).Barred) : p.Barred := by
  cases h with
  | skip | takeTurn | queue | approach | execute | close => simp [phase?] at hp
  | queued | waiting | closed | closeTimedOut => trivial
  | losing _ hp' | connected hp' | handshakeTimedOut hp' | executed hp' | executedOwn hp'
  | executionTimedOut hp' =>
    obtain rfl := Option.some.inj (hp.symm.trans hp')
    exact hb.elim

/-- What stands before the end of a list that has grown stood in it before. -/
theorem prefix_of_grown {α : Type} {l es before : List α} {e : α} (he : e ∉ es)
    (h : before ++ [e] <+: l ++ es) : before ++ [e] <+: l := by
  rcases List.prefix_or_prefix_of_prefix h (List.prefix_append l es) with hp | ⟨rest, hr⟩
  · exact hp
  · rcases List.eq_nil_or_concat rest with rfl | ⟨rest, x, rfl⟩
    · rw [List.append_nil] at hr
      exact ⟨[], (List.append_nil _).trans hr.symm⟩
    · rw [List.concat_eq_append, ← List.append_assoc] at hr
      obtain ⟨hb, hx⟩ := List.append_inj' hr rfl
      obtain rfl := List.singleton_inj.mp hx
      rw [← hb, List.append_assoc] at h
      exact absurd ((List.prefix_append_right_inj l).mp h |>.subset (by simp)) he

/-- An execution is told of when the call that has it done goes to the endpoint. -/
theorem Next.executing_prefix {before : List Event} {c : Connection} (hn : Next s mayStop m m')
    (hb : before ++ [.executing j c] <+: m'.1.events) :
    before ++ [.executing j c] <+: m.1.events ∨
      before = m.1.events ∧ ∃ i limit, m.2 = some (j, .execute c i limit) := by
  rcases hn.executes (j := j) with he | ⟨c', i', limit, hf, he⟩
  · obtain ⟨es, hes⟩ := hn.events_grow
    have hb : before ++ [.executing j c] <+: m.1.events ++ es := hes.symm ▸ hb
    refine .inl (prefix_of_grown (fun hmem => ?_) hb)
    have := none_of_told hes.symm he _ hmem
    simp [Event.executes?] at this
  · rw [he] at hb
    rcases List.prefix_concat_iff.mp hb with hb | hb
    · obtain ⟨rfl, hc⟩ := List.append_inj' hb rfl
      obtain rfl : c = c' := by simpa using hc
      exact .inr ⟨rfl, i', limit, hf⟩
    · exact .inl hb

theorem Next.barred {q q' : Point ρ} (hn : Next s mayStop m m')
    (hv : Visited s mayStop t remote m.1 m.2) (hr : m.1.request? j = some (.invoke i))
    (hk : m.1.session.credential = none) (hq : m.1.spot m.2 j = some q) (hb : q.Barred)
    (hq' : m'.1.spot m'.2 j = some q') : q'.Barred := by
  obtain ⟨q'', hq'', hg⟩ := hn.spot hv hq
  obtain rfl := Option.some.inj (hq''.symm.trans hq')
  cases hg with
  | stays => exact hb
  | starts hp hst => exact hst.barred hp hb
  | moves hf hm =>
    obtain ⟨r, hr', hs⟩ := hv.suits j q hq
    obtain rfl := Option.some.inj (hr.symm.trans hr')
    refine hm.barred hr hs (fun c hc => ?_) hk hb
    obtain ⟨k, hcur⟩ := hv.identified.live c hc
    simp [hcur.credential]
  | stops => trivial

/-- What is told of the end of an invocation of which only a refusal can come is the refusal. -/
theorem Next.refused (hn : Next s mayStop m m') (hv : Visited s mayStop t remote m.1 m.2)
    (hr : m.1.request? j = some (.invoke i)) (hb : ∀ q, m.1.spot m.2 j = some q → q.Barred)
    (ho : ∀ y ∈ m.1.told (Event.outcome? j),
      y = (i.command, .failed Failure.unauthenticated.message)) :
    ∀ y ∈ m'.1.told (Event.outcome? j),
      y = (i.command, .failed Failure.unauthenticated.message) := by
  rcases hn.outcome (j := j) with he | ⟨i', r, hf, -, he⟩
  · rwa [he]
  · have hq : m.1.spot m.2 j = some (.conclude i' r) := by rw [hf, spot_running]
    obtain ⟨_, hr', hi, -⟩ := hv.suits j _ hq
    obtain rfl : i = i' := Request.invoke.inj (Option.some.inj (hr.symm.trans hr') |>.trans hi)
    obtain rfl : r = .error .unauthenticated := hb _ hq
    rw [he]
    intro y hy
    rcases List.mem_append.mp hy with hy | hy
    · exact ho y hy
    · exact List.mem_singleton.mp hy

theorem Next.after (hn : Next s mayStop m m') (hv : Visited s mayStop t remote m.1 m.2)
    (h : After m j i) (hr : ∀ r, m'.1.request? j = some r → r = .invoke i)
    (hl : ∀ k ≥ m.1.calls.length, m'.1.setting? k = none) : After m' j i := by
  obtain ⟨q, hq⟩ := h.known
  obtain ⟨q', hq', -⟩ := hn.spot hv hq
  obtain ⟨hqueue, hx⟩ := hn.idle hv h.queue hl
  have hk : m'.1.session.credential = m.1.session.credential := congrArg Settings.credential hx
  obtain ⟨r, hrq, -⟩ := hv.suits j q hq
  obtain rfl := hr r (hn.request? hrq)
  refine ⟨⟨q', hq'⟩, hqueue, fun before c hb => ?_, fun hnone => ?_⟩
  · rw [hx]
    rcases hn.executing_prefix hb with hb | ⟨rfl, i', limit, hf⟩
    · exact h.executes before c hb
    · -- the connection is the live one, which was opened with what the session is set to
      rw [hf] at hv
      obtain ⟨k, hcur⟩ := hv.identified.live c (hv.live_of_execute hrq)
      refine ⟨k, ?_, hcur.target ▸ hcur.opened⟩
      rw [Session.settings, hcur.credential, hcur.target]
  · obtain ⟨hspot, hout⟩ := h.barred (hk.symm.trans hnone)
    exact ⟨fun q₁ hq₁ => hn.barred hv hrq (hk.symm.trans hnone) hq (hspot q hq) hq₁,
      hn.refused hv hrq hspot hout⟩

/-- A call that comes to the session comes to it after all who set something. -/
theorem After.of_act {a : SessionAction} (hv : Visited s mayStop t remote b (some (j, .act a)))
    (hr : b.request? j = some (.invoke i)) (hl : Last (b, some (j, .act a)) j)
    (he : b.told (Event.executes? j) = []) (ho : b.told (Event.outcome? j) = []) :
    After (b, some (j, .act a)) j i where
  known := ⟨_, spot_running b j _⟩
  queue := hl.queue_eq_nil hv hr
  executes before c hb := by
    have hmem : .executing j c ∈ b.events := hb.subset (by simp)
    have := List.filterMap_eq_nil_iff.mp he _ hmem
    simp [Event.executes?] at this
  barred _ := by
    refine ⟨fun q hq => ?_, ?_⟩
    · obtain rfl := Option.some.inj ((spot_running b j _).symm.trans hq)
      trivial
    · simp [ho]

theorem running_of_spot {f : Option (Nat × Point ρ)} {q : Point ρ} (hq : b.spot f j = some q)
    (hp : ∀ ph, q ≠ .park ph) : f = some (j, q) := by
  have resting (h : (b.phase? j).map Point.park = some q) : False := by
    obtain ⟨ph, -, rfl⟩ := Option.map_eq_some_iff.mp h
    exact hp ph rfl
  cases f with
  | none => exact (resting hq).elim
  | some x =>
    obtain ⟨id, p⟩ := x
    rcases spot_cases hq with ⟨rfl, rfl⟩ | ⟨-, hq⟩
    · rfl
    · exact (resting hq).elim

theorem Starts.fresh (h : Starts s b b' j p) (hr : b'.request? j = some (.invoke i))
    (hi : i.pipeline.isEmpty = false) (hf : ∀ q, b.spot none j = some q → q.Fresh) :
    p.Fresh ∨ ∃ a, p = .act a := by
  have old {ph : Phase ρ} (hp : b.phase? j = some ph) : (Point.park ph).Fresh :=
    hf _ (spot_resting hp)
  cases h with
  | takeTurn | queue | queued => exact .inl trivial
  | waiting => exact .inr ⟨_, rfl⟩
  | @skip i' he =>
    obtain rfl : i' = i :=
      Request.invoke.inj (Option.some.inj ((request?_addCall b _).symm.trans hr))
    exact nomatch he.symm.trans hi
  | approach | execute | close => exact nomatch (request?_addCall b _).symm.trans hr
  | losing _ hp | connected hp | handshakeTimedOut hp | executed hp | executedOwn hp
  | executionTimedOut hp | closed hp | closeTimedOut hp => exact (old hp).elim

theorem Moves.fresh (h : Moves s j b p b' p') (hr : b.request? j = some (.invoke i))
    (hf : p.Fresh) : p'.Fresh ∨ ∃ a, p' = .act a := by
  cases h with
  | start => exact .inl trivial
  | shutDown hr' => exact absurd hr (hr' i)
  | enter => exact .inr ⟨_, rfl⟩
  | @wait a =>
    left
    cases a with
    | takeRetired => trivial
    | _ => exact hf.elim
  | _ => exact hf.elim

/-- The first that an invocation does is to come to the session. -/
theorem Next.fresh {q : Point ρ} (hn : Next s mayStop m m')
    (hv : Visited s mayStop t remote m.1 m.2) (hr : m'.1.request? j = some (.invoke i))
    (hi : i.pipeline.isEmpty = false) (hf : ∀ q, m.1.spot m.2 j = some q → q.Fresh)
    (hq : m'.1.spot m'.2 j = some q) : q.Fresh ∨ ∃ a, q = .act a := by
  rcases hn.spot_cases hv hq with ⟨q₀, hq₀, hg⟩ | ⟨hm, hold, hs⟩
  · have hq₁ := hf q₀ hq₀
    cases hg with
    | stays => exact .inl hq₁
    | @starts ph p hp hs =>
      refine hs.fresh hr hi fun q hq => ?_
      obtain rfl := Option.some.inj ((spot_resting hp).symm.trans hq)
      exact hq₁
    | moves _ hm =>
      obtain ⟨r, hr₀, -⟩ := hv.suits j _ hq₀
      obtain rfl := Option.some.inj ((hn.request? hr₀).symm.trans hr)
      exact hm.fresh hr₀ hq₁
    | stops => exact .inl trivial
  · exact hs.fresh hr hi fun q hq => nomatch hold.symm.trans hq

theorem Next.before (hn : Next s mayStop m m') (hv : Visited s mayStop t remote m.1 m.2)
    (h : Before m j) (hl : Last m' j) (hr : ∀ r, m'.1.request? j = some r → r = .invoke i)
    (hi : i.pipeline.isEmpty = false) : Before m' j ∨ After m' j i := by
  have hv' := hn.visited hv
  have idle {q : Point ρ} (hf : m.2 = some (j, q)) : q.Fresh := h.spot q (by rw [hf, spot_running])
  have he : m'.1.told (Event.executes? j) = [] := by
    rcases hn.executes (j := j) with he | ⟨c, i', limit, hf, -⟩
    · exact he.trans h.executes
    · exact (idle hf).elim
  have ho : m'.1.told (Event.outcome? j) = [] := by
    rcases hn.outcome (j := j) with ho | ⟨i', r, hf, -⟩
    · exact ho.trans h.outcome
    · exact (idle hf).elim
  by_cases hf : ∀ q, m'.1.spot m'.2 j = some q → q.Fresh
  · exact .inl ⟨hf, he, ho⟩
  · obtain ⟨q, hq, hnf⟩ : ∃ q, m'.1.spot m'.2 j = some q ∧ ¬ q.Fresh := by simpa using hf
    obtain ⟨r, hr', -⟩ := hv'.suits j q hq
    obtain rfl := hr r hr'
    obtain ⟨a, rfl⟩ := (hn.fresh hv hr' hi h.spot hq).resolve_left hnf
    obtain ⟨b', f'⟩ := m'
    obtain rfl : f' = some (j, .act a) := running_of_spot hq (by simp)
    exact .inr (After.of_act hv' hr' hl he ho)

/-- Nothing has happened yet that an invocation which waits for its turn, or is yet to come, has
done. -/
theorem Visited.before (hv : Visited s mayStop t remote b none)
    (hp : ∀ ph, b.phase? j = some ph → ph = .queued) : Before (b, none) j := by
  have ht := hv.takesTurns
  have idle (e : Event) (he : e ∈ b.events) : e.caller? ≠ some j := by
    intro hc
    obtain ⟨r, hr⟩ := ht.known e he j hc
    obtain ⟨ph, hph⟩ := exists_phase hr
    obtain rfl := hp ph hph
    obtain ⟨r', hr', hs⟩ := hv.suits j _ (spot_resting hph)
    obtain rfl := Option.some.inj (hr.symm.trans hr')
    have hw : b.stances none j .turn = .waits := by rw [stances_resting hr hph]; rfl
    refine ht.serial.came j hw (List.mem_filter.mpr ⟨List.mem_filterMap.mpr ⟨e, he, hc⟩, ?_⟩)
    rw [takesTurn_eq hr]
    exact hs
  refine ⟨fun q hq => ?_, ?_, ?_⟩
  · obtain ⟨ph, hph, rfl⟩ := Option.map_eq_some_iff.mp hq
    rw [hp ph hph]
    trivial
  · refine List.filterMap_eq_nil_iff.mpr fun e he => Option.eq_none_iff_forall_ne_some.mpr ?_
    exact fun c hc => idle e he (Event.caller?_of_executes? hc)
  · refine List.filterMap_eq_nil_iff.mpr fun e he => Option.eq_none_iff_forall_ne_some.mpr ?_
    exact fun x hx => idle e he (Event.caller?_of_outcome? hx)

theorem spot_of_answer? {a : Answer ρ} (h : b.answer? j = some a) :
    b.spot none j = some (.park (.ended a)) := by
  unfold answer? at h
  split at h
  · rename_i hp
    rw [spot_resting hp, Option.some.inj h]
  · simp at h

theorem Visited.last (hv : Visited s mayStop t remote b none)
    (hp : ∀ ph, b.phase? j = some ph → ph = .queued) : Last (b, none) j := by
  have ho : b.access.Orderly fun k => b.stances none k .access := Locks.orderly hv.inOrder .access
  have hout : b.stances none j .access = .out := by
    cases hr : b.request? j with
    | none => simp [stances, hr]
    | some r =>
      obtain ⟨ph, hph⟩ := exists_phase hr
      obtain rfl := hp ph hph
      rw [stances_resting hr hph]
      rfl
  have hj : j ∉ b.access.line := by
    intro hm
    rcases List.mem_append.mp hm with hm | hm
    · exact ho.holder j (Option.mem_toList.mp hm) hout
    · cases hout.symm.trans (ho.waiting j hm)
  exact ⟨List.Pairwise.imp_of_mem (fun hx _ _ he => absurd (he ▸ hx) hj) ho.nodup, by simp⟩

theorem Later.request? {r : Request} (hl : Later s mayStop m m')
    (hr : m.1.request? j = some r) : m'.1.request? j = some r := by
  induction hl with
  | refl => exact hr
  | tail _ hn ih => exact hn.request? ih

theorem Later.length_le (hl : Later s mayStop m m') : m.1.calls.length ≤ m'.1.calls.length := by
  by_contra hlt
  have hr : m.1.request? m'.1.calls.length = some (m.1.calls[m'.1.calls.length]).request := by
    simp [Bridge.request?, Nat.lt_of_not_le hlt]
  exact lt_irrefl _ (request?_lt (hl.request? hr))

/-- Where calls that set something are not made any more, an invocation that has not come to the
session comes to it when all have had their effect. -/
theorem Later.before_or_after (hl : Later s mayStop (b, none) m)
    (hv : Visited s mayStop t remote b none)
    (hs : ∀ k ≥ b.calls.length, m.1.setting? k = none)
    (hp : ∀ ph, b.phase? j = some ph → ph = .queued)
    (hr : ∀ r, m.1.request? j = some r → r = .invoke i) (hi : i.pipeline.isEmpty = false) :
    Last m j ∧ (Before m j ∨ After m j i) := by
  induction hl with
  | refl => exact ⟨hv.last hp, .inl (hv.before hp)⟩
  | @tail m m' hl hn ih =>
    have hv' : Visited s mayStop t remote m.1 m.2 := Later.visited hl hv
    have hs' (k : Nat) (hk : k ≥ b.calls.length) : m.1.setting? k = none :=
      Option.eq_none_iff_forall_ne_some.mpr fun y hy =>
        nomatch (hs k hk).symm.trans (hn.setting?_eq_some hy)
    have hnew (k : Nat) (hk : k ≥ m.1.calls.length) : m'.1.setting? k = none :=
      hs k ((Later.length_le hl).trans hk)
    obtain ⟨hlast, hm⟩ := ih hs' fun r hr' => hr r (hn.request? hr')
    have hlast' := hn.last hv' hlast hnew
    refine ⟨hlast', ?_⟩
    rcases hm with hbefore | hafter
    · exact hn.before hv' hbefore hlast' hr hi
    · exact .inr (hn.after hv' hafter hr hnew)

theorem Before.obeys (h : Before (b, none) j) (x : Settings) : b.Obeys j i x where
  executes before c hpre := by
    have hmem : .executing j c ∈ b.events := hpre.subset (by simp)
    have := List.filterMap_eq_nil_iff.mp h.executes _ hmem
    simp [Event.executes?] at this
  answer _ a ha := (h.spot _ (spot_of_answer? ha)).elim
  outcome _ y hy := by
    rw [h.outcome] at hy
    simp at hy

theorem After.obeys (h : After (b, none) j i) : b.Obeys j i b.session.settings where
  executes := h.executes
  answer hnone _ ha := (h.barred hnone).1 _ (spot_of_answer? ha)
  outcome hnone := (h.barred hnone).2

/-- An invocation that comes after the calls that set something obeys what they have set. -/
theorem Later.obeys (hl : Later s mayStop (b, none) (b', none))
    (hv : Visited s mayStop t remote b none)
    (hs : ∀ k ≥ b.calls.length, b'.setting? k = none)
    (hp : ∀ ph, b.phase? j = some ph → ph = .queued)
    (hr : b'.request? j = some (.invoke i)) (hi : i.pipeline.isEmpty = false) :
    b'.Obeys j i (b'.settings t) := by
  have hr' (r : Request) (h : b'.request? j = some r) : r = .invoke i :=
    Option.some.inj (h.symm.trans hr)
  have hv' : Visited s mayStop t remote b' none := hl.visited hv
  obtain ⟨-, hbefore | hafter⟩ := hl.before_or_after hv hs hp hr' hi
  · exact hbefore.obeys _
  · exact hv'.settings_of_queue hafter.queue ▸ hafter.obeys

end

end Bridge

end CommandBridge
