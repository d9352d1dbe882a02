import CommandBridge.Proofs.Bridge.AuditTrace
import CommandBridge.Proofs.Bridge.Reconfiguration
import CommandBridge.Proofs.Bridge.Scenario

/-! A call that is stopped in the line for its turn leaves no trace: without it the same scenario
takes the bridge through the same states. -/
namespace CommandBridge

variable {σ ρ : Type}

theorem Event.audited?_renumber (f : Nat → Nat) (e : Event) :
    (e.renumber f).audited? = e.audited?.map (Event.renumber f) := by
  cases e <;> rfl

theorem Event.audited?_of_caller {e : Event} (h : e.caller? = none) : e.audited? = none := by
  cases e with
  | started | finished => cases h
  | _ => rfl

theorem SessionAction.level_le (a : SessionAction) : a.level ≤ 15 := by
  cases a <;> simp [level]

/-- Nothing is further from its end than a call that waits for its turn. -/
theorem Point.rank_le_queued (p : Point ρ) : p.rank ≤ (park .queued : Point ρ).rank := by
  cases p with
  | park ph =>
    cases ph with
    | queued => exact le_rfl
    | waiting a =>
      have ha := a.level_le
      exact Prod.Lex.toLex_le_toLex.mpr (.inl (by omega))
    | _ => exact Prod.Lex.toLex_le_toLex.mpr (.inl (by simp))
  | approach a | act a =>
    have ha := a.level_le
    exact Prod.Lex.toLex_le_toLex.mpr (.inl (by omega))
  | _ => exact Prod.Lex.toLex_le_toLex.mpr (.inl (by simp))

theorem map_eq_self {α : Type} {f : α → α} {l : List α} (h : ∀ a ∈ l, f a = a) : l.map f = l :=
  (List.map_congr_left h).trans (List.map_id l)

namespace Lock

variable {l : Lock} {x : Nat}

theorem renumber_of_line (h : ∀ j ∈ l.line, j < x) : l.renumber (above x) = l := by
  obtain ⟨holder, waiting⟩ := l
  have hholder : holder.map (above x) = holder := by
    cases holder with
    | none => rfl
    | some j => exact congrArg some (above_of_lt (h j List.mem_cons_self))
  have hwaiting : waiting.map (above x) = waiting := by
    apply map_eq_self
    intro j hj
    exact above_of_lt (h j (List.mem_append_right _ hj))
  unfold renumber
  rw [hholder, hwaiting]

/-- Without the call that has just got in line the lock is as it was before. -/
theorem without_request (h : ∀ j ∈ l.line, j < x) (hx : (l.request x).holder ≠ some x) :
    (l.request x).Without x l := by
  have hl := renumber_of_line h
  cases hh : l.holder with
  | none => exact absurd (by simp [request, hh]) hx
  | some k =>
    have hr : l.request x = { l with waiting := l.waiting ++ [x] } := by simp [request, hh]
    have hfilter : l.waiting.filter (· != x) = l.waiting := by
      apply List.filter_eq_self.mpr
      intro j hj
      exact bne_iff_ne.mpr (h j (List.mem_append_right _ hj)).ne
    rw [hr]
    constructor
    · exact (congrArg Lock.holder hl).symm
    · show (l.waiting ++ [x]).filter (· != x) = (l.renumber (above x)).waiting
      rw [hl, List.filter_append, hfilter]
      simp

theorem ahead_of_holder (h : l.holder = some x) : l.ahead x = [] := by simp [ahead, line, h]

end Lock

theorem renumbered_of_caller {f : Nat → Nat} {h : List (Nat × Event)}
    (hf : ∀ y ∈ h, ∀ id, y.2.caller? = some id → f id = id) : renumbered f h = h := by
  unfold renumbered
  apply map_eq_self
  intro y hy
  exact Prod.ext rfl (Event.renumber_of_caller (hf y hy))

namespace Bridge

/-- Bridge `b'` is bridge `b` without call `x`, which was request `r` at time `time`, and what is
there of that call is no more than the line that its request has left in the log. -/
structure Traceless (x : Nat) (r : Request) (time : Nat) (b b' : Bridge σ ρ) : Prop
    extends b.Without x (r.events.map (time, ·)) b' where
  answers : ∀ id, b.answer? (above x id) = b'.answer? id
  due : b.nextDue? = b'.nextDue?.map fun y => (y.1, above x y.2)
  audit : b.audit = b'.audit.map (Event.renumber (above x))
  aloof : ∀ e ∈ b.events, e.caller? ≠ some x

section
variable {s : Setup σ ρ} {mayStop : Bridge σ ρ → Nat → Prop} {t : Target} {remote : σ}
variable {b b' : Bridge σ ρ} {m m' : Moment σ ρ} {x j : Nat} {q : Point ρ} {r : Request}
variable {extra : List (Nat × Event)}

theorem caller?_of_events (r : Request) {e : Event} (he : e ∈ r.events) : e.caller? = none := by
  cases r with
  | shutdown =>
    obtain rfl := List.mem_singleton.mp he
    rfl
  | _ => cases he

theorem Without.events {time : Nat} (h : b.Without x (r.events.map (time, ·)) b') :
    ∃ es es', b.events = es ++ r.events ++ es' ∧
      es ++ es' = b'.events.map (Event.renumber (above x)) := by
  obtain ⟨es, es', hevents, hothers⟩ := h.history.events
  have hextra : (r.events.map (time, ·)).map (·.2) = r.events := by
    rw [List.map_map]
    exact List.map_id' _
  rw [hextra] at hevents
  exact ⟨es, es', hevents, hothers⟩

theorem Without.answer? (h : b.Without x extra b') (id : Nat) :
    b.answer? (above x id) = b'.answer? id := by
  unfold Bridge.answer?
  rw [h.phase? id]

theorem Without.audit {time : Nat} (h : b.Without x (r.events.map (time, ·)) b') :
    b.audit = b'.audit.map (Event.renumber (above x)) := by
  obtain ⟨es, es', hevents, hothers⟩ := h.events
  have hnone : r.events.filterMap Event.audited? = [] :=
    List.filterMap_eq_nil_iff.mpr fun e he => e.audited?_of_caller (caller?_of_events r he)
  unfold Bridge.audit told
  rw [hevents, List.filterMap_append, List.filterMap_append, hnone, List.append_nil,
    ← List.filterMap_append, hothers, List.filterMap_map, List.map_filterMap]
  congr 1
  funext e
  exact e.audited?_renumber _

theorem Without.aloof {time : Nat} (h : b.Without x (r.events.map (time, ·)) b') {e : Event}
    (he : e ∈ b.events) : e.caller? ≠ some x := by
  obtain ⟨es, es', hevents, hothers⟩ := h.events
  rw [hevents, List.mem_append, List.mem_append] at he
  intro hx
  have hm : e ∈ es ++ es' := by
    rcases he with (he | he) | he
    · exact List.mem_append_left _ he
    · exact nomatch (caller?_of_events r he).symm.trans hx
    · exact List.mem_append_right _ he
  rw [hothers] at hm
  obtain ⟨e', -, rfl⟩ := List.mem_map.mp hm
  exact Event.caller?_renumber_ne x e' hx

theorem Traceless.of_without {time : Nat} (h : b.Without x (r.events.map (time, ·)) b') :
    b.Traceless x r time b' where
  toWithout := h
  answers := h.answer?
  due := h.nextDue?
  audit := h.audit
  aloof _ := h.aloof

/-- A call that waits for its turn has never done anything else. -/
theorem Later.queued_before (hl : Later s mayStop m m') (hv : Visited s mayStop t remote m.1 m.2)
    (hq : m.1.spot m.2 j = some q) (hq' : m'.1.spot m'.2 j = some (.park .queued)) :
    q = .park .queued := by
  obtain ⟨q₁, hq₁, h⟩ := Later.rank hl hv hq
  obtain rfl := Option.some.inj (hq₁.symm.trans hq')
  rcases h with h | h
  · exact h.symm
  · exact absurd h (not_lt_of_ge q.rank_le_queued)

theorem Visited.queued_of_waiting (hv : Visited s mayStop t remote b none)
    (hw : x ∈ b.turn.waiting) : b.phase? x = some .queued :=
  queued_of_waits ((Locks.orderly hv.inOrder .turn).waiting x hw)

theorem Later.queued_of_queued (hl : Later s mayStop (b, none) (b', none))
    (hv : Visited s mayStop t remote b none) (hr : b.request? x = some r)
    (hp : b'.phase? x = some .queued) : b.phase? x = some .queued := by
  obtain ⟨ph, hph⟩ := exists_phase hr
  have hq := Later.queued_before hl hv (spot_resting hph) (spot_resting hp)
  rw [hph, Point.park.inj hq]

/-- A call that is still in line has not been passed the turn before. -/
theorem Later.not_holder (hl : Later s mayStop (b, none) (b', none))
    (hv : Visited s mayStop t remote b none) (hr : b.request? x = some r)
    (hw : x ∈ b'.turn.waiting) : b.turn.holder ≠ some x := by
  intro hx
  have ho : b'.turn.Orderly fun j => b'.stances none j .turn :=
    Locks.orderly (Later.visited hl hv).inOrder .turn
  have hwaits := ho.waiting x hw
  have hp' := queued_of_waits hwaits
  have hp := hl.queued_of_queued hv hr hp'
  have hahead : (b'.turn.ahead x).Sublist (b.turn.ahead x) :=
    Later.ahead hl hv (spot_resting hp) rfl (spot_resting hp')
  rw [Lock.ahead_of_holder hx, List.sublist_nil] at hahead
  have hx' := ho.holder_of_ahead hwaits
  rw [hahead] at hx'
  exact ho.waiting_ne_holder hx' hw rfl

theorem phase?_cancel_queued (hp : b.phase? x = some .queued) :
    (b.cancel x).phase? x = some .cancelled := by
  rw [cancel_queued hp]
  exact phase?_of_spot ((congrFun (spot_stopped hp) x).trans (spot_running b x _))

theorem Visited.not_holder_of_cancelled (hv : Visited s mayStop t remote b none)
    (hp : b.phase? x = some .cancelled) : b.turn.holder ≠ some x := by
  intro hx
  obtain ⟨r, -, hst⟩ := hv.stance_of_phase hp
  exact (Locks.orderly hv.inOrder .turn).holder x hx (congrFun hst .turn)

/-- A call that gets in line for its turn leaves everything else as it was. -/
theorem Visited.without_queued (hv : Visited s mayStop t remote b none)
    (hx : (b.turn.request b.calls.length).holder ≠ some b.calls.length) :
    (({ (b.addCall r).recordAll r.events with turn := b.turn.request b.calls.length } :
      Bridge σ ρ).setPhase b.calls.length .queued).Without b.calls.length
        (r.events.map (b.now, ·)) b where
  now := rfl
  remote := rfl
  session := rfl
  turn := Lock.without_request (fun _ => hv.inOrder.lt_of_mem_line .turn) hx
  access := (Lock.renumber_of_line fun _ => hv.inOrder.lt_of_mem_line .access).symm
  ready := by
    symm
    apply map_eq_self
    intro j hj
    obtain ⟨g, -, hh⟩ := Locks.passed hv.inOrder j hj
    exact above_of_lt (hv.inOrder.lt_of_mem_line g (by simp [Lock.line, hh]))
  calls := by
    show ((b.calls ++ [_]).modify b.calls.length _).eraseIdx b.calls.length = b.calls
    rw [eraseIdx_modify, List.eraseIdx_append_of_length_le le_rfl]
    simp
  idle := by
    left
    rw [phase?_setPhase, if_pos rfl]
    simp [phase?, addCall, recordAll]
  history := by
    refine ⟨b.history, [], (List.append_nil _).symm, ?_⟩
    rw [List.append_nil]
    symm
    apply renumbered_of_caller
    intro y hy id hid
    obtain ⟨r', hr'⟩ := hv.takesTurns.known y.2 (List.mem_map_of_mem hy) id hid
    exact above_of_lt (request?_lt hr')

theorem Visited.without_submit (hv : Visited s mayStop t remote b none)
    (hp : (b.submit s r).phase? b.calls.length = some .queued) :
    (b.submit s r).Without b.calls.length (r.events.map (b.now, ·)) b := by
  obtain ⟨b₀, p, hs, hl⟩ := advances_submit (s := s) b r
  have hr := request?_submit (s := s) b r
  obtain rfl : p = .park .queued :=
    Later.queued_before hl.later (hv.start hs) (spot_running b₀ _ p) (spot_resting hp)
  generalize b.submit s r = c at hr hl
  cases hl with
  | park =>
    cases hs with
    | @queue r' _ hx =>
      rw [request?_setPhase] at hr
      obtain rfl := Option.some.inj ((request?_addCall b r').symm.trans hr)
      exact hv.without_queued hx
  | move hm _ => cases hm

/-- A call that is stopped in line never gets its turn. -/
theorem Visited.not_holder (hv : Visited s (fun _ _ => True) t remote b none)
    (hr : b.request? x = some r) {during after part : List (Happening σ)}
    (hw : x ∈ (b.play s during).turn.waiting) (hpart : part <+: during ++ .cancel x :: after) :
    (b.play s part).turn.holder ≠ some x := by
  have before {part : List (Happening σ)} (hpart : part <+: during) :
      (b.play s part).turn.holder ≠ some x := by
    obtain ⟨others, rfl⟩ := hpart
    rw [play_append] at hw
    have hl := hv.later_play part
    have hv' := Later.visited hl hv
    exact (hv'.later_play others).not_holder hv' (Later.request? hl hr) hw
  rcases List.prefix_or_prefix_of_prefix hpart (List.prefix_append during _) with h | ⟨others, rfl⟩
  · exact before h
  · rw [List.prefix_append_right_inj, List.prefix_cons_iff] at hpart
    rcases hpart with rfl | ⟨others, rfl, -⟩
    · rw [List.append_nil]
      exact before List.prefix_rfl
    · have hl := hv.later_play during
      have hv' := Later.visited hl hv
      have hp := hv'.queued_of_waiting hw
      have hp' := phase?_cancel_queued hp
      have hv'' : Visited s (fun _ _ => True) t remote ((b.play s during).cancel x) none :=
        hv'.stop trivial
      have hl'' := hv''.later_play others
      have hend := Later.spot_final hl'' hv'' (spot_resting hp') rfl
      rw [play_append]
      exact (Later.visited hl'' hv'').not_holder_of_cancelled (phase?_of_spot hend)

/-- A call that is stopped while it waits in line for its turn leaves no trace. The scenario without
that call takes the bridge through the same states, however it goes on. A call that was passed the
turn waits no more, also before it has gone on: the line moves when it is stopped, and this is not
about such a call. -/
theorem Reachable.traceless (h : Reachable s (fun _ _ => True) t remote b)
    {during after part : List (Happening σ)}
    (hw : b.calls.length ∈ (b.play s (.submit r :: during)).turn.waiting)
    (hpart : part <+: during ++ .cancel b.calls.length :: after) :
    Traceless b.calls.length r b.now (b.play s (.submit r :: part))
      (b.play s (part.filterMap (·.without b.calls.length))) := by
  have hv := h.visited
  have hl : Later s (fun _ _ => True) (b, none) (b.submit s r, none) := (advances_submit b r).later
  have hv' := Later.visited hl hv
  have hr := request?_submit (s := s) b r
  have hqueued : (b.submit s r).phase? b.calls.length = some .queued := by
    have hl' := hv'.later_play during
    have hv'' := Later.visited hl' hv'
    exact hl'.queued_of_queued hv' hr (hv''.queued_of_waiting hw)
  apply Traceless.of_without
  apply (hv.without_submit hqueued).play
  intro others hothers
  exact hv'.not_holder hr hw (hothers.trans hpart)

end

/-- A bridge at which an invocation is executed. -/
def oneExecuting : Bridge Nat Unit :=
  ((Bridge.new localTarget 0).submit countingSetup
    (.session (.setCredential (.token ⟨"k"⟩)))).submit countingSetup (.invoke singleStage)

/-- The next call is stopped in line, in front of a shutdown and another invocation. -/
def stoppedInLine : List (Happening Nat) :=
  [.submit .shutdown, .submit (.invoke singleStage), .cancel 2, .proceed, .proceed, .proceed]

theorem traceless_stoppedInLine :
    (oneExecuting.play countingSetup
      (.submit (.invoke singleStage) :: stoppedInLine)).startedCalls = [1, 4] ∧
    Traceless 2 (.invoke singleStage) 0
      (oneExecuting.play countingSetup (.submit (.invoke singleStage) :: stoppedInLine))
      (oneExecuting.play countingSetup
        [.submit .shutdown, .submit (.invoke singleStage), .proceed, .proceed, .proceed]) := by
  have hreach : Reachable countingSetup (fun _ _ => True) localTarget 0 oneExecuting :=
    .step (.step .new (.submit _)) (.submit _)
  have hwaiting : 2 ∈ (oneExecuting.play countingSetup
      [.submit (.invoke singleStage), .submit .shutdown,
        .submit (.invoke singleStage)]).turn.waiting := by
    decide +kernel
  constructor
  · decide +kernel
  · exact hreach.traceless (r := .invoke singleStage) hwaiting List.prefix_rfl

end Bridge

end CommandBridge
