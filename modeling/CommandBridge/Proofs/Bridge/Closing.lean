import CommandBridge.Proofs.Bridge.Connections

/-! What a shutdown leaves open. Whoever takes the retired connections closes them one after the
other, so a connection that was replaced is closed unless its closer was stopped on the way. -/
namespace CommandBridge

variable {σ ρ : Type}

namespace Event

/-- The call that took the retired connections, and those connections. -/
def taken? : Event → Option (Nat × List Connection)
  | handedOut id cs => some (id, cs)
  | _ => none

/-- The call for which a connection is closed, and that connection. -/
def closes? : Event → Option (Nat × Connection)
  | closing id c => some (id, c)
  | _ => none

end Event

namespace Point

/-- The connections that a call has still to close. -/
def pending : Point ρ → List Connection
  | close cs => cs
  | closed _ rest _ | park (.closing _ rest _) => rest
  | _ => []

/-- A shutdown has not taken the connections yet, or has been stopped. -/
def isEarly : Point ρ → Prop
  | turn | approach _ | act _ | park .queued | park (.waiting _) | park .cancelled => True
  | _ => False

end Point

/-- What was installed before a call that stops everything took the connections has been taken by
it, or by a call before it. -/
def Sooner (stops : Nat → Prop) (es : List Event) : Prop :=
  ∀ j cs c k generation, stops j → [.opened c k generation, .handedOut j cs].Sublist es →
    c ∈ cs ∨ ∃ i cs', c ∈ cs' ∧ [.handedOut i cs', .handedOut j cs].Sublist es

theorem Sooner.append {stops stops' : Nat → Prop} {es new : List Event} (h : Sooner stops es)
    (hold : ∀ j cs, .handedOut j cs ∈ es → stops' j → stops j)
    (hnew : ∀ j cs c k generation, stops' j → .handedOut j cs ∈ new →
      .opened c k generation ∈ es ++ new →
        c ∈ cs ∨ ∃ i cs', c ∈ cs' ∧ [.handedOut i cs', .handedOut j cs].Sublist (es ++ new)) :
    Sooner stops' (es ++ new) := by
  intro j cs c k generation hj hsub
  rcases sublist_or_mem_of_append (l := [Event.opened c k generation]) hsub with hin | hm
  · have hm : .handedOut j cs ∈ es := hin.subset (by simp)
    refine (h j cs c k generation (hold j cs hm hj) hin).imp_right fun ⟨i, cs', hc, hi⟩ => ?_
    exact ⟨i, cs', hc, hi.trans (List.sublist_append_left _ _)⟩
  · exact hnew j cs c k generation hj hm (hsub.subset List.mem_cons_self)

namespace Bridge

section
variable {s : Setup σ ρ} {mayStop : Bridge σ ρ → Nat → Prop} {t : Target} {remote : σ}
variable {b b' : Bridge σ ρ} {id : Nat} {p p' : Point ρ} {r : Request}

theorem mem_told {α : Type} {g : Event → Option α} {x : α} {e : Event}
    (h : ∀ e', g e' = some x ↔ e' = e) : x ∈ b.told g ↔ e ∈ b.events := by
  simp only [told, List.mem_filterMap, h, exists_eq_right]

theorem mem_told_taken {j : Nat} {cs : List Connection} :
    (j, cs) ∈ b.told Event.taken? ↔ .handedOut j cs ∈ b.events :=
  mem_told fun e => by cases e <;> simp [Event.taken?]

theorem mem_told_closes {j : Nat} {c : Connection} :
    (j, c) ∈ b.told Event.closes? ↔ .closing j c ∈ b.events :=
  mem_told fun e => by cases e <;> simp [Event.closes?]

/-- A call closes what it has to, one connection at a time. -/
theorem Moves.pending (h : Moves s id b p b' p') (hr : ∀ c, b.request? id ≠ some (.close c))
    {c : Connection} (hc : c ∈ p.pending) : c ∈ p'.pending ∨ .closing id c ∈ b'.events := by
  cases h with
  | @close c' rest =>
    rcases List.mem_cons.mp hc with rfl | hc
    · exact .inr (by simp)
    · exact .inl hc
  | @closeLater c' rest =>
    rcases List.mem_cons.mp hc with rfl | hc
    · exact .inr (by simp)
    · exact .inl hc
  | closed => exact .inl hc
  | closedOwn hx | closeFailed hx =>
    obtain ⟨c', hx⟩ := hx
    exact absurd hx (hr c')
  | _ => simp [Point.pending] at hc

/-- A call takes the retired connections as its action at the session, and goes on to close them if
it is not the caller's own action. -/
theorem Moves.taken (h : Moves s id b p b' p') :
    b'.told Event.taken? = b.told Event.taken? ∨ ∃ a cs, p = .act a ∧
      a.taken? b.session = some cs ∧ b'.events = b.events ++ [.handedOut id cs] ∧
        (p' = .close cs ∨ ∃ a, b.request? id = some (.session a)) := by
  cases h with
  | @handOut a cs ht hr => exact .inr ⟨a, cs, rfl, ht, by simp, .inr hr⟩
  | @collect a cs ht => exact .inr ⟨a, cs, rfl, ht, by simp, .inl rfl⟩
  | @serve a => exact .inl (told_events b (fun _ => rfl) (fun _ => rfl) a)
  | close =>
    refine .inl ((told_closeNotes _ (fun _ => rfl) (fun _ _ => rfl) _ _).trans ?_)
    simp [Event.taken?]
  | closedOwn | closed => exact .inl (told_closeNotes _ (fun _ => rfl) (fun _ _ => rfl) _ _)
  | _ => exact .inl (by simp [Event.taken?])

/-- Before it takes the connections a shutdown only waits. -/
theorem Moves.early (h : Moves s id b p b' p') (hr : b.request? id = some .shutdown)
    (hp : p.Suits .shutdown) (he : p.isEarly) :
    p'.isEarly ∨ ∃ cs, (id, cs) ∈ b'.told Event.taken? := by
  cases h with
  | shutDown | enter | wait => exact .inl trivial
  | start hi => cases hr.symm.trans hi
  | @serve a answer ha =>
    obtain rfl : a = .retireAll := hp
    simp [SessionAction.answer?] at ha
  | handOut _ hx =>
    obtain ⟨a, hx⟩ := hx
    cases hr.symm.trans hx
  | @collect a cs => exact .inr ⟨cs, by simp [Event.taken?]⟩
  | reuse | refuse | connect | connectNever | connectLater => cases hp
  | _ => exact absurd he (by simp [Point.isEarly])

theorem Starts.early (h : Starts s b b' id p) (hr : b'.request? id = some .shutdown) :
    p.isEarly ∨ ∃ q, b.spot none id = some q ∧ ¬ q.isEarly := by
  cases h with
  | takeTurn | queue | approach | queued | waiting => exact .inl trivial
  | skip | execute | close => exact nomatch (request?_addCall b _).symm.trans hr
  | losing _ hp | connected hp | handshakeTimedOut hp | executed hp | executedOwn hp
  | executionTimedOut hp | closed hp | closeTimedOut hp =>
    exact .inr ⟨_, spot_resting hp, by simp [Point.isEarly]⟩

theorem Starts.pending (h : Starts s b b' id p) {q : Point ρ} (hq : b.spot none id = some q) :
    q.pending ⊆ p.pending := by
  cases h with
  | skip | takeTurn | queue | approach | execute | close => simp [spot, phase?] at hq
  | queued _ hp | waiting _ hp | losing _ hp | connected hp | handshakeTimedOut hp | executed hp
  | executedOwn hp | executionTimedOut hp | closed hp | closeTimedOut hp =>
    obtain rfl := Option.some.inj ((spot_resting hp).symm.trans hq)
    simp [Point.pending]

/-- A call has asked for a connection to be closed, or is about to, or has been stopped. -/
def Dealt (b : Bridge σ ρ) (f : Option (Nat × Point ρ)) (j : Nat) (c : Connection) : Prop :=
  .closing j c ∈ b.events ∨ b.isGone f j ∨ ∃ q, b.spot f j = some q ∧ c ∈ q.pending

theorem Moves.dealt {j : Nat} {c : Connection} (h : Moves s id b p b' p')
    (ht : b.takesTurn j = true) (hd : b.Dealt (some (id, p)) j c) :
    b'.Dealt (some (id, p')) j c := by
  obtain ⟨es, he⟩ := h.events_grow
  rcases hd with hx | hx | ⟨q, hq, hpend⟩
  · exact .inl (he ▸ List.mem_append_left _ hx)
  · exact .inr (.inl (h.isGone hx))
  · by_cases hj : j = id
    · subst hj
      obtain rfl : p = q := by simpa [spot_running] using hq
      have hn (c' : Connection) : b.request? j ≠ some (.close c') := by
        intro hx
        simp [takesTurn, hx, Request.needsTurn] at ht
      rcases h.pending hn hpend with hx | hx
      · exact .inr (.inr ⟨p', spot_running b' j p', hx⟩)
      · exact .inl hx
    · refine .inr (.inr ⟨q, ?_, hpend⟩)
      rw [spot_of_calls h.calls, spot_other hj]
      exact (spot_other hj).symm.trans hq

theorem Starts.dealt {j : Nat} {c : Connection} (h : Starts s b b' id p) (hd : b.Dealt none j c) :
    b'.Dealt (some (id, p)) j c := by
  obtain ⟨es, he, -⟩ := h.events
  rcases hd with hx | hx | ⟨q, hq, hpend⟩
  · exact .inl (he ▸ List.mem_append_left _ hx)
  · exact .inr (.inl (h.isGone hx))
  · by_cases hj : j = id
    · subst hj
      exact .inr (.inr ⟨p, spot_running b' j p, h.pending hq hpend⟩)
    · exact .inr (.inr ⟨q, (h.other hj).1.trans hq, hpend⟩)

theorem Dealt.stop {j : Nat} {c : Connection} {ph : Phase ρ} (hd : b.Dealt none j c)
    (hp : b.phase? id = some ph) : (b.stopped id).Dealt none j c := by
  obtain ⟨es, he, -⟩ := b.stopped_events id
  rcases hd with hx | hx | ⟨q, hq, hpend⟩
  · exact .inl (he ▸ List.mem_append_left _ hx)
  · exact .inr (.inl (isGone_of_stopped hp hx))
  · by_cases hj : j = id
    · subst hj
      exact .inr (.inl (isGone_stopped hp))
    · refine .inr (.inr ⟨q, ?_, hpend⟩)
      rwa [spot_stopped hp, spot_other hj]

/-- What has become of the connections that calls have taken. -/
structure Accounted (b : Bridge σ ρ) (f : Option (Nat × Point ρ)) : Prop where
  takers : ∀ j cs, (j, cs) ∈ b.told Event.taken? →
    ∃ r, b.request? j = some r ∧ (r.Wants .takeRetired ∨ r.Wants .retireAll)
  /-- A call that takes a turn closes what it takes. -/
  dealt : ∀ j cs c, (j, cs) ∈ b.told Event.taken? → b.takesTurn j = true → c ∈ cs → b.Dealt f j c
  emptied : ∀ j q, b.request? j = some .shutdown → b.spot f j = some q →
    q.isEarly ∨ ∃ cs, (j, cs) ∈ b.told Event.taken?
  sooner : Sooner (b.request? · = some .shutdown) b.events

/-- The books tell where everything is that a shutdown finds when it takes the connections. -/
theorem taken_of_sound (hs : b.ledger.Sound) {c : Connection}
    (hc : c ∈ b.told Event.installed?) :
    c ∈ b.session.retireAll.1 ∨ ∃ i cs, c ∈ cs ∧ .handedOut i cs ∈ b.events := by
  obtain ⟨place, hp⟩ := hs.kept c hc
  cases place with
  | live =>
    have hl : b.session.live = some c := hp
    exact .inl (by simp [Session.retireAll, Session.retire, hl])
  | retired i =>
    have hm : c ∈ b.session.retired := List.mem_of_getElem? hp
    exact .inl (List.mem_append_left _ hm)
  | handedOut n i =>
    obtain ⟨cs, hn, hi⟩ := Option.bind_eq_some_iff.mp hp
    have hcs : cs ∈ b.told Event.handedOut? := List.mem_of_getElem? hn
    obtain ⟨e, he, hx⟩ := List.mem_filterMap.mp hcs
    cases e <;> simp only [Event.handedOut?, Option.some.injEq, reduceCtorEq] at hx
    subst hx
    exact .inr ⟨_, _, List.mem_of_getElem? hi, he⟩

theorem sooner_of_quiet {stops stops' : Nat → Prop} {es : List Event} (h : Sooner stops b.events)
    (he : b'.events = b.events ++ es) (ht : b'.told Event.taken? = b.told Event.taken?)
    (hold : ∀ j cs, .handedOut j cs ∈ b.events → stops' j → stops j) :
    Sooner stops' b'.events := by
  rw [he]
  refine h.append hold fun j cs c k generation hj hm => ?_
  exact nomatch none_of_told he ht _ hm

theorem sooner_of_taking {stops : Nat → Prop} (h : Sooner stops b.events) (hs : b.ledger.Sound)
    {a : SessionAction} {cs : List Connection} (ht : a.taken? b.session = some cs)
    (he : b'.events = b.events ++ [.handedOut id cs]) (ha : stops id → a = .retireAll) :
    Sooner stops b'.events := by
  rw [he]
  refine h.append (fun _ _ _ hj => hj) fun j ds c k generation hj hm hopened => ?_
  obtain ⟨rfl, rfl⟩ : j = id ∧ ds = cs := by simpa using hm
  obtain rfl := ha hj
  obtain rfl : b.session.retireAll.1 = ds := Option.some.inj ht
  have hopened : .opened c k generation ∈ b.events := by simpa using hopened
  have hc : c ∈ b.told Event.installed? := List.mem_filterMap.mpr ⟨_, hopened, rfl⟩
  refine (taken_of_sound hs hc).imp_right fun ⟨i, cs', hc', hi⟩ => ⟨i, cs', hc', ?_⟩
  exact (List.singleton_sublist.mpr hi).append (List.Sublist.refl _)

theorem Moves.emptied (h : Moves s id b p b' p') (hr : b.request? id = some r) (hp : p.Suits r)
    (ha : b.Accounted (some (id, p))) {j : Nat} {q : Point ρ}
    (hj : b'.request? j = some .shutdown) (hq : b'.spot (some (id, p')) j = some q) :
    q.isEarly ∨ ∃ cs, (j, cs) ∈ b'.told Event.taken? := by
  have hgrow := (told_grows (g := Event.taken?) h.events_grow).subset
  rw [request?_of_calls h.calls] at hj
  rcases spot_move (p := p) h.calls hq with ⟨rfl, rfl⟩ | ⟨-, hq⟩
  · rcases ha.emptied j p hj (spot_running b j p) with hx | ⟨cs, hm⟩
    · obtain rfl : r = .shutdown := Option.some.inj (hr.symm.trans hj)
      exact h.early hj hp hx
    · exact .inr ⟨cs, hgrow hm⟩
  · exact (ha.emptied j q hj hq).imp_right fun ⟨cs, hm⟩ => ⟨cs, hgrow hm⟩

theorem Moves.accounted (h : Moves s id b p b' p') (hr : b.request? id = some r) (hp : p.Suits r)
    (hs : b.ledger.Sound) (ha : b.Accounted (some (id, p))) : b'.Accounted (some (id, p')) := by
  have hreq := request?_of_calls h.calls
  have hturn : b'.takesTurn = b.takesTurn := funext fun j => takesTurn_congr (hreq j)
  have hstops : (b'.request? · = some .shutdown) = (b.request? · = some .shutdown) := by
    funext j
    rw [hreq]
  have emptied (j : Nat) (q : Point ρ) := h.emptied (j := j) (q := q) hr hp ha
  rcases h.taken with ht | ⟨a, cs, rfl, htaken, he, hp'⟩
  · refine ⟨fun j ds hm => ?_, fun j ds c hm hj hc => ?_, emptied, ?_⟩
    · rw [hreq]
      exact ha.takers j ds (ht ▸ hm)
    · rw [hturn] at hj
      exact h.dealt hj (ha.dealt j ds c (ht ▸ hm) hj hc)
    · obtain ⟨es, he⟩ := h.events_grow
      rw [hstops]
      exact sooner_of_quiet ha.sooner he.symm ht fun _ _ _ hj => hj
  · have hwants : r.Wants .takeRetired ∨ r.Wants .retireAll := by
      have hw : r.Wants a := hp
      cases a with
      | takeRetired => exact .inl hw
      | retireAll => exact .inr hw
      | _ => simp [SessionAction.taken?] at htaken
    have new (j : Nat) (ds : List Connection) (hm : (j, ds) ∈ b'.told Event.taken?) :
        (j, ds) ∈ b.told Event.taken? ∨ j = id ∧ ds = cs := by
      rw [told_append he] at hm
      simpa [Event.taken?] using hm
    refine ⟨fun j ds hm => ?_, fun j ds c hm hj hc => ?_, emptied, ?_⟩
    · rw [hreq]
      rcases new j ds hm with hm | ⟨rfl, rfl⟩
      · exact ha.takers j ds hm
      · exact ⟨r, hr, hwants⟩
    · rw [hturn] at hj
      rcases new j ds hm with hm | ⟨rfl, rfl⟩
      · exact h.dealt hj (ha.dealt j ds c hm hj hc)
      · rcases hp' with rfl | ⟨a', hx⟩
        · exact .inr (.inr ⟨_, spot_running b' j _, hc⟩)
        · simp [takesTurn, hx, Request.needsTurn] at hj
    · rw [hstops]
      refine sooner_of_taking ha.sooner hs htaken he fun hx => ?_
      obtain rfl : r = .shutdown := Option.some.inj (hr.symm.trans hx)
      exact hp

theorem Starts.accounted (h : Starts s b b' id p) (hs : b.AllSuit none) (ha : b.Accounted none) :
    b'.Accounted (some (id, p)) := by
  have ht : b'.told Event.taken? = b.told Event.taken? := h.told rfl fun _ => rfl
  have known {j : Nat} {ds : List Connection} (hm : (j, ds) ∈ b.told Event.taken?) :
      b'.request? j = b.request? j := by
    obtain ⟨r, hr, -⟩ := ha.takers j ds hm
    rw [hr, h.request? hr]
  refine ⟨fun j ds hm => ?_, fun j ds c hm hj hc => ?_, fun j q hj hq => ?_, ?_⟩
  · rw [ht] at hm
    rw [known hm]
    exact ha.takers j ds hm
  · rw [ht] at hm
    rw [takesTurn_congr (known hm)] at hj
    exact h.dealt (ha.dealt j ds c hm hj hc)
  · rw [ht]
    rcases h.spot_cases hq with ⟨rfl, rfl⟩ | ⟨hji, hq⟩
    · rcases h.early hj with hx | ⟨q', hq', hx⟩
      · exact .inl hx
      · obtain ⟨r, hr, -⟩ := hs j q' hq'
        have hr' : b.request? j = some .shutdown := by rwa [hr, ← h.request? hr]
        exact .inr ((ha.emptied j q' hr' hq').resolve_left hx)
    · rw [(h.other hji).2] at hj
      exact ha.emptied j q hj hq
  · obtain ⟨es, he, -⟩ := h.events
    refine sooner_of_quiet ha.sooner he ht fun j cs hm hj => ?_
    rwa [known (mem_told_taken.mpr hm)] at hj

theorem Accounted.stop {ph : Phase ρ} (ha : b.Accounted none) (hp : b.phase? id = some ph) :
    (b.stopped id).Accounted none := by
  have ht : (b.stopped id).told Event.taken? = b.told Event.taken? :=
    told_stopped (fun _ _ => rfl) b id
  have hreq := request?_stopped b id
  refine ⟨fun j ds hm => ?_, fun j ds c hm hj hc => ?_, fun j q hj hq => ?_, ?_⟩
  · rw [hreq]
    exact ha.takers j ds (ht ▸ hm)
  · rw [takesTurn_congr (hreq j)] at hj
    exact (ha.dealt j ds c (ht ▸ hm) hj hc).stop hp
  · rw [ht]
    rcases spot_of_stopped hp hq with ⟨-, rfl⟩ | ⟨-, hq⟩
    · exact .inl trivial
    · exact ha.emptied j q (hreq j ▸ hj) hq
  · obtain ⟨es, he, -⟩ := b.stopped_events id
    refine sooner_of_quiet ha.sooner he ht fun j cs _ hj => ?_
    rwa [hreq] at hj

theorem Visited.accounted {f : Option (Nat × Point ρ)} (h : Visited s mayStop t remote b f) :
    b.Accounted f := by
  induction h with
  | new =>
    refine ⟨?_, ?_, ?_, fun j cs c k g hj => ?_⟩
    · simp [told, events, Bridge.new, Event.taken?]
    · simp [told, events, Bridge.new, Event.taken?]
    · simp [request?, Bridge.new]
    · simp [request?, Bridge.new] at hj
  | start h hs ih => exact hs.accounted h.suits ih
  | @move b b' id p p' h hm ih =>
    obtain ⟨r, hr, hp⟩ := h.suits id p (spot_running b id p)
    exact hm.accounted hr hp h.sound ih
  | @park b id ph h ih =>
    obtain ⟨r, hr, -⟩ := h.suits id (.park ph) (spot_running b id _)
    have hreq := request?_setPhase b id ph
    have hspot := spot_setPhase hr ph
    refine ⟨fun j ds hm => ?_, fun j ds c hm hj hc => ?_, fun j q hj hq => ?_, ?_⟩
    · rw [hreq]
      exact ih.takers j ds hm
    · rw [takesTurn_congr (hreq j)] at hj
      unfold Dealt isGone
      rw [hspot]
      exact ih.dealt j ds c hm hj hc
    · exact ih.emptied j q (hreq j ▸ hj) (hspot ▸ hq)
    · have hsooner := ih.sooner
      simp only [← hreq] at hsooner
      exact hsooner
  | @stop b id h hs ih =>
    rcases cancel_cases b id with he | ⟨ph, hp, -, he⟩
    · rwa [he]
    · rw [he]
      exact ih.stop hp
  | abandon h c ih => exact ⟨ih.takers, ih.dealt, ih.emptied, ih.sooner⟩
  | elapse h time ih => exact ⟨ih.takers, ih.dealt, ih.emptied, ih.sooner⟩
  | remote h x ih => exact ⟨ih.takers, ih.dealt, ih.emptied, ih.sooner⟩

theorem occupiesEndpoint_of_pending {q : Point ρ} {c : Connection} (ht : b.takesTurn id = true)
    (hq : b.spot none id = some q) (hc : c ∈ q.pending) : b.OccupiesEndpoint id := by
  obtain ⟨ph, hp, rfl⟩ := Option.map_eq_some_iff.mp hq
  cases ph with
  | closing c' rest timer => exact ⟨ht, .inr ⟨c', rest, timer, hp⟩⟩
  | _ => simp [Point.pending] at hc

/-- Only invocations and shutdowns take connections out of the session. -/
def Untouched (b : Bridge σ ρ) : Prop :=
  ∀ j a, b.request? j = some (.session a) → a ≠ .takeRetired ∧ a ≠ .retireAll

theorem Untouched.takesTurn {j : Nat} (hu : b.Untouched) (hr : b.request? j = some r)
    (hw : r.Wants .takeRetired ∨ r.Wants .retireAll) : b.takesTurn j = true := by
  rw [takesTurn_eq hr]
  cases r with
  | invoke i =>
    have hi : i.pipeline.isEmpty = false := hw.elim And.left And.left
    simp [Request.needsTurn, hi]
  | shutdown => rfl
  | session a =>
    obtain ⟨h1, h2⟩ := hu j a hr
    rcases hw with rfl | rfl
    · exact absurd rfl h1
    · exact absurd rfl h2
  | execute | close => exact hw.elim False.elim False.elim

/-- A call took the connection and was stopped before it asked for it to be closed. -/
def LeftOpen (b : Bridge σ ρ) (c : Connection) : Prop :=
  ∃ j cs, .handedOut j cs ∈ b.events ∧ c ∈ cs ∧ b.phase? j = some .cancelled ∧
    .closing j c ∉ b.events

/-- A call that took a connection before a shutdown that has ended is not at it any more. -/
theorem Visited.closed_of_taken (h : Visited s mayStop t remote b none) {j : Nat}
    {cs : List Connection} {c : Connection} {a : Answer ρ} (hm : .handedOut j cs ∈ b.events)
    (hc : c ∈ cs) (hj : b.takesTurn j = true) (hid : b.takesTurn id = true)
    (hp : b.phase? id = some (.ended a)) (hb : j ≠ id → [j, id].Sublist b.turnTrace) :
    .closing j c ∈ b.events ∨ b.LeftOpen c := by
  by_cases hx : .closing j c ∈ b.events
  · exact .inl hx
  right
  rcases h.accounted.dealt j cs c (mem_told_taken.mpr hm) hj hc with hy | hgone | ⟨q, hq, hpend⟩
  · exact absurd hy hx
  · exact ⟨j, cs, hm, hc, phase?_of_gone hgone, hx⟩
  · -- it would still have its turn, which the shutdown has had since
    have hhas := has_of_occupiesEndpoint (occupiesEndpoint_of_pending hj hq hpend)
    have hne : j ≠ id := by
      rintro rfl
      obtain rfl := Option.some.inj ((spot_resting hp).symm.trans hq)
      simp [Point.pending] at hpend
    exact absurd (h.takesTurns.serial.alone j id hhas (hb hne)).symm hne

/-- When a shutdown has ended, it has emptied the session, and the endpoint has been asked to close
each connection that was installed before, unless the call that took it was stopped on the way. -/
theorem Reachable.shutdown_closes (h : Reachable s mayStop t remote b) (hu : b.Untouched)
    {a : Answer ρ} (hr : b.request? id = some .shutdown) (hp : b.phase? id = some (.ended a)) :
    ∃ cs, .handedOut id cs ∈ b.events ∧ ∀ c k generation,
      [.opened c k generation, .handedOut id cs].Sublist b.events →
        (∃ j, .closing j c ∈ b.events) ∨ b.LeftOpen c := by
  have hv := h.visited
  have ha := hv.accounted
  have hid : b.takesTurn id = true := takesTurn_eq hr
  obtain ⟨cs, hm⟩ : ∃ cs, (id, cs) ∈ b.told Event.taken? := by
    rcases ha.emptied id _ hr (spot_resting hp) with hx | hx
    · exact hx.elim
    · exact hx
  refine ⟨cs, mem_told_taken.mp hm, fun c k generation hsub => ?_⟩
  rcases ha.sooner id cs c k generation hr hsub with hc | ⟨j, ds, hc, hbefore⟩
  · have hcl := hv.closed_of_taken (mem_told_taken.mp hm) hc hid hid hp (absurd rfl)
    exact hcl.imp_left fun hx => ⟨id, hx⟩
  · have hds : .handedOut j ds ∈ b.events := hbefore.subset List.mem_cons_self
    obtain ⟨r, hrj, hw⟩ := ha.takers j ds (mem_told_taken.mpr hds)
    have hj := hu.takesTurn hrj hw
    have htrace : [j, id].Sublist b.turnTrace := by
      have hs := (hbefore.filterMap Event.caller?).filter (b.takesTurn ·)
      simpa [turnTrace, Event.caller?, hj, hid] using hs
    have hcl := hv.closed_of_taken hds hc hj hid hp fun _ => htrace
    exact hcl.imp_left fun hx => ⟨j, hx⟩

end

/-- An endpoint that never answers when it is asked to close a connection. -/
def hangingSetup : Setup Nat Unit :=
  ⟨{ countingEndpoint with close := fun _ n => (n, .later none) }, 30000, 5000⟩

/-- A connection is replaced. -/
def replaced (b : Bridge Nat Unit) (name : String) : Bridge Nat Unit :=
  (b.submit hangingSetup (.session .ensureOpen)).submit hangingSetup
    (.session (.setCredential (.token ⟨name⟩)))

/-- Two connections have been replaced, and an invocation closes the first of them. -/
def closingFirst : Bridge Nat Unit :=
  let b := (Bridge.new localTarget 0).submit hangingSetup
    (.session (.setCredential (.token ⟨"k"⟩)))
  (replaced (replaced b "l") "m").submit hangingSetup (.invoke singleStage)

/-- The invocation is stopped, and then the bridge shuts down. -/
def stoppedClosing : Bridge Nat Unit := (closingFirst.cancel 5).submit hangingSetup .shutdown

theorem reachable_stoppedClosing :
    Reachable hangingSetup (fun _ _ => True) localTarget 0 stoppedClosing := by
  unfold stoppedClosing closingFirst replaced
  dsimp only
  refine .step (.step (.step ?_ (.submit _)) (.cancel trivial)) (.submit _)
  exact .step (.step (.step (.step (.step .new (.submit _)) (.submit _)) (.submit _)) (.submit _))
    (.submit _)

theorem untouched_stoppedClosing : stoppedClosing.Untouched := by
  have he : stoppedClosing.calls.map (·.request) =
      [.session (.setCredential (.token ⟨"k"⟩)), .session .ensureOpen,
        .session (.setCredential (.token ⟨"l"⟩)), .session .ensureOpen,
        .session (.setCredential (.token ⟨"m"⟩)), .invoke singleStage, .shutdown] := rfl
  intro j a hj
  obtain ⟨call, hc, hr⟩ := Option.map_eq_some_iff.mp hj
  have hm : call.request ∈ stoppedClosing.calls.map (·.request) :=
    List.mem_map_of_mem (List.mem_of_getElem? hc)
  rw [hr, he] at hm
  simp only [List.mem_cons, Request.session.injEq, reduceCtorEq, List.not_mem_nil, or_false] at hm
  rcases hm with rfl | rfl | rfl | rfl | rfl <;> simp

theorem shutdown_closes_stoppedClosing : stoppedClosing.request? 6 = some .shutdown ∧
    stoppedClosing.phase? 6 = some (.ended .done) ∧
      ∃ cs, .handedOut 6 cs ∈ stoppedClosing.events ∧ ∀ c k generation,
        [.opened c k generation, .handedOut 6 cs].Sublist stoppedClosing.events →
          (∃ j, .closing j c ∈ stoppedClosing.events) ∨ stoppedClosing.LeftOpen c :=
  ⟨rfl, rfl, reachable_stoppedClosing.shutdown_closes untouched_stoppedClosing rfl rfl⟩

/-- The second connection was installed before the shutdown and is never closed. -/
theorem not_closed_stoppedClosing :
    Reachable hangingSetup (fun _ _ => True) localTarget 0 stoppedClosing ∧
      stoppedClosing.Untouched ∧ stoppedClosing.request? 6 = some .shutdown ∧
        stoppedClosing.phase? 6 = some (.ended .done) ∧
          [.opened ⟨"1", localTarget⟩ (.token ⟨"l"⟩) 2, .handedOut 6 []].Sublist
            stoppedClosing.events ∧
            ∀ j, .closing j ⟨"1", localTarget⟩ ∉ stoppedClosing.events := by
  refine ⟨reachable_stoppedClosing, untouched_stoppedClosing, rfl, rfl, ?_, fun j hm => ?_⟩
  · have hopened : .opened ⟨"1", localTarget⟩ (.token ⟨"l"⟩) 2 ∈ stoppedClosing.events.take 7 :=
      List.mem_of_getElem? (i := 6) rfl
    have htaken : .handedOut 6 [] ∈ stoppedClosing.events.drop 7 :=
      List.mem_of_getElem? (i := 5) rfl
    rw [← List.take_append_drop 7 stoppedClosing.events]
    exact (List.singleton_sublist.mpr hopened).append (List.singleton_sublist.mpr htaken)
  · have hc : stoppedClosing.told Event.closes? = [(5, ⟨"0", localTarget⟩)] := rfl
    have hj := mem_told_closes.mpr hm
    rw [hc] at hj
    simp at hj

end Bridge

end CommandBridge
