import CommandBridge.Proofs.Bridge.Openings
import CommandBridge.Proofs.Bridge.Succession

/-! Handshakes that come to nothing. One that fails, takes too long or is stopped leaves the session
as it was when it was asked for, and the next call that wants a connection has a handshake of its
own. -/
namespace CommandBridge

variable {σ ρ : Type}

/-- Where the handshake goes that a call is at. -/
def Point.opens? : Point ρ → Option Target
  | connected t _ _ | handshakeTimedOut t | park (.opening t _ _) => some t
  | _ => none

section
variable {p : Point ρ} {t : Target}

theorem Point.stance_of_opens? (h : p.opens? = some t) (r : Request) :
    p.stance r .access = .has := by
  cases p with
  | connected | handshakeTimedOut => rfl
  | park ph =>
    cases ph with
    | opening => rfl
    | _ => cases h
  | _ => cases h

theorem Point.not_isPastHandshake (h : p.opens? = some t) : ¬ p.isPastHandshake := by
  cases p with
  | connected | handshakeTimedOut => exact lt_irrefl _
  | park ph =>
    cases ph with
    | opening => simp [isPastHandshake, rank, Prod.Lex.toLex_lt_toLex]
    | _ => cases h
  | _ => cases h

end

namespace Bridge

/-- Call `id` is at a handshake that it asked for when the session was `x`. -/
structure Opening (x : Session) (m : Moment σ ρ) (id : Nat) : Prop where
  point : ∃ q t, m.1.spot m.2 id = some q ∧ q.opens? = some t
  /-- Connections may have been given up meanwhile. -/
  session : ∃ names, m.1.session = { x.discardAbandoned with abandoned := names }
  live : x.discardAbandoned.live = none
  latest : ∃ t k, (m.1.told Event.handshake?).getLast? = some (id, t, k)

/-- A call that comes for the connection has a handshake of its own with what the session has now,
or is refused where there is no credential. -/
structure Retries (s : Setup σ ρ) (b : Bridge σ ρ) (id : Nat) : Prop where
  refused : b.session.credential = none → Refused b (b.ensureOpen s id) id
  asks : ∀ k, b.session.credential = some k → ∃ b' p, Moves s id b (.act .ensureOpen) b' p ∧
    b'.events = b.events ++ [.handshake id b.session.target k] ∧
      p.opens? = some b.session.target ∧ Leads s id p b' (b.ensureOpen s id)

section
variable {s : Setup σ ρ} {mayStop : Bridge σ ρ → Nat → Prop} {t : Target} {remote : σ}
variable {b b' : Bridge σ ρ} {m m' : Moment σ ρ} {id j : Nat} {p p' q q' : Point ρ} {x : Session}
variable {t' : Target}

theorem Later.events_grow (hl : Later s mayStop m m') : m.1.events <+: m'.1.events := by
  induction hl with
  | refl => exact List.prefix_rfl
  | tail _ hn ih => exact ih.trans hn.events_grow

/-- What has not been told between two moments has not been told up to one in between. -/
theorem Later.told_eq {α : Type} {g : Event → Option α} {m₁ : Moment σ ρ}
    (hl : Later s mayStop m m₁) (hn : Next s mayStop m₁ m') (h : m'.1.told g = m.1.told g) :
    m₁.1.told g = m.1.told g ∧ m'.1.told g = m₁.1.told g := by
  have hfirst : m.1.told g <+: m₁.1.told g := told_grows hl.events_grow
  have hsecond : m₁.1.told g <+: m'.1.told g := told_grows hn.events_grow
  have heq : m₁.1.told g = m.1.told g :=
    (hfirst.eq_of_length_le (h ▸ hsecond.length_le)).symm
  exact ⟨heq, h.trans heq.symm⟩

theorem Later.isPastHandshake (hl : Later s mayStop m m')
    (hv : Visited s mayStop t remote m.1 m.2) (hq : m.1.spot m.2 id = some q)
    (hp : q.isPastHandshake) : ∃ q', m'.1.spot m'.2 id = some q' ∧ q'.isPastHandshake := by
  obtain ⟨q', hq', rfl | hlt⟩ := hl.rank hv hq
  · exact ⟨q', hq', hp⟩
  · exact ⟨q', hq', hlt.trans hp⟩

/-! ### While a call is at a handshake -/

theorem Moves.opening (h : Moves s id b (.act .ensureOpen) b' p) :
    p.isPastHandshake ∨ Opening b.session (b', some (id, p)) id := by
  have hspot := spot_running b' id p
  cases h with
  | serve h => simp [SessionAction.answer?] at h
  | handOut h | collect h => simp [SessionAction.taken?] at h
  | reuse | refuse =>
    exact .inl (by simp [Point.isPastHandshake, Point.rank, Prod.Lex.toLex_lt_toLex])
  | connect hl | connectNever hl | connectLater hl =>
    exact .inr ⟨⟨_, _, hspot, rfl⟩, ⟨_, rfl⟩, hl, by simp [Event.handshake?]⟩

theorem Visited.holder_of_opens? {f : Option (Nat × Point ρ)} (hv : Visited s mayStop t remote b f)
    (hq : b.spot f id = some q) (ho : q.opens? = some t') : b.access.holder = some id := by
  obtain ⟨r, hr, -⟩ := hv.suits id q hq
  refine (Locks.orderly hv.inOrder .access).has id ?_
  simp only [stances, hr, hq]
  exact Point.stance_of_opens? ho r

/-- Only the call that is at a handshake changes the session or asks for another one. Others can but
give connections up. -/
theorem Next.untouched (hn : Next s mayStop m m') (hv : Visited s mayStop t remote m.1 m.2)
    (hq : m.1.spot m.2 id = some q) (ho : q.opens? = some t') :
    (∃ p', m'.2 = some (id, p') ∧ Moves s id m.1 q m'.1 p') ∨
      (∃ names, m'.1.session = { m.1.session with abandoned := names }) ∧
        m'.1.told Event.handshake? = m.1.told Event.handshake? := by
  cases hn with
  | start h => exact .inr ⟨⟨_, by rw [h.session]⟩, h.told rfl fun _ => rfl⟩
  | @move b b' i p p' h =>
    obtain ⟨r, hr, -⟩ := hv.suits i p (spot_running b i p)
    obtain ⟨r', hr', -⟩ := hv.suits id q hq
    rcases h.session (r := r) with hhas | ⟨hx, he⟩
    · have hi : b.stances (some (i, p)) i .access = .has := by rwa [stances_running hr]
      have hid : b.stances (some (i, p)) id .access = .has := by
        simp only [stances, hr', hq]
        exact Point.stance_of_opens? ho r'
      obtain rfl : id = i := Locks.has_unique hv.inOrder hid hi
      obtain rfl := Option.some.inj ((spot_running b id p).symm.trans hq)
      exact .inl ⟨p', rfl, h⟩
    · exact .inr ⟨⟨_, by rw [hx]⟩, he⟩
  | @stop b i =>
    rcases cancel_cases b i with he | ⟨ph, -, -, he⟩
    · exact .inr ⟨⟨_, by rw [he]⟩, by rw [he]⟩
    · rw [he]
      refine .inr ⟨?_, told_stopped (fun _ _ => rfl) b i⟩
      rcases b.stopped_cases i with ⟨hx, -⟩ | ⟨c, timer, i', -, -, hx, -⟩
      · exact ⟨_, hx⟩
      · exact ⟨_, hx⟩
  | park | abandon | elapse | remote => exact .inr ⟨⟨_, rfl⟩, rfl⟩

theorem Moves.past_of_opens? (h : Moves s id b q b' p') (ho : q.opens? = some t') :
    p'.isPastHandshake := by
  cases h with
  | install | fail | timeOut =>
    simp [Point.isPastHandshake, Point.rank, Prod.Lex.toLex_lt_toLex]
  | _ => cases ho

theorem Starts.opens? {ph : Phase ρ} (h : Starts s b b' id p) (hp : b.phase? id = some ph)
    (ho : (Point.park ph).opens? = some t') : p.opens? = some t' := by
  cases h with
  | skip | takeTurn | queue | approach | execute | close => simp [phase?] at hp
  | connected hp' | handshakeTimedOut hp' =>
    obtain rfl := Option.some.inj (hp.symm.trans hp')
    exact ho
  | queued _ hp' | waiting _ hp' | losing _ hp' | executed hp' | executedOwn hp'
  | executionTimedOut hp' | closed hp' | closeTimedOut hp' =>
    obtain rfl := Option.some.inj (hp.symm.trans hp')
    cases ho

theorem Goes.opens? (h : Goes s m m' j q q') (ho : q.opens? = some t') :
    q'.opens? = some t' ∨ q'.isPastHandshake := by
  cases h with
  | stays => exact .inl ho
  | starts hp h => exact .inl (h.opens? hp ho)
  | moves _ h => exact .inr (h.past_of_opens? ho)
  | stops => exact .inr (by simp [Point.isPastHandshake, Point.rank, Prod.Lex.toLex_lt_toLex])

theorem Next.opening (hn : Next s mayStop m m') (hv : Visited s mayStop t remote m.1 m.2)
    (h : Opening x m id) :
    Opening x m' id ∨ ∃ q, m'.1.spot m'.2 id = some q ∧ q.isPastHandshake := by
  obtain ⟨q, t', hq, ho⟩ := h.point
  obtain ⟨q', hq', hg⟩ := hn.spot hv hq
  rcases hg.opens? ho with ho' | hpast
  · rcases hn.untouched hv hq ho with ⟨p', hf, hm⟩ | ⟨⟨names, hx⟩, he⟩
    · rw [hf] at hq'
      obtain rfl := Option.some.inj ((spot_running m'.1 id p').symm.trans hq')
      exact absurd (hm.past_of_opens? ho) (Point.not_isPastHandshake ho')
    · obtain ⟨names', hx'⟩ := h.session
      exact .inl ⟨⟨q', t', hq', ho'⟩, ⟨names, by rw [hx, hx']⟩, h.live, he ▸ h.latest⟩
  · exact .inr ⟨q', hq', hpast⟩

/-- A call that is at the session for its connection comes to a handshake, unless it needs none, and
from there to the end of that handshake. -/
theorem Later.opening (hl : Later s mayStop (b, some (id, .act .ensureOpen)) m)
    (hv : Visited s mayStop t remote b (some (id, .act .ensureOpen))) :
    m = (b, some (id, .act .ensureOpen)) ∨ Opening b.session m id ∨
      ∃ q, m.1.spot m.2 id = some q ∧ q.isPastHandshake := by
  induction hl with
  | refl => exact .inl rfl
  | @tail m m' hl hn ih =>
    have hv' : Visited s mayStop t remote m.1 m.2 := Later.visited hl hv
    right
    rcases ih with rfl | hopening | ⟨q, hq, hpast⟩
    · cases hn with
      | @move _ b' _ _ p' h =>
        exact h.opening.symm.imp_right fun hp => ⟨p', spot_running b' id p', hp⟩
    · exact hn.opening hv' hopening
    · exact .inr (hn.isPastHandshake hv' hq hpast)

/-! ### The end of a handshake without a connection -/

/-- The session stays as it is, and the lock goes to the first of those who wait for it. -/
theorem Next.unopened (hn : Next s mayStop m m') (hv : Visited s mayStop t remote m.1 m.2)
    (hq : m.1.spot m.2 id = some q) (ho : q.opens? = some t') (hq' : m'.1.spot m'.2 id = some q')
    (hpast : q'.isPastHandshake) (hnone : m'.1.told Event.opened? = m.1.told Event.opened?) :
    m'.1.session = m.1.session ∧ m'.1.told Event.handshake? = m.1.told Event.handshake? ∧
      m'.1.access = m.1.access.pass ∧ ∀ j, m'.1.access.holder = some j → j ∈ m'.1.ready := by
  have hstill (h : m'.1.spot m'.2 id = m.1.spot m.2 id) : False := by
    obtain rfl := Option.some.inj (hq'.symm.trans (h.trans hq))
    exact Point.not_isPastHandshake ho hpast
  have hholder : m.1.access.holder = some id := hv.holder_of_opens? hq ho
  cases hn with
  | @start b b' i p h =>
    rcases h.spot_cases hq' with ⟨rfl, rfl⟩ | ⟨hi, hq''⟩
    · obtain ⟨ph, hp, rfl⟩ := Option.map_eq_some_iff.mp hq
      exact absurd hpast (Point.not_isPastHandshake (h.opens? hp ho))
    · exact (hstill (hq'.trans hq''.symm)).elim
  | @move b b' i p p' h =>
    rcases spot_move h.calls hq' with ⟨rfl, rfl⟩ | ⟨hi, hq''⟩
    · obtain rfl := Option.some.inj ((spot_running b id p).symm.trans hq)
      cases h with
      | install => simp [Event.opened?] at hnone
      | fail | timeOut =>
        refine ⟨rfl, by simp [Event.handshake?], rfl, fun j hj => ?_⟩
        exact List.mem_append_right _ (Option.mem_toList.mpr hj)
      | _ => cases ho
    · exact (hstill (hq'.trans hq''.symm)).elim
  | @park b i ph =>
    obtain ⟨r, hr, -⟩ := hv.suits i (.park ph) (spot_running b i _)
    exact (hstill (congrFun (spot_setPhase hr ph) id)).elim
  | @stop b i =>
    rcases cancel_cases b i with he | ⟨ph, hp, -, he⟩
    · exact (hstill (by rw [he])).elim
    · rw [he] at hq' ⊢
      rcases spot_of_stopped hp hq' with ⟨rfl, rfl⟩ | ⟨hi, hq''⟩
      · obtain rfl := Option.some.inj ((spot_resting hp).symm.trans hq)
        have hl : (b.stopped id).access = b.access.leave id :=
          congrFun (stopped_locks b id) .access
        rw [Lock.leave, if_pos hholder] at hl
        refine ⟨?_, told_stopped (fun _ _ => rfl) b id, hl, fun j hj => ?_⟩
        · rcases b.stopped_cases id with ⟨hx, -⟩ | ⟨c, timer, i', hp', -⟩
          · exact hx
          · obtain rfl := Option.some.inj (hp.symm.trans hp')
            cases ho
        · rw [stopped_ready, Lock.next, if_pos hholder, ← hl, hj]
          simp
      · rw [he] at hstill
        exact (hstill (hq'.trans hq''.symm)).elim
  | abandon | elapse | remote => exact (hstill rfl).elim

/-! ### Calls that come afterwards -/

theorem Next.live_none (hn : Next s mayStop m m') (h : m.1.session.live = none)
    (ho : m'.1.told Event.opened? = m.1.told Event.opened?) : m'.1.session.live = none := by
  cases hn with
  | start hs => rw [hs.session, h]
  | move hm =>
    rcases hm.live with hl | ⟨hl, -⟩ | ⟨t, k, name, -, -, he⟩
    · exact hl
    · exact hl.trans h
    · rw [told_append he] at ho
      simp [Event.opened?] at ho
  | @stop b i =>
    rcases cancel_cases b i with he | ⟨ph, -, -, he⟩
    · rwa [he]
    · rw [he]
      exact (b.stopped_identity i).1.trans h
  | park | abandon | elapse | remote => exact h

/-- Only a handshake gives the session a connection. -/
theorem Later.live_none (hl : Later s mayStop m m') (h : m.1.session.live = none)
    (ho : m'.1.told Event.opened? = m.1.told Event.opened?) : m'.1.session.live = none := by
  induction hl with
  | refl => exact h
  | tail hl hn ih =>
    obtain ⟨hfirst, hlast⟩ := Later.told_eq hl hn ho
    exact hn.live_none (ih hfirst) hlast

/-- Nothing comes of a handshake that is over, so without another one there is no connection. -/
theorem Later.not_opened {k : Credential} (hl : Later s mayStop m m')
    (hv : Visited s mayStop t remote m.1 m.2) (hq : m.1.spot m.2 id = some q)
    (hpast : q.isPastHandshake)
    (hlatest : (m.1.told Event.handshake?).getLast? = some (id, t', k))
    (he : m'.1.told Event.handshake? = m.1.told Event.handshake?) :
    m'.1.told Event.opened? = m.1.told Event.opened? := by
  induction hl with
  | refl => rfl
  | @tail m₁ m₂ hl hn ih =>
    have hv₁ : Visited s mayStop t remote m₁.1 m₁.2 := Later.visited hl hv
    obtain ⟨hfirst, -⟩ := Later.told_eq hl hn he
    rcases hn.opened with ho | ⟨j, t₁, k₁, name, c, hf, -, -⟩
    · exact ho.trans (ih hfirst)
    · -- the call that gets a connection is the one that asked last
      have hspot : m₁.1.spot m₁.2 j = some (.connected t₁ k₁ (.ok name)) := by
        rw [hf, spot_running]
      have hown := (hv₁.atHandshake j _ t₁ k₁ hspot rfl).latest
      rw [hfirst, hlatest] at hown
      obtain ⟨rfl, -⟩ := Prod.mk.inj (Option.some.inj hown)
      obtain ⟨q₁, hq₁, hpast₁⟩ := Later.isPastHandshake hl hv hq hpast
      obtain rfl := Option.some.inj (hq₁.symm.trans hspot)
      exact absurd hpast₁ (Point.not_isPastHandshake rfl)

/-- Where there is no live connection but a credential, the endpoint is asked for a handshake. -/
theorem Moves.asks {k : Credential} (h : Moves s id b (.act .ensureOpen) b' p)
    (hl : b.session.discardAbandoned.live = none) (hk : b.session.credential = some k) :
    b'.events = b.events ++ [.handshake id b.session.target k] ∧
      p.opens? = some b.session.target := by
  have hk' := (discardAbandoned_credential b.session).trans hk
  have ht' := discardAbandoned_target b.session
  cases h with
  | serve h => simp [SessionAction.answer?] at h
  | handOut h | collect h => simp [SessionAction.taken?] at h
  | reuse h => cases hl.symm.trans h
  | refuse _ h => cases hk'.symm.trans h
  | connect _ h ht | connectNever _ h ht | connectLater _ h ht =>
    obtain rfl := Option.some.inj (hk'.symm.trans h)
    obtain rfl := ht'.symm.trans ht
    exact ⟨by simp, rfl⟩

theorem retries_of_live {r : Request} (hl : b.session.live = none) (hr : b.request? id = some r) :
    b.Retries s id where
  refused hk := (ensureOpen_refused_iff (fun c hc => nomatch hl.symm.trans hc) hr).mpr hk
  asks k hk := by
    have hlive : b.session.discardAbandoned.live = none := by
      simp [Session.discardAbandoned, hl]
    have h : Leads s id (.act .ensureOpen) b (b.ensureOpen s id) := leads_ensureOpen b
    cases h with
    | move hm hleads =>
      obtain ⟨he, ho⟩ := hm.asks hlive hk
      exact ⟨_, _, hm, he, ho, hleads⟩

/-- A handshake that ends without a connection leaves the session as it was when the call came to
it, once the connections given up before had been discarded: others can but give connections up
meanwhile. The lock goes to the first of those who wait for it, and is free if there are none. No
connection is opened afterwards without another handshake, and until one is opened every call that
comes for a connection, also one that has waited, asks for a handshake of its own with the target
and the credential of that time, or is refused if there is no credential then. -/
theorem Visited.handshake_without_connection
    (hv : Visited s mayStop t remote b (some (id, .act .ensureOpen)))
    (hl : Later s mayStop (b, some (id, .act .ensureOpen)) m) (hn : Next s mayStop m m')
    (hq : m.1.spot m.2 id = some q) (ho : q.opens? = some t') (hq' : m'.1.spot m'.2 id = some q')
    (hpast : q'.isPastHandshake) (hnone : m'.1.told Event.opened? = m.1.told Event.opened?) :
    m'.1.session = { b.session.discardAbandoned with abandoned := m'.1.session.abandoned } ∧
    m'.1.session.live = none ∧
    m.1.access.holder = some id ∧ m'.1.access = m.1.access.pass ∧
    (∀ j, m'.1.access.holder = some j → j ∈ m'.1.ready) ∧
    (∀ m'', Later s mayStop m' m'' →
      m''.1.told Event.handshake? = m'.1.told Event.handshake? →
        m''.1.told Event.opened? = m'.1.told Event.opened?) ∧
    ∀ b'' j, Later s mayStop m' (b'', some (j, .act .ensureOpen)) →
      b''.told Event.opened? = m'.1.told Event.opened? → b''.Retries s j := by
  have hvm : Visited s mayStop t remote m.1 m.2 := hl.visited hv
  have hvm' : Visited s mayStop t remote m'.1 m'.2 := hn.visited hvm
  have hopening : Opening b.session m id := by
    rcases hl.opening hv with rfl | hopening | ⟨q₁, hq₁, hpast₁⟩
    · obtain rfl := Option.some.inj ((spot_running b id _).symm.trans hq)
      cases ho
    · exact hopening
    · obtain rfl := Option.some.inj (hq₁.symm.trans hq)
      exact absurd hpast₁ (Point.not_isPastHandshake ho)
  obtain ⟨hx, he, ha, hready⟩ := hn.unopened hvm hq ho hq' hpast hnone
  obtain ⟨names, hnames⟩ := hopening.session
  obtain ⟨t₁, k, hlatest⟩ := hopening.latest
  rw [← he] at hlatest
  have hlive : m'.1.session.live = none := by
    rw [hx, hnames]
    exact hopening.live
  refine ⟨by rw [hx, hnames], hlive, hvm.holder_of_opens? hq ho, ha, hready, ?_, ?_⟩
  · intro m'' hl'' he''
    exact hl''.not_opened hvm' hq' hpast hlatest he''
  · intro b'' j hl'' ho''
    have hv'' := hl''.visited hvm'
    obtain ⟨r, hr, -⟩ := hv''.suits j _ (spot_running b'' j _)
    exact retries_of_live (hl''.live_none hlive ho'') hr

end

/-- An endpoint that never answers the first handshake, and every other one at once. -/
def hesitantEndpoint : Endpoint Nat Unit :=
  { countingEndpoint with
    connect := fun _ _ n => (n + 1, if n = 0 then .later none else .now (.ok (toString n))) }

def hesitantSetup : Setup Nat Unit := ⟨hesitantEndpoint, 30000, 5000⟩

/-- Call 1 has come to the session for a connection. -/
def atSession : Bridge Nat Unit :=
  let b := ((Bridge.new localTarget 0).submit hesitantSetup
    (.session (.setCredential (.token ⟨"k"⟩)))).addCall (.session .ensureOpen)
  { b with access := b.access.request 1 }

/-- While call 1 waits for its handshake, a new credential and another call queue up. -/
def handshakeHangs : Bridge Nat Unit :=
  ((atSession.ensureOpen hesitantSetup 1).submit hesitantSetup
    (.session (.setCredential (.token ⟨"l"⟩)))).submit hesitantSetup (.session .ensureOpen)

/-- Call 1 has been stopped and the new credential has been set. -/
def credentialChanged : Bridge Nat Unit := (handshakeHangs.cancel 1).resume hesitantSetup

/-- The call that has waited has come to the session. -/
def nextAtSession : Bridge Nat Unit :=
  { credentialChanged with ready := credentialChanged.ready.erase 3 }

theorem visited_atSession :
    Visited hesitantSetup (fun _ _ => True) localTarget 0 atSession
      (some (1, .act .ensureOpen)) := by
  have h : Reachable hesitantSetup (fun _ _ => True) localTarget 0
      ((Bridge.new localTarget 0).submit hesitantSetup
        (.session (.setCredential (.token ⟨"k"⟩)))) := .step .new (.submit _)
  exact .move (.start h.visited .approach) (.enter rfl)

theorem later_handshakeHangs :
    Later hesitantSetup (fun _ _ => True) (atSession, some (1, .act .ensureOpen))
      (handshakeHangs, none) :=
  ((leads_ensureOpen _).later.trans (advances_submit _ _).later).trans (advances_submit _ _).later

theorem later_nextAtSession :
    Later hesitantSetup (fun _ _ => True) (handshakeHangs.cancel 1, none)
      (nextAtSession, some (3, .act .ensureOpen)) := by
  have hv : Visited hesitantSetup (fun _ _ => True) localTarget 0 (handshakeHangs.cancel 1) none :=
    .stop (later_handshakeHangs.visited visited_atSession) trivial
  have hready : 3 ∈ credentialChanged.ready := by decide +kernel
  have hp : credentialChanged.phase? 3 = some (.waiting .ensureOpen) := by rfl
  exact ((step_resume _).later hv).tail (.start (.waiting hready hp))

/-- The call that has waited asks for a handshake with the credential that was set meanwhile. -/
theorem handshake_without_connection_hangs :
    handshakeHangs.phase? 1 =
      some (.opening localTarget (.token ⟨"k"⟩) ⟨none, some 30000⟩) ∧
    handshakeHangs.access = ⟨some 1, [2, 3]⟩ ∧
    (handshakeHangs.cancel 1).session = { atSession.session.discardAbandoned with
      abandoned := (handshakeHangs.cancel 1).session.abandoned } ∧
    (handshakeHangs.cancel 1).access = handshakeHangs.access.pass ∧
    nextAtSession.session.credential = some (.token ⟨"l"⟩) ∧
    nextAtSession.Retries hesitantSetup 3 := by
  have hp : handshakeHangs.phase? 1 =
      some (.opening localTarget (.token ⟨"k"⟩) ⟨none, some 30000⟩) := by rfl
  have hp' : (handshakeHangs.cancel 1).phase? 1 = some .cancelled := by rfl
  have hpast : (Point.park .cancelled : Point Unit).isPastHandshake := by
    simp [Point.isPastHandshake, Point.rank, Prod.Lex.toLex_lt_toLex]
  have hn : Next hesitantSetup (fun _ _ => True) (handshakeHangs, none)
      (handshakeHangs.cancel 1, none) := .stop trivial
  have hnone : (handshakeHangs.cancel 1).told Event.opened? =
      handshakeHangs.told Event.opened? := by decide +kernel
  have hnone' : nextAtSession.told Event.opened? =
      (handshakeHangs.cancel 1).told Event.opened? := by decide +kernel
  obtain ⟨hx, -, -, ha, -, -, hretries⟩ :=
    visited_atSession.handshake_without_connection later_handshakeHangs hn (spot_resting hp) rfl
      (spot_resting hp') hpast hnone
  exact ⟨hp, by decide +kernel, hx, ha, by decide +kernel,
    hretries nextAtSession 3 later_nextAtSession hnone'⟩

end Bridge

end CommandBridge
