import CommandBridge.Proofs.Bridge.Handshake

/-! The live connection of a session was opened with the target and the credential that the session
has now, so a call is refused only where there is no credential. -/
namespace CommandBridge

variable {σ ρ : Type}

/-- The endpoint has answered a handshake with that target and credential by that name. -/
def Setup.Gave (s : Setup σ ρ) (t : Target) (k : Credential) (name : String) : Prop :=
  (∃ x y, s.endpoint.connect t k x = (y, .now (.ok name))) ∨
    ∃ x y, s.endpoint.connected t k x = (y, .ok name)

/-- The connection was opened by the latest handshake, which had that target and credential. -/
def OpenedWith (es : List Event) (t : Target) (k : Credential) (c : Connection) : Prop :=
  ∃ id generation before between after,
    es = before ++ .handshake id t k :: (between ++ .opened c k generation :: after) ∧
      ∀ e ∈ between ++ after, e.handshake? = none

theorem OpenedWith.append {es es' : List Event} {t : Target} {k : Credential} {c : Connection}
    (h : OpenedWith es t k c) (hn : ∀ e ∈ es', e.handshake? = none) :
    OpenedWith (es ++ es') t k c := by
  obtain ⟨id, g, before, between, after, rfl, ha⟩ := h
  refine ⟨id, g, before, between, after ++ es', by simp, fun e he => ?_⟩
  rw [← List.append_assoc] at he
  exact (List.mem_append.mp he).elim (ha e) (hn e)

/-- What a list tells last stands in it, and nothing after it tells anything. -/
theorem exists_of_filterMap_getLast? {α β : Type} {g : α → Option β} {l : List α} {y : β}
    (h : (l.filterMap g).getLast? = some y) :
    ∃ before x after, l = before ++ x :: after ∧ g x = some y ∧ ∀ z ∈ after, g z = none := by
  obtain ⟨ys, hys⟩ := List.getLast?_eq_some_iff.mp h
  obtain ⟨l₁, l₂, rfl, -, h₂⟩ := List.filterMap_eq_append_iff.mp hys
  obtain ⟨l₃, x, l₄, rfl, -, hx, h₄⟩ := List.filterMap_eq_cons_iff.mp h₂
  exact ⟨l₁ ++ l₃, x, l₄, by simp, hx, List.filterMap_eq_nil_iff.mp h₄⟩

namespace Bridge

/-- The session could have opened that connection as it is now. -/
structure Current (s : Setup σ ρ) (b : Bridge σ ρ) (c : Connection) (k : Credential) : Prop where
  credential : b.session.credential = some k
  target : c.target = b.session.target
  given : s.Gave b.session.target k c.id
  opened : OpenedWith b.events b.session.target k c

structure Identified (s : Setup σ ρ) (b : Bridge σ ρ) (f : Option (Nat × Point ρ)) : Prop where
  live : ∀ c, b.session.live = some c → ∃ k, b.Current s c k
  given : ∀ j t k name, b.spot f j = some (.connected t k (.ok name)) → s.Gave t k name

section
variable {s : Setup σ ρ} {b b' : Bridge σ ρ} {id : Nat} {p p' : Point ρ} {r : Request}

theorem Current.congr {c : Connection} {k : Credential} {es : List Event} (h : b.Current s c k)
    (ht : b'.session.target = b.session.target)
    (hk : b'.session.credential = b.session.credential) (he : b'.events = b.events ++ es)
    (hn : ∀ e ∈ es, e.handshake? = none) : b'.Current s c k where
  credential := hk.trans h.credential
  target := ht ▸ h.target
  given := ht ▸ h.given
  opened := by
    rw [ht, he]
    exact h.opened.append hn

theorem Identified.congr {f f' : Option (Nat × Point ρ)} {es : List Event}
    (h : b.Identified s f) (hl : b'.session.live = b.session.live)
    (ht : b'.session.target = b.session.target)
    (hk : b'.session.credential = b.session.credential) (he : b'.events = b.events ++ es)
    (hn : ∀ e ∈ es, e.handshake? = none)
    (hg : ∀ j t k name, b'.spot f' j = some (.connected t k (.ok name)) → s.Gave t k name) :
    b'.Identified s f' where
  live c hc := by
    obtain ⟨k, hcur⟩ := h.live c (hl ▸ hc)
    exact ⟨k, hcur.congr ht hk he hn⟩
  given := hg

/-- An action takes the live connection out of the session, or leaves it as it is. -/
theorem update_live (a : SessionAction) (x : Session) : (a.update x).live = none ∨
    (a.update x).live = x.live ∧ (a.update x).target = x.target ∧
      (a.update x).credential = x.credential := by
  have discard : x.discardAbandoned.live = none ∨ x.discardAbandoned.live = x.live ∧
      x.discardAbandoned.target = x.target ∧ x.discardAbandoned.credential = x.credential := by
    unfold Session.discardAbandoned
    split
    · exact .inl rfl
    · exact .inr ⟨rfl, rfl, rfl⟩
  cases a with
  | setCredential | clearCredential | setTarget | retireAll => exact .inl rfl
  | invalidate c =>
    unfold SessionAction.update Session.invalidate
    dsimp only
    split
    · exact .inl rfl
    · exact .inr ⟨rfl, rfl, rfl⟩
  | ensureOpen | isOpen | takeRetired => exact discard
  | isAuthenticated | target | generation => exact .inr ⟨rfl, rfl, rfl⟩

/-- The live connection goes, or stays as it was, or comes from a handshake. -/
theorem Moves.live (h : Moves s id b p b' p') : b'.session.live = none ∨
    (b'.session.live = b.session.live ∧ b'.session.target = b.session.target ∧
      b'.session.credential = b.session.credential ∧
      b'.told Event.handshake? = b.told Event.handshake?) ∨
    ∃ t k name, p = .connected t k (.ok name) ∧ b'.session = b.session.install ⟨name, t⟩ ∧
      b'.events = b.events ++ [.opened ⟨name, t⟩ k b.session.generation] := by
  cases h with
  | @serve a answer ha =>
    rcases update_live a b.session with hl | ⟨hl, ht, hk⟩
    · exact .inl hl
    · exact .inr (.inl ⟨hl, ht, hk, told_events _ (fun _ => rfl) (fun _ => rfl) a⟩)
  | @handOut a | @collect a =>
    rcases update_live a b.session with hl | ⟨hl, ht, hk⟩
    · exact .inl hl
    · exact .inr (.inl ⟨hl, ht, hk, by simp [Event.handshake?]⟩)
  | reuse =>
    rcases update_live .isOpen b.session with hl | ⟨hl, ht, hk⟩
    · exact .inl hl
    · exact .inr (.inl ⟨hl, ht, hk, rfl⟩)
  | failLost | failOther =>
    rcases update_live (.invalidate _) b.session with hl | ⟨hl, ht, hk⟩
    · exact .inl hl
    · exact .inr (.inl ⟨hl, ht, hk, rfl⟩)
  | refuse hl | connect hl | connectNever hl | connectLater hl => exact .inl hl
  | @install t k name => exact .inr (.inr ⟨t, k, name, rfl, rfl, by simp⟩)
  | close =>
    refine .inr (.inl ⟨rfl, rfl, rfl, ?_⟩)
    exact (told_closeNotes _ (fun _ => rfl) (fun _ _ => rfl) _ _).trans (by simp [Event.handshake?])
  | closedOwn | closed =>
    exact .inr (.inl ⟨rfl, rfl, rfl, told_closeNotes _ (fun _ => rfl) (fun _ _ => rfl) _ _⟩)
  | _ => exact .inr (.inl ⟨rfl, rfl, rfl, by simp [Event.handshake?]⟩)

/-- The endpoint has given the name with which a handshake ends. -/
theorem Moves.given (h : Moves s id b p b' p') {t : Target} {k : Credential} {name : String}
    (hp : p' = .connected t k (.ok name)) : s.Gave t k name := by
  cases h with
  | connect hl hk ht he =>
    cases hp
    exact .inl ⟨_, _, he⟩
  | _ => cases hp

theorem Starts.given (h : Starts s b b' id p) {t : Target} {k : Credential} {name : String}
    (hp : p = .connected t k (.ok name)) : s.Gave t k name := by
  cases h with
  | connected _ _ he =>
    cases hp
    exact .inr ⟨_, _, he⟩
  | _ => cases hp

theorem Moves.current (h : Moves s id b p b' p') (hr : b.request? id = some r) (hp : p.Suits r)
    (ha : b.AtHandshake (some (id, p))) (hi : b.Identified s (some (id, p))) {c : Connection}
    (hc : b'.session.live = some c) : ∃ k, b'.Current s c k := by
  rcases h.live with hl | ⟨hl, ht, hk, hh⟩ | ⟨t, k, name, rfl, hx, he⟩
  · simp [hl] at hc
  · obtain ⟨es, he, -⟩ := h.turnMove hr hp
    obtain ⟨k, hcur⟩ := hi.live c (hl ▸ hc)
    exact ⟨k, hcur.congr ht hk he (none_of_told he hh)⟩
  · have hs := ha id _ t k (spot_running b id _) rfl
    obtain rfl : (⟨name, t⟩ : Connection) = c := by simpa [hx, Session.install] using hc
    obtain ⟨before, e, after, hev, hg, hn⟩ := exists_of_filterMap_getLast? hs.latest
    have htarget : b'.session.target = t := by rw [hx]; exact hs.target
    refine ⟨k, ?_, htarget.symm, ?_, ?_⟩
    · rw [hx]
      exact hs.credential
    · rw [htarget]
      exact hi.given id t k name (spot_running b id _)
    · cases e <;> simp only [Event.handshake?, Option.some.injEq, reduceCtorEq] at hg
      obtain ⟨rfl, rfl, rfl⟩ := hg
      rw [htarget, he, hev]
      exact ⟨id, b.session.generation, before, after, [], by simp, by simpa using hn⟩

end

section
variable {s : Setup σ ρ} {mayStop : Bridge σ ρ → Nat → Prop} {t : Target} {remote : σ}
variable {b : Bridge σ ρ}

theorem Visited.identified {f : Option (Nat × Point ρ)} (h : Visited s mayStop t remote b f) :
    b.Identified s f := by
  induction h with
  | new =>
    refine ⟨fun c hc => ?_, fun j t k name hq => ?_⟩
    · simp [Bridge.new, Session.new] at hc
    · simp [spot, phase?, Bridge.new] at hq
  | @start b b' id p h hs ih =>
    obtain ⟨es, he, -⟩ := hs.events
    have hx := hs.session
    refine ih.congr (by rw [hx]) (by rw [hx]) (by rw [hx]) he
      (none_of_told he (hs.told rfl fun _ => rfl)) fun j t k name hq => ?_
    rcases hs.spot_cases hq with ⟨rfl, hp⟩ | ⟨-, hq⟩
    · exact hs.given hp.symm
    · exact ih.given j t k name hq
  | @move b b' id p p' h hm ih =>
    obtain ⟨r, hr, hp⟩ := h.suits id p (spot_running b id p)
    refine ⟨fun c hc => hm.current hr hp h.atHandshake ih hc, fun j t k name hq => ?_⟩
    rcases spot_move hm.calls hq with ⟨rfl, hp⟩ | ⟨-, hq⟩
    · exact hm.given hp.symm
    · exact ih.given j t k name hq
  | @park b id ph h ih =>
    obtain ⟨r, hr, -⟩ := h.suits id (.park ph) (spot_running b id _)
    refine ih.congr rfl rfl rfl (List.append_nil _).symm (by simp) fun j t k name hq => ?_
    rw [spot_setPhase hr] at hq
    exact ih.given j t k name hq
  | @stop b id h hs ih =>
    rcases cancel_cases b id with he | ⟨ph, hp, -, he⟩
    · rwa [he]
    · rw [he]
      obtain ⟨es, hev, -⟩ := b.stopped_events id
      obtain ⟨hl, ht, hc⟩ := b.stopped_identity id
      refine ih.congr hl ht hc hev (none_of_told hev (told_stopped (fun _ _ => rfl) b id)) ?_
      intro j t k name hq
      rcases spot_of_stopped hp hq with ⟨-, hq⟩ | ⟨-, hq⟩
      · simp at hq
      · exact ih.given j t k name hq
  | abandon h c ih => exact ih.congr rfl rfl rfl (List.append_nil _).symm (by simp) ih.given
  | elapse h time ih => exact ih.congr rfl rfl rfl (List.append_nil _).symm (by simp) ih.given
  | remote h x ih => exact ih.congr rfl rfl rfl (List.append_nil _).symm (by simp) ih.given

end

section
variable {s : Setup σ ρ} {b b' : Bridge σ ρ} {id : Nat} {p : Point ρ} {r : Request}

/-- The call has failed for want of a credential, and the endpoint has not been called. -/
def Refused (b b' : Bridge σ ρ) (id : Nat) : Prop :=
  b'.phase? id = some (.ended (.failed .unauthenticated)) ∧
    b'.told Event.asked? = b.told Event.asked?

theorem not_refused_of_asked {b₁ : Bridge σ ρ} (h : Leads s id p b₁ b')
    (he : b₁.told Event.asked? = b.told Event.asked? ++ [id]) : ¬ Refused b b' id := by
  rintro ⟨-, ht⟩
  have hle := (told_grows (g := Event.asked?) h.events_grow).length_le
  rw [he, ht, List.length_append, List.length_singleton] at hle
  omega

theorem phase?_of_park {ph : Phase ρ} (h : Leads s id (.park ph) b b')
    (hr : b.request? id = some r) : b'.phase? id = some ph := by
  cases h with
  | park =>
    obtain ⟨ph', hp⟩ := exists_phase hr
    simp [phase?_setPhase, hp]
  | move hm => cases hm

theorem told_of_park {α : Type} {g : Event → Option α} {ph : Phase ρ}
    (h : Leads s id (.park ph) b b') : b'.told g = b.told g := by
  cases h with
  | park => rfl
  | move hm => cases hm

theorem not_refused_of_execute {c : Connection} {i : Invocation} {limit : Option Nat}
    {b₁ : Bridge σ ρ} (h : Leads s id (.execute c i limit) b₁ b')
    (he : b₁.told Event.asked? = b.told Event.asked?) : ¬ Refused b b' id := by
  cases h with
  | move hm hl =>
    cases hm with
    | execute | executeNever | executeLater =>
      exact not_refused_of_asked hl (by simp [he, Event.asked?])

/-- A call that comes to open the session is refused just where there is no credential. -/
theorem ensureOpen_refused_iff (hi : ∀ c, b.session.live = some c → b.session.credential ≠ none)
    (hr : b.request? id = some r) :
    Refused b (b.ensureOpen s id) id ↔ b.session.credential = none := by
  have hk := discardAbandoned_credential b.session
  have h : Leads s id (.act .ensureOpen) b (b.ensureOpen s id) := leads_ensureOpen b
  cases h with
  | move hm hl =>
    have hr' := (request?_of_calls hm.calls id).trans hr
    cases hm with
    | serve h => simp [SessionAction.answer?] at h
    | handOut h | collect h => simp [SessionAction.taken?] at h
    | @reuse c h =>
      refine iff_of_false ?_ ?_
      · cases hl with
        | move hm hl =>
          cases hm with
          | run => exact not_refused_of_execute hl rfl
          | give =>
            rintro ⟨hp, -⟩
            simp [phase?_of_park hl hr'] at hp
      · rcases update_live .isOpen b.session with hn | ⟨hs, -⟩
        · exact absurd (h.symm.trans hn) (by simp)
        · exact hi c (hs ▸ h)
    | refuse _ h =>
      refine iff_of_true ?_ (hk ▸ h)
      cases hl with
      | move hm hl =>
        cases hm with
        | giveIn =>
          cases hl with
          | move hm hl =>
            have hr'' := (request?_of_calls hm.calls id).trans hr'
            cases hm with
            | conclude =>
              exact ⟨phase?_of_park hl hr'', (told_of_park hl).trans (by simp [Event.asked?])⟩
        | giveFailure => exact ⟨phase?_of_park hl hr', (told_of_park hl).trans (by simp)⟩
    | connect _ h | connectNever _ h | connectLater _ h =>
      refine iff_of_false (not_refused_of_asked hl (by simp [Event.asked?])) ?_
      rw [← hk, h]
      simp

/-- Between any two moves, and so in every state that can be reached, the live connection was opened
with the target and the credential that the session has. So a call that comes to open the session is
refused, and without a word to the endpoint, just where there is no credential. -/
theorem Visited.no_stale_identity {mayStop : Bridge σ ρ → Nat → Prop} {t : Target} {remote : σ}
    {f : Option (Nat × Point ρ)} (h : Visited s mayStop t remote b f) :
    (∀ c, b.session.live = some c → ∃ k, b.Current s c k) ∧
      ∀ id r, b.request? id = some r →
        (Refused b (b.ensureOpen s id) id ↔ b.session.credential = none) := by
  have hi := h.identified
  refine ⟨hi.live, fun id r hr => ensureOpen_refused_iff (fun c hc => ?_) hr⟩
  obtain ⟨k, hk⟩ := hi.live c hc
  simp [hk.credential]

end

/-- A bridge that has a connection. -/
def signedIn : Bridge Nat Unit :=
  ((Bridge.new localTarget 0).submit countingSetup
    (.session (.setCredential (.token ⟨"k"⟩)))).submit countingSetup (.session .ensureOpen)

theorem reachable_signedIn : Reachable countingSetup (fun _ _ => True) localTarget 0 signedIn :=
  .step (.step .new (.submit _)) (.submit _)

theorem no_stale_identity_signedIn : signedIn.session.live = some ⟨"0", localTarget⟩ ∧
    ∃ k, signedIn.Current countingSetup ⟨"0", localTarget⟩ k := by
  have hl : signedIn.session.live = some ⟨"0", localTarget⟩ := by decide +kernel
  exact ⟨hl, reachable_signedIn.visited.no_stale_identity.1 _ hl⟩

end Bridge

end CommandBridge
