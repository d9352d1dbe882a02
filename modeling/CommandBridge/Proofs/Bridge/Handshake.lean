import CommandBridge.Proofs.Bridge.Invocations

/-! While a call waits for a handshake, nothing changes the session. -/
namespace CommandBridge

open Function

variable {σ ρ : Type}

/-- The handshake that a call waits for, or has just got the answer of. -/
def Point.handshake? : Point ρ → Option (Target × Credential)
  | connected t k _ | park (.opening t k _) => some (t, k)
  | _ => none

namespace Bridge

/-- The call `id` is at a handshake with what the session has now. -/
structure Handshaking (b : Bridge σ ρ) (id : Nat) (t : Target) (k : Credential) : Prop where
  live : b.session.live = none
  target : b.session.target = t
  credential : b.session.credential = some k
  latest : (b.told Event.handshake?).getLast? = some (id, t, k)

section
variable {s : Setup σ ρ} {b b' : Bridge σ ρ} {id : Nat} {p p' : Point ρ} {r : Request}

/-- Only a call that is at the session changes it, or asks for a handshake. -/
theorem Moves.session (h : Moves s id b p b' p') : p.stance r .access = .has ∨
    b'.session = b.session ∧ b'.told Event.handshake? = b.told Event.handshake? := by
  cases h with
  | serve | handOut | collect | reuse | refuse | connect | connectNever | connectLater | install
  | fail | timeOut | failLost | failOther => exact .inl rfl
  | close =>
    refine .inr ⟨rfl, (told_closeNotes _ (fun _ => rfl) (fun _ _ => rfl) _ _).trans ?_⟩
    simp [Event.handshake?]
  | closedOwn | closed =>
    exact .inr ⟨rfl, told_closeNotes _ (fun _ => rfl) (fun _ _ => rfl) _ _⟩
  | _ => exact .inr ⟨rfl, by simp [Event.handshake?]⟩

theorem has_of_handshake? {t : Target} {k : Credential} (h : p.handshake? = some (t, k)) :
    p.stance r .access = .has := by
  cases p with
  | connected => rfl
  | park ph =>
    cases ph with
    | opening => rfl
    | _ => simp [Point.handshake?] at h
  | _ => simp [Point.handshake?] at h

theorem Handshaking.congr {t : Target} {k : Credential} (h : b.Handshaking id t k)
    (hl : b'.session.live = b.session.live) (ht : b'.session.target = b.session.target)
    (hk : b'.session.credential = b.session.credential)
    (he : b'.told Event.handshake? = b.told Event.handshake?) : b'.Handshaking id t k :=
  ⟨hl.trans h.live, ht.trans h.target, hk.trans h.credential, he ▸ h.latest⟩

/-- Whoever is at a handshake is so with what the session has now. -/
def AtHandshake (b : Bridge σ ρ) (f : Option (Nat × Point ρ)) : Prop :=
  ∀ j p t k, b.spot f j = some p → p.handshake? = some (t, k) → b.Handshaking j t k

theorem discardAbandoned_credential (x : Session) :
    x.discardAbandoned.credential = x.credential := by
  unfold Session.discardAbandoned
  split <;> rfl

theorem discardAbandoned_target (x : Session) : x.discardAbandoned.target = x.target := by
  unfold Session.discardAbandoned
  split <;> rfl

/-- A call comes to be at a handshake by asking for it. -/
theorem Moves.handshaking (h : Moves s id b p b' p') {t : Target} {k : Credential}
    (hp : p'.handshake? = some (t, k)) : b'.Handshaking id t k := by
  cases h with
  | connect hl hk ht he | connectLater hl hk ht he _ =>
    cases hp
    exact ⟨hl, ht, hk, by simp [Event.handshake?]⟩
  | _ => simp [Point.handshake?] at hp

theorem Moves.atHandshake (h : Moves s id b p b' p') (hr : b.request? id = some r)
    (hs : b.AllSuit (some (id, p))) (ho : b.InOrder (some (id, p)))
    (ha : b.AtHandshake (some (id, p))) : b'.AtHandshake (some (id, p')) := by
  intro j q t k hq hqk
  rcases spot_move h.calls hq with ⟨rfl, rfl⟩ | ⟨hj, hq'⟩
  · exact h.handshaking hqk
  · have hb := ha j q t k hq' hqk
    rcases h.session (r := r) with hm | ⟨hx, he⟩
    · -- the handshake keeps the lock that the move needs
      obtain ⟨r', hr', -⟩ := hs j q hq'
      have hjs : b.stances (some (id, p)) j .access = .has := by
        simp only [stances, hr', hq']
        exact has_of_handshake? hqk
      have his : b.stances (some (id, p)) id .access = .has := by rwa [stances_running hr]
      exact absurd (ho.has_unique hjs his) hj
    · exact hb.congr (by rw [hx]) (by rw [hx]) (by rw [hx]) he

theorem Starts.session (h : Starts s b b' id p) : b'.session = b.session := by
  cases h <;> rfl

/-- A call that begins to run leaves nothing in the history but that a bridge shuts down, or that a
connection took too long to close. -/
theorem Starts.told {α : Type} {g : Event → Option α} (h : Starts s b b' id p)
    (hs : g .shuttingDown = none) (hc : ∀ c, g (.closeTimedOut c) = none) :
    b'.told g = b.told g := by
  cases h with
  | @takeTurn r | @queue r =>
    rw [told_mk, told_recordAll, told_addCall]
    cases r <;> simp [Request.events, hs]
  | closeTimedOut => simp [hc]
  | _ => rfl

theorem Starts.atHandshake (h : Starts s b b' id p) (ha : b.AtHandshake none) :
    b'.AtHandshake (some (id, p)) := by
  have hx := h.session
  intro j q t k hq hqk
  suffices b.Handshaking j t k from
    this.congr (by rw [hx]) (by rw [hx]) (by rw [hx]) (h.told rfl fun _ => rfl)
  rcases h.spot_cases hq with ⟨rfl, rfl⟩ | ⟨-, hq⟩
  · cases h with
    | connected hp =>
      cases hqk
      exact ha j _ t k (spot_resting hp) rfl
    | _ => simp [Point.handshake?] at hqk
  · exact ha j q t k hq hqk

variable {mayStop : Bridge σ ρ → Nat → Prop} {t : Target} {remote : σ}

theorem Visited.atHandshake {f : Option (Nat × Point ρ)} (h : Visited s mayStop t remote b f) :
    b.AtHandshake f := by
  induction h with
  | new =>
    intro j q t k hq
    simp [spot, phase?, Bridge.new] at hq
  | start h hs ih => exact hs.atHandshake ih
  | @move b b' id p p' h hm ih =>
    obtain ⟨r, hr, -⟩ := h.suits id p (spot_running b id p)
    exact hm.atHandshake hr h.suits h.inOrder ih
  | @park b id ph h ih =>
    obtain ⟨r, hr, -⟩ := h.suits id (.park ph) (spot_running b id _)
    intro j q t k hq hqk
    rw [spot_setPhase hr] at hq
    exact (ih j q t k hq hqk).congr rfl rfl rfl rfl
  | @stop b id h hs ih =>
    rcases cancel_cases b id with he | ⟨ph, hp, -, he⟩
    · rwa [he]
    · rw [he]
      intro j q t k hq hqk
      rcases spot_of_stopped hp hq with ⟨-, rfl⟩ | ⟨-, hq⟩
      · simp [Point.handshake?] at hqk
      · obtain ⟨hl, ht, hc⟩ := b.stopped_identity id
        exact (ih j q t k hq hqk).congr hl ht hc (told_stopped (fun _ _ => rfl) b id)
  | abandon h c ih => exact fun j q t k hq hqk => (ih j q t k hq hqk).congr rfl rfl rfl rfl
  | elapse h time ih => exact fun j q t k hq hqk => (ih j q t k hq hqk).congr rfl rfl rfl rfl
  | remote h x ih => exact fun j q t k hq hqk => (ih j q t k hq hqk).congr rfl rfl rfl rfl

end

end Bridge

end CommandBridge
