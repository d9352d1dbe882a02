import CommandBridge.Proofs.Bridge.Visit

/-! What has happened at a bridge, and what the events tell about connections. -/
namespace CommandBridge

variable {σ ρ : Type}

namespace Event

/-- The call that asked for a handshake, and what it gave the endpoint. -/
def handshake? : Event → Option (Nat × Target × Credential)
  | handshake id t k => some (id, t, k)
  | _ => none

/-- The name that the endpoint gave to a new connection. -/
def opened? : Event → Option String
  | opened c _ _ => some c.id
  | _ => none

/-- The name of a connection on which an invocation was stopped, timed out or failed. -/
def tainted? : Event → Option String
  | lost _ c | abandoned _ c => some c.id
  | _ => none

/-- The call that has a pipeline executed, and the name of the connection. -/
def executing? : Event → Option (Nat × String)
  | executing id c => some (id, c.id)
  | _ => none

/-- The call for which the endpoint is called. -/
def asked? : Event → Option Nat
  | handshake id _ _ | executing id _ | closing id _ => some id
  | _ => none

end Event

namespace Bridge

/-- What has happened, in order. -/
def events (b : Bridge σ ρ) : List Event := b.history.map (·.2)

variable (b : Bridge σ ρ)

theorem events_of_history {b b' : Bridge σ ρ} {es : List Event}
    (h : b'.history = b.history ++ es.map (b.now, ·)) : b'.events = b.events ++ es := by
  simp [events, h, Function.comp_def]

@[simp] theorem events_record (e : Event) : (b.record e).events = b.events ++ [e] := by
  simp [events, record]

@[simp] theorem events_recordAll (es : List Event) :
    (b.recordAll es).events = b.events ++ es := by
  simp [events, recordAll, Function.comp_def]

@[simp] theorem events_mk (now : Nat) (remote : σ) (x : Session) (turn access : Lock)
    (calls : List (Call ρ)) (ready : List Nat) (history : List (Nat × Event)) :
    (⟨now, remote, x, turn, access, calls, ready, history⟩ : Bridge σ ρ).events =
      history.map (·.2) := rfl

@[simp] theorem map_history : b.history.map (·.2) = b.events := rfl

@[simp] theorem events_withSession (x : Session) : (b.withSession x).events = b.events := rfl

@[simp] theorem events_withRemote (x : σ) : (b.withRemote x).events = b.events := rfl

@[simp] theorem events_passTurn : b.passTurn.events = b.events := rfl

@[simp] theorem events_passAccess : b.passAccess.events = b.events := rfl

@[simp] theorem events_setPhase (id : Nat) (ph : Phase ρ) : (b.setPhase id ph).events = b.events :=
  rfl

@[simp] theorem events_addCall (r : Request) : (b.addCall r).events = b.events := rfl

/-- What the events tell of something, in order. -/
def told {α : Type} (g : Event → Option α) : List α := b.events.filterMap g

section
variable {α : Type} (g : Event → Option α)

@[simp] theorem told_mk (now : Nat) (remote : σ) (x : Session) (turn access : Lock)
    (calls : List (Call ρ)) (ready : List Nat) :
    (⟨now, remote, x, turn, access, calls, ready, b.history⟩ : Bridge σ ρ).told g = b.told g := rfl

@[simp] theorem told_record (e : Event) : (b.record e).told g = b.told g ++ (g e).toList := by
  cases he : g e <;> simp [told, he]

theorem told_recordAll (es : List Event) :
    (b.recordAll es).told g = b.told g ++ es.filterMap g := by simp [told]

@[simp] theorem told_withSession (x : Session) : (b.withSession x).told g = b.told g := rfl

@[simp] theorem told_withRemote (x : σ) : (b.withRemote x).told g = b.told g := rfl

@[simp] theorem told_passTurn : b.passTurn.told g = b.told g := rfl

@[simp] theorem told_passAccess : b.passAccess.told g = b.told g := rfl

@[simp] theorem told_setPhase (id : Nat) (ph : Phase ρ) :
    (b.setPhase id ph).told g = b.told g := rfl

@[simp] theorem told_addCall (r : Request) : (b.addCall r).told g = b.told g := rfl

variable {g}

theorem told_closeNotes (hr : ∀ text, g (.remarked text) = none)
    (hf : ∀ c e, g (.closeFailed c e) = none) (c : Connection)
    (a : Except Failure (Option String)) : (b.recordAll (closeNotes c a)).told g = b.told g := by
  rw [told_recordAll]
  rcases a with e | _ | text <;> simp [closeNotes, hr, hf]

theorem told_events (hk : ∀ k, g (.credentialSet k) = none)
    (ht : ∀ t, g (.targetSet t) = none) (a : SessionAction) :
    (b.recordAll a.events).told g = b.told g := by
  rw [told_recordAll]
  cases a <;> simp [SessionAction.events, hk, ht]

end

theorem told_append {α : Type} {g : Event → Option α} {b b' : Bridge σ ρ} {es : List Event}
    (he : b'.events = b.events ++ es) : b'.told g = b.told g ++ es.filterMap g := by
  simp [told, he]

/-- Events that tell nothing new tell nothing. -/
theorem none_of_told {α : Type} {g : Event → Option α} {b b' : Bridge σ ρ} {es : List Event}
    (he : b'.events = b.events ++ es) (ht : b'.told g = b.told g) : ∀ e ∈ es, g e = none := by
  unfold told at ht
  rw [he, List.filterMap_append] at ht
  exact List.filterMap_eq_nil_iff.mp (List.append_cancel_left (ht.trans (List.append_nil _).symm))

variable {b} {b' : Bridge σ ρ} {s : Setup σ ρ} {id : Nat} {p p' : Point ρ}

/-- Nothing that has happened is forgotten. -/
theorem Moves.events_grow (h : Moves s id b p b' p') : b.events <+: b'.events := by
  cases h <;> simp [List.append_assoc]

theorem Leads.events_grow (h : Leads s id p b b') : b.events <+: b'.events := by
  induction h with
  | park => exact List.prefix_rfl
  | move hm _ ih => exact hm.events_grow.trans ih

theorem told_grows {α : Type} {g : Event → Option α} (h : b.events <+: b'.events) :
    b.told g <+: b'.told g := h.filterMap g

theorem events_stopped (b : Bridge σ ρ) (id : Nat) :
    (b.stopped id).events = (b.giveUp id).events := by
  simp only [stopped, events_setPhase, released, leaveTurn, leaveAccess, passTurn, passAccess]
  split <;> split <;> rfl

theorem events_stopped_executing {i : Invocation} {c : Connection} {timer : Timer}
    (hr : b.request? id = some (.invoke i)) (hp : b.phase? id = some (.executing c timer)) :
    (b.stopped id).events = b.events ++ [.abandoned id c] := by
  rw [events_stopped, giveUp, hr, hp]
  simp [abandon]

/-- A call that stops gives its connection up if it was executing an invocation, and leaves
everything but the locks as it was if not. -/
theorem stopped_cases (b : Bridge σ ρ) (id : Nat) :
    (b.stopped id).session = b.session ∧ (b.stopped id).events = b.events ∨
      ∃ c timer i, b.phase? id = some (.executing c timer) ∧ b.request? id = some (.invoke i) ∧
        (b.stopped id).session = b.session.abandon c ∧
        (b.stopped id).events = b.events ++ [.abandoned id c] := by
  have hs : (b.stopped id).session = (b.giveUp id).session := by
    simp only [stopped, setPhase, released, leaveTurn, leaveAccess, passTurn, passAccess]
    split <;> split <;> rfl
  rw [hs, events_stopped]
  unfold giveUp
  split
  · rename_i i c timer hr hp
    exact .inr ⟨c, timer, i, hp, hr, rfl, by simp [abandon]⟩
  · exact .inl ⟨rfl, rfl⟩

theorem stopped_events (b : Bridge σ ρ) (id : Nat) :
    ∃ es, (b.stopped id).events = b.events ++ es ∧
      (es = [] ∨ ∃ c timer, es = [.abandoned id c] ∧ b.phase? id = some (.executing c timer)) := by
  rcases b.stopped_cases id with ⟨-, he⟩ | ⟨c, timer, i, hp, -, -, he⟩
  · exact ⟨[], he.trans (List.append_nil _).symm, .inl rfl⟩
  · exact ⟨_, he, .inr ⟨c, timer, rfl, hp⟩⟩

theorem told_stopped {α : Type} {g : Event → Option α} (hg : ∀ j c, g (.abandoned j c) = none)
    (b : Bridge σ ρ) (id : Nat) : (b.stopped id).told g = b.told g := by
  obtain ⟨es, he, hes⟩ := b.stopped_events id
  rw [told_append he]
  rcases hes with rfl | ⟨c, timer, rfl, -⟩ <;> simp [hg]

/-- A call that stops leaves the identity of the session as it was. -/
theorem stopped_identity (b : Bridge σ ρ) (id : Nat) :
    (b.stopped id).session.live = b.session.live ∧
      (b.stopped id).session.target = b.session.target ∧
        (b.stopped id).session.credential = b.session.credential := by
  rcases b.stopped_cases id with ⟨hx, -⟩ | ⟨c, timer, i, -, -, hx, -⟩
  · rw [hx]
    exact ⟨rfl, rfl, rfl⟩
  · rw [hx]
    exact ⟨rfl, rfl, rfl⟩

end Bridge

end CommandBridge
