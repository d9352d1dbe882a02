import CommandBridge.Proofs.Bridge.Identity
import CommandBridge.Proofs.Session.Ledger

/-! The books of a bridge's session: whatever a bridge does, no connection is lost or counted twice,
and none comes back. -/
namespace CommandBridge

variable {σ ρ : Type}

namespace Event

def installed? : Event → Option Connection
  | opened c _ _ => some c
  | _ => none

/-- The retired connections that a call was given. -/
def handedOut? : Event → Option (List Connection)
  | handedOut _ cs => some cs
  | _ => none

end Event

namespace Session
variable {x : Session} {c : Connection}

theorem invalidate_live (h : x.live = some c) : x.invalidate c = x.retire := by
  simp [invalidate, h]

theorem invalidate_stale (h : ∀ l, x.live = some l → l.id ≠ c.id) : x.invalidate c = x := by
  unfold invalidate
  rw [if_neg]
  cases hl : x.live with
  | none => simp
  | some l => simpa using h l hl

/-- A name that is not the live connection's makes no difference when it comes to be acted on. -/
theorem discardAbandoned_stale {name : String} (h : ∀ l, x.live = some l → l.id ≠ name) :
    { x with abandoned := x.abandoned.filter (· != name) }.discardAbandoned =
      x.discardAbandoned := by
  have same : (x.live.any fun l => (x.abandoned.filter (· != name)).contains l.id) =
      x.live.any fun l => x.abandoned.contains l.id := by
    cases hl : x.live with
    | none => rfl
    | some l =>
      have hne : l.id ≠ name := h l hl
      simp [hne]
  unfold discardAbandoned
  simp only [same]

end Session

theorem SessionAction.taken?_of_answer {a : SessionAction} {x : Session} {answer : Answer ρ}
    (h : a.answer? x = some answer) : a.taken? x = none := by
  cases a with
  | takeRetired | retireAll => simp [answer?] at h
  | _ => rfl

/-- An action does nothing to the books but retire connections and hand them out. -/
theorem SessionAction.later_update (a : SessionAction) (x : Session) (opened : List Connection)
    (handings : List (List Connection)) :
    Ledger.Later (x.ledger opened handings)
      ((a.update x).ledger opened (handings ++ (a.taken? x).toList)) := by
  have quiet (h : a.taken? x = none) : handings ++ (a.taken? x).toList = handings := by simp [h]
  cases a with
  | setCredential | clearCredential | setTarget =>
    rw [quiet rfl]
    exact .single (.retire _)
  | invalidate c =>
    rw [quiet rfl]
    exact x.later_invalidate opened handings c
  | ensureOpen | isOpen =>
    rw [quiet rfl]
    exact x.later_discardAbandoned opened handings
  | takeRetired => exact x.later_takeRetired opened handings
  | retireAll => exact x.later_retireAll opened handings
  | isAuthenticated | target | generation =>
    rw [quiet rfl]
    exact .refl

namespace Bridge

def ledger (b : Bridge σ ρ) : Ledger :=
  b.session.ledger (b.told Event.installed?) (b.told Event.handedOut?)

section
variable {s : Setup σ ρ} {mayStop : Bridge σ ρ → Nat → Prop} {t : Target} {remote : σ}
variable {b b' : Bridge σ ρ} {id : Nat} {p p' : Point ρ}

theorem later_of_session {opened : List Connection} {handings : List (List Connection)}
    (h : Ledger.Later b.ledger (b'.session.ledger opened handings))
    (ho : b'.told Event.installed? = opened) (hh : b'.told Event.handedOut? = handings) :
    Ledger.Later b.ledger b'.ledger := by
  subst ho hh
  exact h

theorem ledger_congr (hx : b'.session.ledger = b.session.ledger)
    (ho : b'.told Event.installed? = b.told Event.installed?)
    (hh : b'.told Event.handedOut? = b.told Event.handedOut?) : b'.ledger = b.ledger := by
  rw [Bridge.ledger, hx, ho, hh, Bridge.ledger]

/-- A connection is installed only where there is none. -/
theorem Moves.ledger (h : Moves s id b p b' p') (ha : b.AtHandshake (some (id, p))) :
    Ledger.Later b.ledger b'.ledger := by
  cases h with
  | @serve a answer hr =>
    have ho : (b.recordAll a.events).told Event.installed? = b.told Event.installed? :=
      told_events b (fun _ => rfl) (fun _ => rfl) a
    have hh : (b.recordAll a.events).told Event.handedOut? = b.told Event.handedOut? :=
      told_events b (fun _ => rfl) (fun _ => rfl) a
    have hu := a.later_update b.session (b.told Event.installed?) (b.told Event.handedOut?)
    rw [SessionAction.taken?_of_answer hr, Option.toList_none, List.append_nil] at hu
    exact later_of_session hu ho hh
  | @handOut a cs ht | @collect a cs ht =>
    have hu := a.later_update b.session (b.told Event.installed?) (b.told Event.handedOut?)
    rw [ht] at hu
    exact later_of_session hu (by simp [Event.installed?]) (by simp [Event.handedOut?])
  | reuse | refuse =>
    exact later_of_session (b.session.later_discardAbandoned _ _) rfl rfl
  | connect | connectNever | connectLater =>
    refine later_of_session (b.session.later_discardAbandoned _ _) ?_ ?_
    · simp [Event.installed?]
    · simp [Event.handedOut?]
  | @install t k name =>
    have hl : b.session.live = none := (ha id _ t k (spot_running b id _) rfl).live
    have hi := b.session.later_install (b.told Event.installed?) (b.told Event.handedOut?)
      ⟨name, t⟩ hl
    exact later_of_session hi (by simp [Event.installed?]) (by simp [Event.handedOut?])
  | failLost | failOther =>
    exact later_of_session (b.session.later_invalidate _ _ _) rfl rfl
  | close =>
    refine later_of_session .refl ?_ ?_ <;>
      refine (told_closeNotes _ (fun _ => rfl) (fun _ _ => rfl) _ _).trans ?_
    · simp [Event.installed?]
    · simp [Event.handedOut?]
  | closedOwn | closed =>
    refine later_of_session .refl ?_ ?_ <;>
      exact told_closeNotes _ (fun _ => rfl) (fun _ _ => rfl) _ _
  | _ =>
    refine later_of_session .refl ?_ ?_
    · simp [Event.installed?]
    · simp [Event.handedOut?]

theorem ledger_stopped (b : Bridge σ ρ) (id : Nat) : (b.stopped id).ledger = b.ledger := by
  refine ledger_congr ?_ (told_stopped (fun _ _ => rfl) b id) (told_stopped (fun _ _ => rfl) b id)
  rcases b.stopped_cases id with ⟨hx, -⟩ | ⟨c, timer, i, -, -, hx, -⟩
  · rw [hx]
  · rw [hx]
    rfl

theorem Next.ledger {m m' : Moment σ ρ} (hn : Next s mayStop m m')
    (h : Visited s mayStop t remote m.1 m.2) : Ledger.Later m.1.ledger m'.1.ledger := by
  cases hn with
  | start hs =>
    have ho := hs.told (g := Event.installed?) rfl fun _ => rfl
    have hh := hs.told (g := Event.handedOut?) rfl fun _ => rfl
    rw [ledger_congr (by rw [hs.session]) ho hh]
  | move hm => exact hm.ledger h.atHandshake
  | @stop b id hs =>
    rcases cancel_cases b id with he | ⟨ph, -, -, he⟩
    · rw [he]
    · rw [he, ledger_stopped]
  | park | abandon | elapse | remote => exact .refl

theorem Later.ledger {m m' : Moment σ ρ} (hl : Later s mayStop m m')
    (h : Visited s mayStop t remote m.1 m.2) : Ledger.Later m.1.ledger m'.1.ledger := by
  induction hl with
  | refl => exact .refl
  | tail hl hn ih => exact ih.trans (hn.ledger (Later.visited hl h))

theorem Visited.ledger {f : Option (Nat × Point ρ)} (h : Visited s mayStop t remote b f) :
    Ledger.Later .empty b.ledger :=
  h.later.ledger .new

theorem Visited.sound {f : Option (Nat × Point ρ)} (h : Visited s mayStop t remote b f) :
    b.ledger.Sound :=
  h.ledger.sound Ledger.sound_empty

theorem told_opened? (b : Bridge σ ρ) :
    b.told Event.opened? = (b.told Event.installed?).map (·.id) := by
  have same (e : Event) : e.opened? = e.installed?.map (·.id) := by cases e <;> rfl
  rw [told, told, List.map_filterMap]
  exact List.filterMap_congr fun e _ => same e

/-- No other connection has been given the name of this one. -/
def Named (b : Bridge σ ρ) (c : Connection) : Prop :=
  ∀ c' ∈ b.told Event.installed?, c'.id = c.id → c' = c

theorem named_of_nodup (hn : (b.told Event.opened?).Nodup) {c : Connection}
    (hc : c ∈ b.told Event.installed?) : b.Named c := by
  rw [told_opened?] at hn
  exact fun c' hc' hid => List.inj_on_of_nodup_map hn hc' hc hid

/-- What becomes of connections: each that was ever installed is at one place, the live one, a
position among the retired ones or one in what a single caller was given, and it goes on from one to
the next only. Only the live connection is retired when one is invalidated or given up. -/
structure Conserved (s : Setup σ ρ) (mayStop : Bridge σ ρ → Nat → Prop) (b : Bridge σ ρ)
    (f : Option (Nat × Point ρ)) : Prop where
  known : ∀ place c, b.ledger.at? place = some c → c ∈ b.told Event.installed?
  kept : ∀ c ∈ b.told Event.installed?, ∃! place, b.ledger.at? place = some c
  /-- Its name is its own. -/
  named : ∀ c ∈ b.told Event.installed?, b.Named c
  forward : ∀ m, Later s mayStop (b, f) m → ∀ place c, b.ledger.at? place = some c →
    ∃ place', m.1.ledger.at? place' = some c ∧ (place' = place ∨ place.rank < place'.rank)
  invalidated : ∀ c, b.Named c →
    b.session.live = some c ∧ b.session.invalidate c = b.session.retire ∨
      b.session.live ≠ some c ∧ b.session.invalidate c = b.session
  /-- Giving a connection up does nothing yet. -/
  abandoned : ∀ c, (b.abandon c).ledger = b.ledger
  /-- And it does nothing later, if the connection is not the live one by then. -/
  discarded : ∀ c, b.Named c → b.session.live ≠ some c →
    { b.session with
      abandoned := b.session.abandoned.filter (· != c.id) }.discardAbandoned =
        b.session.discardAbandoned

/-- This holds between any two moves of a bridge that never gives two connections one name. -/
theorem Visited.conserved {f : Option (Nat × Point ρ)} (h : Visited s mayStop t remote b f)
    (hn : (b.told Event.opened?).Nodup) : b.Conserved s mayStop f := by
  have hs := h.sound
  have hopened : b.ledger.opened.Nodup := by
    rw [told_opened?] at hn
    exact hn.of_map
  have stale (c : Connection) (hc : b.Named c) (hl : b.session.live ≠ some c) (l : Connection)
      (hx : b.session.live = some l) : l.id ≠ c.id := by
    intro hid
    have hm : l ∈ b.told Event.installed? := hs.known .live l hx
    exact hl (hc l hm hid ▸ hx)
  refine ⟨hs.known, fun c hc => ?_, fun c => named_of_nodup hn, fun m hl place c hp => ?_,
    fun c hc => ?_, fun c => rfl, fun c hc hl => ?_⟩
  · obtain ⟨place, hp⟩ := hs.kept c hc
    exact ⟨place, hp, fun q hq => hs.single hopened q place c hq hp⟩
  · exact (Later.ledger hl h).forward hp
  · by_cases hl : b.session.live = some c
    · exact .inl ⟨hl, Session.invalidate_live hl⟩
    · exact .inr ⟨hl, Session.invalidate_stale (stale c hc hl)⟩
  · exact Session.discardAbandoned_stale (stale c hc hl)

end

/-- A bridge that has given up a connection that it had replaced before, and has given the replaced
one to a caller. -/
def reopened : Bridge Nat Unit :=
  let b := signedIn.submit countingSetup (.session (.invalidate ⟨"0", localTarget⟩))
  let b := (b.submit countingSetup (.session .ensureOpen)).abandon ⟨"0", localTarget⟩
  b.submit countingSetup (.session .takeRetired)

theorem reachable_reopened : Reachable countingSetup (fun _ _ => True) localTarget 0 reopened := by
  unfold reopened
  dsimp only
  refine .step (.step (.step (.step ?_ (.submit _)) (.submit _)) (.abandon _)) (.submit _)
  exact reachable_signedIn

theorem conserved_reopened : reopened.session.live = some ⟨"1", localTarget⟩ ∧
    reopened.told Event.handedOut? = [[⟨"0", localTarget⟩]] ∧
      reopened.Conserved countingSetup (fun _ _ => True) none := by
  have hn : (reopened.told Event.opened?).Nodup := by decide +kernel
  exact ⟨by decide +kernel, by decide +kernel, reachable_reopened.visited.conserved hn⟩

end Bridge

end CommandBridge
