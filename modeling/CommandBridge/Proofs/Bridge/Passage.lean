import CommandBridge.Proofs.Bridge.Stance
import Mathlib.Logic.Relation

/-! How one state of a bridge follows another, between moves. Every step of a bridge is a passage
from one state in which no call runs to another. -/
namespace CommandBridge.Bridge

variable {σ ρ : Type}

/-- A bridge between two moves, with the call that runs and what that call does next. -/
abbrev Moment (σ ρ : Type) := Bridge σ ρ × Option (Nat × Point ρ)

inductive Next (s : Setup σ ρ) (mayStop : Bridge σ ρ → Nat → Prop) :
    Moment σ ρ → Moment σ ρ → Prop where
  | start {b b' id p} (h : Starts s b b' id p) : Next s mayStop (b, none) (b', some (id, p))
  | move {b b' id p p'} (h : Moves s id b p b' p') :
      Next s mayStop (b, some (id, p)) (b', some (id, p'))
  | park {b id ph} : Next s mayStop (b, some (id, .park ph)) (b.setPhase id ph, none)
  | stop {b id} (h : mayStop b id) : Next s mayStop (b, none) (b.cancel id, none)
  | abandon {b} (c : Connection) : Next s mayStop (b, none) (b.abandon c, none)
  | elapse {b} (time : Nat) : Next s mayStop (b, none) ({ b with now := time }, none)
  | remote {b} (remote : σ) : Next s mayStop (b, none) (b.withRemote remote, none)

/-- Any number of moves, of whichever calls. -/
abbrev Later (s : Setup σ ρ) (mayStop : Bridge σ ρ → Nat → Prop) :
    Moment σ ρ → Moment σ ρ → Prop :=
  Relation.ReflTransGen (Next s mayStop)

/-- A move in which nobody but a call changes what `g` tells of the endpoint. -/
structure ByCalls {α : Type} (g : σ → α) (s : Setup σ ρ) (mayStop : Bridge σ ρ → Nat → Prop)
    (m m' : Moment σ ρ) : Prop where
  next : Next s mayStop m m'
  kept : m.2 = none → m'.2 = none → g m'.1.remote = g m.1.remote

/-- Any number of such moves. -/
abbrev LaterByCalls {α : Type} (g : σ → α) (s : Setup σ ρ) (mayStop : Bridge σ ρ → Nat → Prop) :
    Moment σ ρ → Moment σ ρ → Prop :=
  Relation.ReflTransGen (ByCalls g s mayStop)

/-- A call begins to run, and runs until it stops. -/
def Advances (s : Setup σ ρ) (id : Nat) (b b' : Bridge σ ρ) : Prop :=
  ∃ b₁ p, Starts s b b₁ id p ∧ Leads s id p b₁ b'

section
variable {s : Setup σ ρ} {mayStop : Bridge σ ρ → Nat → Prop} {t : Target} {remote : σ}
variable {b b' : Bridge σ ρ} {id : Nat} {p : Point ρ} {r : Request}
variable {α : Type} {g : σ → α}

theorem Next.visited {m m' : Moment σ ρ} (hn : Next s mayStop m m')
    (h : Visited s mayStop t remote m.1 m.2) : Visited s mayStop t remote m'.1 m'.2 := by
  cases hn with
  | start hs => exact h.start hs
  | move hm => exact h.move hm
  | park => exact h.park
  | stop hs => exact h.stop hs
  | abandon c => exact h.abandon c
  | elapse time => exact h.elapse time
  | remote x => exact h.remote x

theorem Later.visited {m m' : Moment σ ρ} (hl : Later s mayStop m m')
    (h : Visited s mayStop t remote m.1 m.2) : Visited s mayStop t remote m'.1 m'.2 := by
  induction hl with
  | refl => exact h
  | tail _ hn ih => exact hn.visited ih

theorem Visited.later {f : Option (Nat × Point ρ)} (h : Visited s mayStop t remote b f) :
    Later s mayStop (Bridge.new t remote, none) (b, f) := by
  induction h with
  | new => exact .refl
  | start _ hs ih => exact ih.tail (.start hs)
  | move _ hm ih => exact ih.tail (.move hm)
  | park _ ih => exact ih.tail .park
  | stop _ hs ih => exact ih.tail (.stop hs)
  | abandon _ c ih => exact ih.tail (.abandon c)
  | elapse _ time ih => exact ih.tail (.elapse time)
  | remote _ x ih => exact ih.tail (.remote x)

theorem LaterByCalls.later {m m' : Moment σ ρ} (h : LaterByCalls g s mayStop m m') :
    Later s mayStop m m' :=
  Relation.ReflTransGen.mono (fun _ _ hn => hn.next) _ _ h

theorem Leads.byCalls (h : Leads s id p b b') :
    LaterByCalls g s mayStop (b, some (id, p)) (b', none) := by
  induction h with
  | park => exact .single ⟨.park, nofun⟩
  | move hm _ ih => exact .head ⟨.move hm, nofun⟩ ih

theorem Leads.later (h : Leads s id p b b') : Later s mayStop (b, some (id, p)) (b', none) :=
  (h.byCalls (g := fun _ => ())).later

theorem Leads.request? (h : Leads s id p b b') (j : Nat) : b'.request? j = b.request? j := by
  induction h with
  | park => exact request?_setPhase _ _ _ j
  | move hm _ ih => rw [ih, request?_of_calls hm.calls]

/-- No call is new but one that begins. -/
theorem Advances.request? (h : Advances s id b b') {ph : Phase ρ} (hp : b.phase? id = some ph)
    (j : Nat) : b'.request? j = b.request? j := by
  obtain ⟨b₁, p, hs, hl⟩ := h
  rw [hl.request? j]
  rcases hs.calls with ⟨hc, -⟩ | ⟨r, -, rfl⟩
  · exact request?_of_calls hc j
  · simp [phase?] at hp

theorem Advances.byCalls (h : Advances s id b b') :
    LaterByCalls g s mayStop (b, none) (b', none) := by
  obtain ⟨b₁, p, hs, hl⟩ := h
  exact .head ⟨.start hs, nofun⟩ hl.byCalls

theorem Advances.later (h : Advances s id b b') : Later s mayStop (b, none) (b', none) :=
  (h.byCalls (g := fun _ => ())).later

theorem Starts.advances {b₁ : Bridge σ ρ} (h : Starts s b b₁ id p) (hl : Leads s id p b₁ b') :
    Advances s id b b' := ⟨b₁, p, h, hl⟩

theorem advances_takeTurn (b : Bridge σ ρ) (hn : r.needsTurn = true) :
    Advances s b.calls.length b
      (((b.addCall r).recordAll r.events).withTurn b.calls.length
        (takeTurn s · b.calls.length)) := by
  unfold withTurn
  dsimp only
  split
  · exact Starts.advances (.takeTurn hn ‹_›) (leads_takeTurn _)
  · exact Starts.advances (.queue hn ‹_›) .park

theorem advances_submit (b : Bridge σ ρ) (r : Request) :
    Advances s b.calls.length b (b.submit s r) := by
  unfold Bridge.submit
  cases r with
  | invoke i =>
    dsimp only
    split
    · exact Starts.advances (.skip ‹_›) .park
    · rename_i hi
      have hn : (Request.invoke i).needsTurn = true := by simpa [Request.needsTurn] using hi
      simpa only [Request.events, recordAll_nil] using advances_takeTurn b hn
  | shutdown => exact advances_takeTurn b rfl
  | session a => exact Starts.advances .approach (leads_waitToAct _ _)
  | execute c i => exact Starts.advances .execute (leads_execute _ _ _ _)
  | close c => exact Starts.advances .close (leads_close _ _)

/-- Only a call that waits for a lock is passed one. -/
theorem Visited.phase_of_ready (h : Visited s mayStop t remote b none) (hm : id ∈ b.ready) :
    b.phase? id = some .queued ∨ (∃ a, b.phase? id = some (.waiting a)) ∨
      ∃ c e, b.phase? id = some (.losing c e) := by
  obtain ⟨g, hg, -⟩ := Locks.passed h.inOrder id hm
  cases hp : b.phase? id with
  | none => cases g <;> simp [stances, spot, hp] at hg
  | some ph =>
    obtain ⟨r, -, hst⟩ := h.stance_of_phase hp
    rw [hst] at hg
    cases ph with
    | queued => exact .inl rfl
    | waiting a => exact .inr (.inl ⟨a, rfl⟩)
    | losing c e => exact .inr (.inr ⟨c, e, rfl⟩)
    | _ => cases g <;> simp [Phase.stance, Request.turnHold] at hg <;> split at hg <;> simp at hg

theorem Visited.advances_goOn (h : Visited s mayStop t remote b none) (hm : id ∈ b.ready) :
    Advances s id b (goOn s { b with ready := b.ready.erase id } id) := by
  have same : ({ b with ready := b.ready.erase id } : Bridge σ ρ).phase? id = b.phase? id := rfl
  unfold Bridge.goOn
  rcases h.phase_of_ready hm with hp | ⟨a, hp⟩ | ⟨c, e, hp⟩ <;> rw [same, hp]
  · exact Starts.advances (.queued hm hp) (leads_takeTurn _)
  · exact Starts.advances (.waiting hm hp) (leads_act _ _)
  · exact Starts.advances (.losing hm hp) (leads_failLost _ _ _)

theorem Visited.advances_expire (h : Visited s mayStop t remote b none) {due : Nat}
    (hd : (b.phase? id).bind Phase.due? = some due) : Advances s id b (b.expire s id) := by
  unfold Bridge.expire
  split
  · rename_i hp
    split
    · exact Starts.advances (.connected hp ‹_› rfl) (leads_connected _ _ _ _)
    · exact Starts.advances (.handshakeTimedOut hp (eq_false_of_ne_true ‹_›))
        (leads_handshakeTimedOut _ _)
  · rename_i hp
    split
    · rename_i hr
      split
      · exact Starts.advances (.executed hp hr ‹_› rfl) (leads_executed _ _ _)
      · exact Starts.advances (.executionTimedOut hp hr (eq_false_of_ne_true ‹_›))
          (leads_lose _ _ _)
    · rename_i hr
      exact Starts.advances (.executedOwn hp hr rfl) (leads_executed _ _ _)
    · rename_i hi he
      -- no other call executes anything
      obtain ⟨r, hr, ⟨i, rfl, -⟩ | ⟨c, i, rfl⟩⟩ := h.suits id (.park _) (spot_resting hp)
      · exact absurd hr (hi i)
      · exact absurd hr (he c i)
  · rename_i hp
    split
    · exact Starts.advances (.closed hp ‹_› rfl) (leads_closed _ _ _ _)
    · rw [hp] at hd
      exact Starts.advances (.closeTimedOut hp hd (eq_false_of_ne_true ‹_›)) (leads_closeAll _ _)
  · rename_i ho he hc
    obtain ⟨ph, hp, hd⟩ := Option.bind_eq_some_iff.mp hd
    cases ph with
    | opening => exact absurd hp (ho _ _ _)
    | executing => exact absurd hp (he _ _)
    | closing => exact absurd hp (hc _ _ _)
    | _ => simp [Phase.due?] at hd

theorem Visited.byCalls_expire (h : Visited s mayStop t remote b none) {due : Nat}
    (hd : (b.phase? id).bind Phase.due? = some due) :
    LaterByCalls g s mayStop (b, none) (Bridge.expire s { b with now := due } id, none) :=
  .head ⟨.elapse due, fun _ _ => rfl⟩ ((h.elapse due).advances_expire hd).byCalls

theorem byCalls_cancel (hm : mayStop b id) : ByCalls g s mayStop (b, none) (b.cancel id, none) := by
  refine ⟨.stop hm, fun _ _ => ?_⟩
  rcases cancel_cases b id with he | ⟨ph, -, -, he⟩
  · exact congrArg (g ·.remote) he
  · exact (congrArg (g ·.remote) he).trans (congrArg g (stopped_remote b id))

/-- Every step is made of such moves, unless it is the endpoint that changes there. -/
theorem Step.byCalls (hs : Step s mayStop b b') (h : Visited s mayStop t remote b none) :
    LaterByCalls g s mayStop (b, none) (b', none) ∨
      ∃ x, b' = b.withRemote x ∧ g x ≠ g b.remote := by
  cases hs with
  | submit r => exact .inl (advances_submit b r).byCalls
  | goOn hm => exact .inl (h.advances_goOn hm).byCalls
  | expire hd => exact .inl (h.byCalls_expire hd)
  | cancel hm => exact .inl (.single (byCalls_cancel hm))
  | abandon c => exact .inl (.single ⟨.abandon c, fun _ _ => rfl⟩)
  | elapse time => exact .inl (.single ⟨.elapse time, fun _ _ => rfl⟩)
  | remote x =>
    by_cases hx : g x = g b.remote
    · exact .inl (.single ⟨.remote x, fun _ _ => hx⟩)
    · exact .inr ⟨x, rfl, hx⟩

theorem Step.later (hs : Step s mayStop b b') (h : Visited s mayStop t remote b none) :
    Later s mayStop (b, none) (b', none) := by
  rcases hs.byCalls (g := fun _ => ()) h with hl | ⟨x, -, hx⟩
  · exact hl.later
  · exact absurd rfl hx

theorem Reachable.visited (h : Reachable s mayStop t remote b) :
    Visited s mayStop t remote b none := by
  induction h with
  | new => exact .new
  | step _ hs ih => exact (hs.later ih).visited ih

end

end CommandBridge.Bridge
