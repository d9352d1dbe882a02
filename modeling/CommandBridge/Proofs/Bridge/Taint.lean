import CommandBridge.Proofs.Bridge.Handshake

/-! A connection on which an invocation was stopped, timed out or failed is not executed on again.
The one exception is a connection that an invocation has lost, when that invocation is stopped
before it could take the connection out of the session. -/
namespace CommandBridge

open Function

variable {σ ρ : Type}

namespace Point

/-- The connection that a call has from the session. -/
def uses? : Point ρ → Option Connection
  | opened c | execute c _ _ | executed c _ | lose c _ | failLost c _ | park (.executing c _)
  | park (.losing c _) => some c
  | _ => none

/-- The connection that a call is about to execute on. -/
def begins? : Point ρ → Option Connection
  | opened c | execute c _ _ => some c
  | _ => none

/-- The connection that a call is about to take out of the session. -/
def drops? : Point ρ → Option Connection
  | failLost c _ | park (.losing c _) => some c
  | _ => none

end Point

namespace Bridge

/-- The call waits for a lock that is held, for a timer or for the endpoint. A lock that was passed
to a call is not held until that call goes on. -/
def Waits (b : Bridge σ ρ) (id : Nat) : Prop :=
  match b.phase? id with
  | some .queued => ∃ j, b.turn.holder = some j ∧ j ∉ b.ready
  | some (.waiting _) | some (.losing _ _) => ∃ j, b.access.holder = some j ∧ j ∉ b.ready
  | some (.opening _ _ _) | some (.executing _ _) | some (.closing _ _ _) => True
  | some (.ended _) | some .cancelled | none => False

/-- Every call has run until it waits. -/
def Settled (b : Bridge σ ρ) : Prop :=
  ∀ id ph, b.phase? id = some ph → ph.isFinal = false → b.Waits id

/-- What a move does about connections. -/
inductive ConnectionMove (id : Nat) (b : Bridge σ ρ) (p : Point ρ) (b' : Bridge σ ρ)
    (p' : Point ρ) : Prop where
  /-- The call goes on with the connection it has, or lets go of it. -/
  | quiet (hs : b'.session.live = none ∨ b'.session.live = b.session.live ∧
        (b'.session.abandoned = b.session.abandoned ∨
          ∀ c, b.session.live = some c → c.id ∉ b.session.abandoned))
      (ho : b'.told Event.opened? = b.told Event.opened?)
      (ht : b'.told Event.tainted? = b.told Event.tainted?)
      (he : b'.told Event.executing? = b.told Event.executing?)
      (hu : ∀ c, p'.uses? = some c → p.uses? = some c)
      (hb : ∀ c, p'.begins? = some c → p.begins? = some c)
      (hd : p.drops? = none) (hd' : p'.drops? = none)
  | reuse {c : Connection} (hp : p = .act .ensureOpen) (hl : b.session.live = some c)
      (hl' : b'.session.live = some c) (ha : c.id ∉ b.session.abandoned)
      (he : b'.events = b.events) (hp' : p' = .opened c)
  | install {t : Target} {k : Credential} {name : String} {c : Connection} {generation : Nat}
      (hp : p = .connected t k (.ok name)) (hl : b'.session.live = some c)
      (he : b'.events = b.events ++ [.opened c k generation]) (hp' : p' = .opened c)
  | execute {c : Connection} {i : Invocation} {limit : Option Nat} (hp : p = .execute c i limit)
      (hs : b'.session = b.session) (he : b'.events = b.events ++ [.executing id c])
      (hu : p'.uses? = some c) (hb : p'.begins? = none) (hd : p'.drops? = none)
  | lose {c : Connection} {e : Failure} (hp : p = .lose c e) (hs : b'.session = b.session)
      (he : b'.events = b.events ++ [.lost id c]) (hu : p'.uses? = some c)
      (hb : p'.begins? = none) (hd : p'.drops? = some c)
  | drop {c : Connection} {e : Failure} (hp : p = .failLost c e)
      (hs : b'.session = b.session.invalidate c) (he : b'.events = b.events)
      (hu : p'.uses? = none) (hb : p'.begins? = none) (hd : p'.drops? = none)

section
variable {s : Setup σ ρ} {b b' : Bridge σ ρ} {id : Nat} {p p' : Point ρ} {r : Request}

theorem discardAbandoned_cases (x : Session) : x.discardAbandoned.live = none ∨
    x.discardAbandoned.live = x.live ∧ ∀ c, x.live = some c → c.id ∉ x.abandoned := by
  unfold Session.discardAbandoned
  split
  · exact .inl rfl
  · rename_i h
    refine .inr ⟨rfl, fun c hc => ?_⟩
    simpa [hc] using h

theorem update_abandoned (a : SessionAction) (x : Session) : (a.update x).live = none ∨
    (a.update x).live = x.live ∧
      ((a.update x).abandoned = x.abandoned ∨ ∀ c, x.live = some c → c.id ∉ x.abandoned) := by
  have discard := (discardAbandoned_cases x).imp_right fun h => And.imp_right
    (Or.inr (a := x.discardAbandoned.abandoned = x.abandoned)) h
  cases a with
  | setCredential | clearCredential | setTarget | retireAll => exact .inl rfl
  | invalidate c =>
    unfold SessionAction.update Session.invalidate
    dsimp only
    split
    · exact .inl rfl
    · exact .inr ⟨rfl, .inl rfl⟩
  | ensureOpen | isOpen | takeRetired => exact discard
  | isAuthenticated | target | generation => exact .inr ⟨rfl, .inl rfl⟩

theorem Moves.connections (h : Moves s id b p b' p') : ConnectionMove id b p b' p' := by
  cases h with
  | @reuse c hl =>
    rcases discardAbandoned_cases b.session with hn | ⟨hs, ha⟩
    · exact absurd (hl.symm.trans hn) (by simp)
    · exact .reuse rfl (hs ▸ hl) hl (ha c (hs ▸ hl)) rfl rfl
  | install => exact .install rfl rfl (by simp; rfl) rfl
  | execute | executeNever | executeLater => exact .execute rfl rfl (by simp) rfl rfl rfl
  | lose | loseLater => exact .lose rfl rfl (by simp) rfl rfl rfl
  | failLost | failOther => exact .drop rfl rfl rfl rfl rfl rfl
  | @serve a =>
    refine .quiet (update_abandoned a b.session) ?_ ?_ ?_ (by simp [Point.uses?])
      (by simp [Point.begins?]) rfl rfl
    all_goals exact told_events _ (fun _ => rfl) (fun _ => rfl) a
  | @handOut a | @collect a =>
    refine .quiet (update_abandoned a b.session) ?_ ?_ ?_ (by simp [Point.uses?])
      (by simp [Point.begins?]) rfl rfl <;> simp [Event.opened?, Event.tainted?, Event.executing?]
  | refuse hl | connect hl | connectNever hl | connectLater hl =>
    refine .quiet (.inl hl) ?_ ?_ ?_ (by simp [Point.uses?]) (by simp [Point.begins?]) rfl rfl <;>
      simp [Event.opened?, Event.tainted?, Event.executing?]
  | close =>
    refine .quiet (.inr ⟨rfl, .inl rfl⟩) ?_ ?_ ?_ (by simp [Point.uses?]) (by simp [Point.begins?])
      rfl rfl
    all_goals
      refine (told_closeNotes _ (fun _ => rfl) (fun _ _ => rfl) _ _).trans ?_
      simp [Event.opened?, Event.tainted?, Event.executing?]
  | closedOwn | closed =>
    refine .quiet (.inr ⟨rfl, .inl rfl⟩) ?_ ?_ ?_ (by simp [Point.uses?]) (by simp [Point.begins?])
      rfl rfl
    all_goals exact told_closeNotes _ (fun _ => rfl) (fun _ _ => rfl) _ _
  | _ =>
    refine .quiet (.inr ⟨rfl, .inl rfl⟩) ?_ ?_ ?_ ?_ ?_ rfl rfl <;>
      simp [Event.opened?, Event.tainted?, Event.executing?, Point.uses?, Point.begins?]

/-- Nothing takes the connection that was lost in `e` out of the session any more, since the call
that lost it has been stopped. Where `calm` holds, calls are stopped only when all of them wait, and
this does not matter. -/
def Forgotten (calm : Prop) (b : Bridge σ ρ) (f : Option (Nat × Point ρ)) (e : Event) : Prop :=
  ¬ calm ∧ ∃ id c, e = .lost id c ∧ b.isGone f id

/-- The event taints a connection of that name, and that is not forgotten. -/
structure Taints (calm : Prop) (b : Bridge σ ρ) (f : Option (Nat × Point ρ)) (e : Event)
    (name : String) : Prop where
  mem : e ∈ b.events
  tainted : e.tainted? = some name
  kept : ¬ b.Forgotten calm f e

/-- No invocation executes on a connection that has been tainted before. -/
def NeverAgain (calm : Prop) (b : Bridge σ ρ) (f : Option (Nat × Point ρ)) : Prop :=
  b.events.Pairwise fun e e' => ∀ name j, e.tainted? = some name → ¬ b.Forgotten calm f e →
    e'.executing? = some (j, name) → ¬ b.runs j

/-- The call that lost a connection of that name in `e` is about to take it out of the session. -/
def Drops (b : Bridge σ ρ) (f : Option (Nat × Point ρ)) (e : Event) (name : String) : Prop :=
  ∃ j q c c', e = .lost j c ∧ b.spot f j = some q ∧ q.drops? = some c' ∧ c'.id = name

/-- A tainted connection is on its way out of the session, and none of those that calls have. -/
structure Clean (calm : Prop) (b : Bridge σ ρ) (f : Option (Nat × Point ρ)) : Prop where
  live : ∀ c, b.session.live = some c → c.id ∈ b.told Event.opened?
  tainted : ∀ name ∈ b.told Event.tainted?, name ∈ b.told Event.opened?
  used : ∀ j q c, b.runs j → b.spot f j = some q → q.uses? = some c →
    c.id ∈ b.told Event.opened?
  fresh : ∀ j q c e, b.runs j → b.spot f j = some q → q.begins? = some c →
    ¬ b.Taints calm f e c.id
  dropped : ∀ c e, b.session.live = some c → b.Taints calm f e c.id →
    c.id ∈ b.session.abandoned ∨ b.Drops f e c.id
  never : b.NeverAgain calm f

variable {calm : Prop}

section
variable {f f' : Option (Nat × Point ρ)} {e : Event} {es : List Event} {name : String}

theorem Forgotten.mono (h : b.Forgotten calm f e) (hg : ∀ j, b.isGone f j → b'.isGone f' j) :
    b'.Forgotten calm f' e := by
  obtain ⟨hcalm, j, c, rfl, hj⟩ := h
  exact ⟨hcalm, j, c, rfl, hg j hj⟩

/-- A taint of which nothing new was told was there before. -/
theorem Taints.before (h : b'.Taints calm f' e name) (hg : ∀ j, b.isGone f j → b'.isGone f' j)
    (he : b'.events = b.events ++ es) (hn : ∀ e ∈ es, e.tainted? = none) :
    b.Taints calm f e name := by
  refine ⟨?_, h.tainted, fun hf => h.kept (hf.mono hg)⟩
  rcases List.mem_append.mp (he ▸ h.mem) with hm | hm
  · exact hm
  · exact absurd (h.tainted.symm.trans (hn e hm)) (by simp)

theorem Taints.of_told (h : b'.Taints calm f' e name) (hg : ∀ j, b.isGone f j → b'.isGone f' j)
    (hx : b.events <+: b'.events) (ht : b'.told Event.tainted? = b.told Event.tainted?) :
    b.Taints calm f e name := by
  obtain ⟨es, hes⟩ := hx
  exact h.before hg hes.symm (none_of_told hes.symm ht)

theorem Taints.mem_told (h : b.Taints calm f e name) : name ∈ b.told Event.tainted? :=
  List.mem_filterMap.mpr ⟨e, h.mem, h.tainted⟩

end

theorem spot_of_move (hc : b'.calls = b.calls) {j : Nat} (hj : j ≠ id) :
    b'.spot (some (id, p')) j = b.spot (some (id, p)) j := by
  rw [spot_of_calls hc, spot_other hj, ← spot_other hj]

section
variable {f f' : Option (Nat × Point ρ)} {es : List Event}

theorem NeverAgain.mono (h : b.NeverAgain calm f) (hg : ∀ j, b.isGone f j → b'.isGone f' j)
    (he : b'.events = b.events ++ es) (hn : ∀ e ∈ es, e.executing? = none)
    (hq : ∀ e ∈ b.events, ∀ j name, e.executing? = some (j, name) → b'.runs j → b.runs j) :
    b'.NeverAgain calm f' := by
  unfold NeverAgain
  rw [he]
  refine List.pairwise_append.mpr ⟨?_, ?_, fun a _ e hm name j _ _ hej => ?_⟩
  · refine h.imp_of_mem fun _ hm hR name j ht hf hx hj => ?_
    exact hR name j ht (fun hf' => hf (hf'.mono hg)) hx (hq _ hm j name hx hj)
  · refine List.pairwise_of_forall_mem_list fun a _ e hm name j _ _ hej => ?_
    simp [hn e hm] at hej
  · simp [hn e hm] at hej

theorem NeverAgain.append (h : b.NeverAgain calm f) (hg : ∀ j, b.isGone f j → b'.isGone f' j)
    (hq : b'.runs = b.runs) (he : b'.events = b.events ++ es)
    (hn : ∀ e ∈ es, e.executing? = none) : b'.NeverAgain calm f' :=
  h.mono hg he hn fun _ _ _ _ _ hj => hq ▸ hj

theorem NeverAgain.execute {c : Connection} (h : b.NeverAgain calm f)
    (hg : ∀ j, b.isGone f j → b'.isGone f' j) (hq : b'.runs = b.runs)
    (he : b'.events = b.events ++ [.executing id c])
    (hn : ∀ e, b.runs id → ¬ b.Taints calm f e c.id) : b'.NeverAgain calm f' := by
  unfold NeverAgain
  rw [he, hq]
  refine List.pairwise_append.mpr
    ⟨?_, List.pairwise_singleton _ _, fun a ha e hm name j hat hf hej hj => ?_⟩
  · exact h.imp fun hR name j ht hf => hR name j ht fun hf' => hf (hf'.mono hg)
  · obtain rfl := List.mem_singleton.mp hm
    obtain ⟨rfl, rfl⟩ := Prod.mk.inj (Option.some.inj hej)
    exact hn a hj ⟨ha, hat, fun hf' => hf (hf'.mono hg)⟩

end

theorem runs_of_calls (hc : b'.calls = b.calls) : b'.runs = b.runs :=
  runs_congr (request?_of_calls hc)

/-- Only the running call can be about to execute. -/
theorem begins?_of_other {j : Nat} {q : Point ρ} (hj : j ≠ id)
    (hq : b.spot (some (id, p)) j = some q) : q.begins? = none := by
  rw [spot_other hj] at hq
  obtain ⟨ph, -, rfl⟩ := Option.map_eq_some_iff.mp hq
  rfl

/-- After a move, the calls that do not run have what they had. -/
theorem Clean.of_move (h : b.Clean calm (some (id, p))) (hc : b'.calls = b.calls)
    (ho : ∀ name ∈ b.told Event.opened?, name ∈ b'.told Event.opened?)
    (hl : ∀ c, b'.session.live = some c → c.id ∈ b'.told Event.opened?)
    (ht : ∀ name ∈ b'.told Event.tainted?, name ∈ b'.told Event.opened?)
    (hu : ∀ c, b.runs id → p'.uses? = some c → c.id ∈ b'.told Event.opened?)
    (hb : ∀ c e, b.runs id → p'.begins? = some c → ¬ b'.Taints calm (some (id, p')) e c.id)
    (hd : ∀ c e, b'.session.live = some c → b'.Taints calm (some (id, p')) e c.id →
      c.id ∈ b'.session.abandoned ∨ b'.Drops (some (id, p')) e c.id)
    (hn : b'.NeverAgain calm (some (id, p'))) : b'.Clean calm (some (id, p')) := by
  refine ⟨hl, ht, fun j q c hj hq hqc => ?_, fun j q c e hj hq hqc => ?_, hd, hn⟩
  · rw [runs_of_calls hc] at hj
    rcases spot_move (p := p) hc hq with ⟨rfl, rfl⟩ | ⟨-, hq⟩
    · exact hu c hj hqc
    · exact ho _ (h.used j q c hj hq hqc)
  · rw [runs_of_calls hc] at hj
    rcases spot_move (p := p) hc hq with ⟨rfl, rfl⟩ | ⟨hji, hq⟩
    · exact hb c e hj hqc
    · exact absurd (hqc.symm.trans (begins?_of_other hji hq)) (by simp)

/-- A call that is about to take a connection out of the session is still so after another one has
moved. -/
theorem Clean.dropped_of_move {c : Connection} {e : Event} (h : b.Clean calm (some (id, p)))
    (hc : b'.calls = b.calls) (hp : ∀ c', p.drops? = some c' → c'.id ≠ c.id)
    (hl : b.session.live = some c) (hm : b.Taints calm (some (id, p)) e c.id) :
    c.id ∈ b.session.abandoned ∨ b'.Drops (some (id, p')) e c.id := by
  refine (h.dropped c e hl hm).imp_right fun ⟨j, q, c₁, c', he, hq, hqc, hid⟩ => ?_
  have hj : j ≠ id := by
    rintro rfl
    obtain rfl : p = q := by simpa [spot_running] using hq
    exact hp c' hqc hid
  exact ⟨j, q, c₁, c', he, (spot_of_move hc hj).trans hq, hqc, hid⟩

/-- A call that is about to take a connection out of the session has its turn. -/
theorem has_of_drops? {f : Option (Nat × Point ρ)} (hs : b.AllSuit f) {c : Connection}
    (hp : b.spot f id = some p) (hd : p.drops? = some c) : b.stances f id .turn = .has := by
  obtain ⟨r, hr, hsuit⟩ := hs id p hp
  have hn : (∃ i, r.Runs i) → r.turnHold = .has := by
    rintro ⟨i, rfl, hi⟩
    exact Request.turnHold_of_needsTurn (by simp [Request.needsTurn, hi])
  simp only [stances, hr, hp]
  cases p with
  | failLost => exact hn hsuit
  | park ph =>
    cases ph with
    | losing => exact hn hsuit
    | _ => simp [Point.drops?] at hd
  | _ => simp [Point.drops?] at hd

/-- The live connection is not tainted when an invocation is given it again. -/
theorem Clean.untainted {c : Connection} {e : Event}
    (h : b.Clean calm (some (id, .act .ensureOpen)))
    (hs : b.AllSuit (some (id, .act .ensureOpen))) (ho : b.InOrder (some (id, .act .ensureOpen)))
    (hl : b.session.live = some c) (ha : c.id ∉ b.session.abandoned) (hr : b.runs id) :
    ¬ b.Taints calm (some (id, .act .ensureOpen)) e c.id := by
  intro hm
  rcases h.dropped c e hl hm with hm | ⟨j, q, _, c', -, hq, hqc, -⟩
  · exact ha hm
  · obtain ⟨r, i, hr, rfl, hi⟩ := hr
    have hid : b.stances (some (id, .act .ensureOpen)) id .turn = .has := by
      rw [stances_running hr]
      exact Request.turnHold_of_needsTurn (by simp [Request.needsTurn, hi])
    obtain rfl := ho.has_unique (has_of_drops? hs hq hqc) hid
    obtain rfl : Point.act .ensureOpen = q := by simpa [spot_running] using hq
    simp [Point.drops?] at hqc

section
variable {c : Connection}

theorem Clean.quiet (h : b.Clean calm (some (id, p))) (hm : Moves s id b p b' p')
    (hs : b'.session.live = none ∨ b'.session.live = b.session.live ∧
      (b'.session.abandoned = b.session.abandoned ∨
        ∀ c, b.session.live = some c → c.id ∉ b.session.abandoned))
    (ho : b'.told Event.opened? = b.told Event.opened?)
    (ht : b'.told Event.tainted? = b.told Event.tainted?)
    (he : b'.told Event.executing? = b.told Event.executing?)
    (hu : ∀ c, p'.uses? = some c → p.uses? = some c)
    (hb : ∀ c, p'.begins? = some c → p.begins? = some c) (hd : p.drops? = none) :
    b'.Clean calm (some (id, p')) := by
  have hc := hm.calls
  have hg (j : Nat) := hm.isGone (j := j)
  obtain ⟨es, hes⟩ := hm.events_grow
  have live (c : Connection) (hl : b'.session.live = some c) : b.session.live = some c ∧
      (b'.session.abandoned = b.session.abandoned ∨ c.id ∉ b.session.abandoned) := by
    rcases hs with hn | ⟨hs, ha⟩
    · simp [hn] at hl
    · exact ⟨hs ▸ hl, ha.imp_right fun ha => ha c (hs ▸ hl)⟩
  have old {e : Event} {name : String} (hm' : b'.Taints calm (some (id, p')) e name) :
      b.Taints calm (some (id, p)) e name := hm'.of_told hg hm.events_grow ht
  refine h.of_move hc (by simp [ho]) (fun c hl => ?_) ?_ (fun c hj hu' => ?_)
    (fun c e hj hb' hm' => ?_) (fun c e hl hm' => ?_)
    (h.never.append hg (runs_of_calls hc) hes.symm (none_of_told hes.symm he))
  · exact ho ▸ h.live c (live c hl).1
  · rw [ho, ht]
    exact h.tainted
  · exact ho ▸ h.used id p c hj (spot_running b id p) (hu c hu')
  · exact h.fresh id p c e hj (spot_running b id p) (hb c hb') (old hm')
  · obtain ⟨hl, ha⟩ := live c hl
    refine (h.dropped_of_move hc (by simp [hd]) hl (old hm')).imp_left fun hm => ?_
    rcases ha with ha | ha
    · exact ha ▸ hm
    · exact absurd hm ha

theorem Clean.reuse (h : b.Clean calm (some (id, .act .ensureOpen)))
    (hm : Moves s id b (.act .ensureOpen) b' (.opened c))
    (hs : b.AllSuit (some (id, .act .ensureOpen))) (ho : b.InOrder (some (id, .act .ensureOpen)))
    (hl : b.session.live = some c) (hl' : b'.session.live = some c)
    (ha : c.id ∉ b.session.abandoned) (he : b'.events = b.events) :
    b'.Clean calm (some (id, .opened c)) := by
  have hc := hm.calls
  have hg (j : Nat) := hm.isGone (j := j)
  have told {α : Type} (g : Event → Option α) : b'.told g = b.told g := by simp [told, he]
  have same (c' : Connection) (hl : b'.session.live = some c') : c = c' :=
    Option.some.inj (hl'.symm.trans hl)
  have old {e : Event} {name : String} (hm' : b'.Taints calm (some (id, .opened c)) e name) :
      b.Taints calm (some (id, .act .ensureOpen)) e name :=
    hm'.of_told hg hm.events_grow (told _)
  refine h.of_move hc (by simp [told]) (fun c' hc' => ?_) ?_ (fun c' hj hu => ?_)
    (fun c' e hj hb hm' => ?_) (fun c' e hc' hm' => ?_)
    (h.never.append hg (runs_of_calls hc) (he.trans (List.append_nil _).symm) (by simp))
  · rw [told, ← same c' hc']
    exact h.live c hl
  · rw [told, told]
    exact h.tainted
  · obtain rfl : c = c' := Option.some.inj hu
    exact told _ ▸ h.live c hl
  · obtain rfl : c = c' := Option.some.inj hb
    exact h.untainted hs ho hl ha hj (old hm')
  · obtain rfl := same c' hc'
    exact (h.dropped_of_move hc (by simp [Point.drops?]) hl (old hm')).imp_left fun hm =>
      absurd hm ha

/-- Nothing has happened yet to a connection that is new. -/
theorem Clean.install {t : Target} {k : Credential} {name : String} {generation : Nat}
    (h : b.Clean calm (some (id, .connected t k (.ok name))))
    (hm : Moves s id b (.connected t k (.ok name)) b' (.opened c))
    (hn : (b'.told Event.opened?).Nodup) (hl : b'.session.live = some c)
    (he : b'.events = b.events ++ [.opened c k generation]) :
    b'.Clean calm (some (id, .opened c)) := by
  have hc := hm.calls
  have hg (j : Nat) := hm.isGone (j := j)
  have ho : b'.told Event.opened? = b.told Event.opened? ++ [c.id] := told_append he
  have ht : b'.told Event.tainted? = b.told Event.tainted? :=
    (told_append he).trans (List.append_nil _)
  have hnew {e : Event} (hm' : b'.Taints calm (some (id, .opened c)) e c.id) : False := by
    rw [ho] at hn
    have htold := h.tainted _ (ht ▸ hm'.mem_told)
    exact (List.nodup_append.mp hn).2.2 _ htold _ (List.mem_singleton_self _) rfl
  have same (c' : Connection) (hl' : b'.session.live = some c') : c = c' :=
    Option.some.inj (hl.symm.trans hl')
  refine h.of_move hc (fun name hm => ?_) (fun c' hc' => ?_) (fun name hm => ?_)
    (fun c' hj hu => ?_)
    (fun c' e hj hb hm' => ?_) (fun c' e hc' hm' => ?_)
    (h.never.append hg (runs_of_calls hc) he (by simp [Event.executing?]))
  · exact ho ▸ List.mem_append_left _ hm
  · simp [ho, ← same c' hc']
  · rw [ht] at hm
    exact ho ▸ List.mem_append_left _ (h.tainted name hm)
  · obtain rfl : c = c' := Option.some.inj hu
    simp [ho]
  · obtain rfl : c = c' := Option.some.inj hb
    exact hnew hm'
  · obtain rfl := same c' hc'
    exact (hnew hm').elim

theorem Clean.execute {i : Invocation} {limit : Option Nat}
    (h : b.Clean calm (some (id, .execute c i limit)))
    (hm : Moves s id b (.execute c i limit) b' p')
    (hs : b'.session = b.session) (he : b'.events = b.events ++ [.executing id c])
    (hu : p'.uses? = some c) (hb : p'.begins? = none) : b'.Clean calm (some (id, p')) := by
  have hc := hm.calls
  have hg (j : Nat) := hm.isGone (j := j)
  have ho : b'.told Event.opened? = b.told Event.opened? :=
    (told_append he).trans (List.append_nil _)
  have ht : b'.told Event.tainted? = b.told Event.tainted? :=
    (told_append he).trans (List.append_nil _)
  have hfresh (e : Event) (hj : b.runs id) :
      ¬ b.Taints calm (some (id, .execute c i limit)) e c.id :=
    h.fresh id _ c e hj (spot_running b id _) rfl
  refine h.of_move hc (by simp [ho]) (fun c' hl => ?_) ?_ (fun c' hj hu' => ?_)
    (by simp [hb]) (fun c' e hl hm' => ?_) (h.never.execute hg (runs_of_calls hc) he hfresh)
  · exact ho ▸ h.live c' (hs ▸ hl)
  · rw [ho, ht]
    exact h.tainted
  · obtain rfl : c = c' := Option.some.inj (hu.symm.trans hu')
    exact ho ▸ h.used id _ c hj (spot_running b id _) rfl
  · rw [hs] at hl ⊢
    exact h.dropped_of_move hc (by simp [Point.drops?]) hl (hm'.of_told hg hm.events_grow ht)

theorem Clean.lose {e : Failure} (h : b.Clean calm (some (id, .lose c e)))
    (hm : Moves s id b (.lose c e) b' p')
    (hr : b.runs id) (hs : b'.session = b.session) (he : b'.events = b.events ++ [.lost id c])
    (hu : p'.uses? = some c) (hb : p'.begins? = none) (hd : p'.drops? = some c) :
    b'.Clean calm (some (id, p')) := by
  have hc := hm.calls
  have hg (j : Nat) := hm.isGone (j := j)
  have ho : b'.told Event.opened? = b.told Event.opened? :=
    (told_append he).trans (List.append_nil _)
  have ht : b'.told Event.tainted? = b.told Event.tainted? ++ [c.id] := told_append he
  have hused : c.id ∈ b.told Event.opened? := h.used id _ c hr (spot_running b id _) rfl
  refine h.of_move hc (by simp [ho]) (fun c' hl => ?_) (fun name hm => ?_) (fun c' hj hu' => ?_)
    (by simp [hb]) (fun c' e' hl hm' => ?_)
    (h.never.append hg (runs_of_calls hc) he (by simp [Event.executing?]))
  · exact ho ▸ h.live c' (hs ▸ hl)
  · rw [ho]
    rw [ht] at hm
    rcases List.mem_append.mp hm with hm | hm
    · exact h.tainted name hm
    · exact List.mem_singleton.mp hm ▸ hused
  · obtain rfl : c = c' := Option.some.inj (hu.symm.trans hu')
    exact ho ▸ hused
  · rw [hs] at hl ⊢
    rcases List.mem_append.mp (he ▸ hm'.mem) with hmem | hmem
    · exact h.dropped_of_move hc (by simp [Point.drops?]) hl
        ⟨hmem, hm'.tainted, fun hf => hm'.kept (hf.mono hg)⟩
    · obtain rfl := List.mem_singleton.mp hmem
      exact .inr ⟨id, p', c, c, rfl, spot_running b' id p', hd, Option.some.inj hm'.tainted⟩

theorem Clean.drop {e : Failure} (h : b.Clean calm (some (id, .failLost c e)))
    (hm : Moves s id b (.failLost c e) b' p') (hs : b'.session = b.session.invalidate c)
    (he : b'.events = b.events) (hu : p'.uses? = none) (hb : p'.begins? = none) :
    b'.Clean calm (some (id, p')) := by
  have hc := hm.calls
  have hg (j : Nat) := hm.isGone (j := j)
  have told {α : Type} (g : Event → Option α) : b'.told g = b.told g := by simp [told, he]
  have live (c' : Connection) (hl : b'.session.live = some c') : b.session.live = some c' ∧
      c.id ≠ c'.id ∧ b'.session.abandoned = b.session.abandoned := by
    rw [hs] at hl ⊢
    unfold Session.invalidate at hl ⊢
    split at hl
    · simp [Session.retire] at hl
    · rename_i hn
      rw [if_neg hn]
      refine ⟨hl, fun hid => hn ?_, rfl⟩
      simp [hl, hid]
  refine h.of_move hc (by simp [told]) (fun c' hl => ?_) ?_ (by simp [hu]) (by simp [hb])
    (fun c' e hl hm' => ?_)
    (h.never.append hg (runs_of_calls hc) (he.trans (List.append_nil _).symm) (by simp))
  · exact told _ ▸ h.live c' (live c' hl).1
  · rw [told, told]
    exact h.tainted
  · obtain ⟨hl, hne, ha⟩ := live c' hl
    rw [ha]
    exact h.dropped_of_move hc (by simpa [Point.drops?] using hne) hl
      (hm'.of_told hg hm.events_grow (told _))

end

theorem Moves.clean (h : Moves s id b p b' p') (hr : b.request? id = some r) (hp : p.Suits r)
    (hs : b.AllSuit (some (id, p))) (ho : b.InOrder (some (id, p)))
    (hn : (b'.told Event.opened?).Nodup) (hb : b.Clean calm (some (id, p))) :
    b'.Clean calm (some (id, p')) := by
  cases h.connections with
  | quiet hx hopened htainted hexec hu hb' hd =>
    exact hb.quiet h hx hopened htainted hexec hu hb' hd
  | reuse hpt hl hl' ha he hp' =>
    subst hpt hp'
    exact hb.reuse h hs ho hl hl' ha he
  | install hpt hl he hp' =>
    subst hpt hp'
    exact hb.install h hn hl he
  | execute hpt hx he hu hb' hd =>
    subst hpt
    exact hb.execute h hx he hu hb'
  | lose hpt hx he hu hb' hd =>
    subst hpt
    obtain ⟨i, hi⟩ := hp
    exact hb.lose h ⟨r, i, hr, hi⟩ hx he hu hb' hd
  | drop hpt hx he hu hb' hd =>
    subst hpt
    exact hb.drop h hx he hu hb'

/-- What a call has when it begins to run it had where it waited. -/
theorem Starts.has (h : Starts s b b' id p) (hr : b'.runs id) {c : Connection} :
    p.begins? = none ∧
      (p.uses? = some c → ∃ q, b.spot none id = some q ∧ q.uses? = some c) := by
  obtain ⟨r, i, hr, rfl, -⟩ := hr
  cases h with
  | execute => cases (request?_addCall _ _).symm.trans hr
  | losing _ hp => exact ⟨rfl, fun hc => ⟨_, spot_resting hp, hc⟩⟩
  | executed hp | executedOwn hp | executionTimedOut hp =>
    exact ⟨rfl, fun hc => ⟨_, spot_resting hp, hc⟩⟩
  | _ => exact ⟨rfl, by simp [Point.uses?]⟩

theorem Starts.drops (h : Starts s b b' id p) {q : Point ρ} {c : Connection}
    (hq : b.spot none id = some q) (hd : q.drops? = some c) : p.drops? = some c := by
  cases h with
  | skip | takeTurn | queue | approach | execute | close => simp [spot, phase?] at hq
  | losing _ hp =>
    obtain rfl := Option.some.inj ((spot_resting hp).symm.trans hq)
    exact hd
  | queued _ hp | waiting _ hp | connected hp | handshakeTimedOut hp | executed hp
  | executedOwn hp | executionTimedOut hp | closed hp | closeTimedOut hp =>
    obtain rfl := Option.some.inj ((spot_resting hp).symm.trans hq)
    simp [Point.drops?] at hd

theorem Starts.runs (h : Starts s b b' id p) {j : Nat} (hj : b.request? j = some r)
    (hr : b'.runs j) : b.runs j := by
  obtain ⟨r', i, hr, hi⟩ := hr
  obtain rfl : r = r' := Option.some.inj ((h.request? hj).symm.trans hr)
  exact ⟨r, i, hj, hi⟩

theorem caller?_of_executing? {e : Event} {j : Nat} {name : String}
    (h : e.executing? = some (j, name)) : e.caller? = some j := by
  cases e <;> simp only [Event.executing?, reduceCtorEq, Option.some.injEq, Prod.mk.injEq] at h
  rw [← h.1]
  rfl

theorem Starts.clean (h : Starts s b b' id p) (hs : b.AllSuit none) (hk : b.TakesTurns none)
    (hb : b.Clean calm none) : b'.Clean calm (some (id, p)) := by
  have ho : b'.told Event.opened? = b.told Event.opened? := h.told rfl fun _ => rfl
  have ht : b'.told Event.tainted? = b.told Event.tainted? := h.told rfl fun _ => rfl
  have he : b'.told Event.executing? = b.told Event.executing? := h.told rfl fun _ => rfl
  have hx := h.session
  have hg (j : Nat) := h.isGone (j := j)
  have hother {j : Nat} (hj : j ≠ id) (hr : b'.runs j) : b.runs j := by
    obtain ⟨r, i, hr, hi⟩ := hr
    exact ⟨r, i, (h.other hj).2 ▸ hr, hi⟩
  obtain ⟨es, hes, -⟩ := h.events
  refine ⟨fun c hl => ?_, ?_, fun j q c hr hq hqc => ?_, fun j q c e hr hq hqc => ?_,
    fun c e hl hm => ?_, hb.never.mono hg hes (none_of_told hes he) fun e hm j name hej hr => ?_⟩
  · exact ho ▸ hb.live c (hx ▸ hl)
  · rw [ho, ht]
    exact hb.tainted
  · rw [ho]
    rcases h.spot_cases hq with ⟨rfl, rfl⟩ | ⟨hj, hq⟩
    · obtain ⟨q, hq, hqc⟩ := (h.has hr).2 hqc
      obtain ⟨r, hj, -⟩ := hs j q hq
      exact hb.used j q c (h.runs hj hr) hq hqc
    · exact hb.used j q c (hother hj hr) hq hqc
  · rcases h.spot_cases hq with ⟨rfl, rfl⟩ | ⟨hj, -⟩
    · simp [(h.has hr (c := c)).1] at hqc
    · simp [begins?_of_other hj hq] at hqc
  · rw [hx] at hl ⊢
    have hold := hm.before hg hes (none_of_told hes ht)
    refine (hb.dropped c e hl hold).imp_right fun ⟨j, q, c₁, c', he, hq, hqc, hid⟩ => ?_
    by_cases hj : j = id
    · subst hj
      exact ⟨j, p, c₁, c', he, spot_running b' j p, h.drops hq hqc, hid⟩
    · exact ⟨j, q, c₁, c', he, (h.other hj).1.trans hq, hqc, hid⟩
  · obtain ⟨r, hj⟩ := hk.known e hm j (caller?_of_executing? hej)
    exact h.runs hj hr

/-- A lock that is held while all calls wait is held for a handshake, which begins only where there
is no live connection. -/
theorem live_of_held {j : Nat} (ho : b.InOrder none) (ha : b.AtHandshake none)
    (hj : b.access.holder = some j) (hn : j ∉ b.ready) : b.session.live = none := by
  cases hst : b.stances none j .access with
  | out => exact absurd hst ((ho.orderly .access).holder j hj)
  | waits => exact absurd (ho.ready j .access hst hj) hn
  | has =>
    cases hr : b.request? j with
    | none => simp [stances, hr] at hst
    | some r =>
      cases hp : b.phase? j with
      | none => simp [stances, hr, spot, hp] at hst
      | some ph =>
        rw [stances_resting hr hp] at hst
        cases ph with
        | opening t k timer => exact (ha j _ t k (spot_resting hp) rfl).live
        | _ => simp [Phase.stance] at hst

/-- While there is a live connection and all calls wait, none is about to take a connection out of
the session: it would be waiting for a held lock. -/
theorem drops_other {ph : Phase ρ} {c c' : Connection} {j : Nat} {q : Point ρ} (ho : b.InOrder none)
    (ha : b.AtHandshake none) (hw : b.Waits id) (hp : b.phase? id = some ph)
    (hl : b.session.live = some c) (hq : b.spot none j = some q) (hd : q.drops? = some c') :
    j ≠ id := by
  rintro rfl
  obtain rfl := Option.some.inj ((spot_resting hp).symm.trans hq)
  cases ph with
  | losing c e =>
    simp only [Waits, hp] at hw
    obtain ⟨j, hj, hn⟩ := hw
    simp [live_of_held ho ha hj hn] at hl
  | _ => simp [Point.drops?] at hd

/-- When a call is stopped, the others go on to take connections out of the session. -/
theorem Drops.of_stopped {ph : Phase ρ} {c : Connection} {e : Event} (h : b.Drops none e c.id)
    (ho : b.InOrder none) (ha : b.AtHandshake none) (hw : calm → b.Settled)
    (hp : b.phase? id = some ph) (hf : ph.isFinal = false) (hl : b.session.live = some c)
    (hk : ¬ (b.stopped id).Forgotten calm none e) : (b.stopped id).Drops none e c.id := by
  obtain ⟨j, q, c₁, c', he, hq, hqc, hid⟩ := h
  have hj : j ≠ id := by
    by_cases hcalm : calm
    · exact drops_other ho ha (hw hcalm id ph hp hf) hp hl hq hqc
    · rintro rfl
      exact hk ⟨hcalm, j, c₁, he, isGone_stopped hp⟩
  exact ⟨j, q, c₁, c', he, by rwa [spot_stopped hp, spot_other hj], hqc, hid⟩

/-- A call that has been stopped has no connection, and the others have what they had. -/
theorem Clean.of_stopped {ph : Phase ρ} (h : b.Clean calm none) (hp : b.phase? id = some ph)
    (ho : (b.stopped id).told Event.opened? = b.told Event.opened?)
    (ht : ∀ name ∈ (b.stopped id).told Event.tainted?, name ∈ b.told Event.opened?)
    (hd : ∀ c e, b.session.live = some c → (b.stopped id).Taints calm none e c.id →
      c.id ∈ (b.stopped id).session.abandoned ∨ (b.stopped id).Drops none e c.id)
    (hn : (b.stopped id).NeverAgain calm none) : (b.stopped id).Clean calm none := by
  have hruns : (b.stopped id).runs = b.runs := runs_congr (request?_stopped b id)
  have hl := (b.stopped_identity id).1
  refine ⟨fun c hc => ?_, ?_, fun j q c hj hq hqc => ?_, fun j q c e _ hq hqc => ?_,
    fun c e hc hm => ?_, hn⟩
  · rw [hl] at hc
    exact ho ▸ h.live c hc
  · exact ho ▸ ht
  · rcases spot_of_stopped hp hq with ⟨-, rfl⟩ | ⟨-, hq⟩
    · simp [Point.uses?] at hqc
    · rw [hruns] at hj
      exact ho ▸ h.used j q c hj hq hqc
  · obtain ⟨ph, -, rfl⟩ := Option.map_eq_some_iff.mp hq
    simp [Point.begins?] at hqc
  · rw [hl] at hc
    exact hd c e hc hm

theorem Clean.stop {ph : Phase ρ} (h : b.Clean calm none) (hs : b.AllSuit none)
    (ho : b.InOrder none) (ha : b.AtHandshake none) (hw : calm → b.Settled)
    (hp : b.phase? id = some ph) (hf : ph.isFinal = false) : (b.stopped id).Clean calm none := by
  have hruns : (b.stopped id).runs = b.runs := runs_congr (request?_stopped b id)
  have hg (j : Nat) (hj : b.isGone none j) : (b.stopped id).isGone none j :=
    isGone_of_stopped hp hj
  have keep {c : Connection} {e : Event} (hl : b.session.live = some c)
      (hm : (b.stopped id).Taints calm none e c.id) (he : e ∈ b.events) :
      c.id ∈ b.session.abandoned ∨ (b.stopped id).Drops none e c.id :=
    (h.dropped c e hl ⟨he, hm.tainted, fun hk => hm.kept (hk.mono hg)⟩).imp_right
      fun hd => hd.of_stopped ho ha hw hp hf hl hm.kept
  rcases b.stopped_cases id with ⟨hx, he⟩ | ⟨c, timer, i, hpx, hri, hx, he⟩
  · have told {α : Type} (g : Event → Option α) : (b.stopped id).told g = b.told g := by
      simp [told, he]
    refine h.of_stopped hp (told _) ?_ (fun c e hl hm => ?_)
      (h.never.append hg hruns (he.trans (List.append_nil _).symm) (by simp))
    · rw [told]
      exact h.tainted
    · rw [hx]
      exact keep hl hm (he ▸ hm.mem)
  · obtain rfl : ph = .executing c timer := Option.some.inj (hp.symm.trans hpx)
    have ht : (b.stopped id).told Event.tainted? = b.told Event.tainted? ++ [c.id] := told_append he
    have hid : b.runs id := by
      obtain ⟨r, hr, hsuit⟩ := hs id _ (spot_resting hp)
      obtain rfl : r = .invoke i := Option.some.inj (hr.symm.trans hri)
      rcases hsuit with ⟨i', hi⟩ | ⟨_, _, hn⟩
      · exact ⟨_, i', hr, hi⟩
      · simp at hn
    refine h.of_stopped hp ((told_append he).trans (List.append_nil _)) (fun name hm => ?_)
      (fun c' e hl hm => ?_) (h.never.append hg hruns he (by simp [Event.executing?]))
    · rcases List.mem_append.mp (ht ▸ hm) with hm | hm
      · exact h.tainted name hm
      · obtain rfl := List.mem_singleton.mp hm
        exact h.used id _ c hid (spot_resting hp) rfl
    · have habandoned : (b.stopped id).session.abandoned = b.session.abandoned ++ [c.id] :=
        congrArg Session.abandoned hx
      rw [habandoned]
      rcases List.mem_append.mp (he ▸ hm.mem) with hmem | hmem
      · exact (keep hl hm hmem).imp_left (List.mem_append_left _)
      · obtain rfl := List.mem_singleton.mp hmem
        exact .inl (List.mem_append_right _ (by simpa using (Option.some.inj hm.tainted).symm))

variable {mayStop : Bridge σ ρ → Nat → Prop} {t : Target} {remote : σ}

theorem Clean.of_same {f f' : Option (Nat × Point ρ)} (h : b.Clean calm f)
    (hspot : b'.spot f' = b.spot f) (hruns : b'.runs = b.runs) (he : b'.events = b.events)
    (hl : b'.session.live = b.session.live)
    (ha : ∀ name, name ∈ b.session.abandoned → name ∈ b'.session.abandoned) :
    b'.Clean calm f' := by
  have told {α : Type} (g : Event → Option α) : b'.told g = b.told g := by simp [told, he]
  have hes : b'.events = b.events ++ [] := he.trans (List.append_nil _).symm
  have hg (j : Nat) (hj : b.isGone f j) : b'.isGone f' j := (congrFun hspot j).trans hj
  have old {e : Event} {name : String} (hm : b'.Taints calm f' e name) : b.Taints calm f e name :=
    hm.before hg hes (by simp)
  refine ⟨fun c hl' => ?_, fun name hm => ?_, fun j q c hj hq hqc => ?_,
    fun j q c e hj hq hqc hm => ?_, fun c e hl' hm => ?_, h.never.append hg hruns hes (by simp)⟩
  · exact told _ ▸ h.live c (hl ▸ hl')
  · rw [told] at hm ⊢
    exact h.tainted name hm
  · exact told _ ▸ h.used j q c (hruns ▸ hj) (hspot ▸ hq) hqc
  · exact h.fresh j q c e (hruns ▸ hj) (hspot ▸ hq) hqc (old hm)
  · unfold Drops
    rw [hspot]
    exact (h.dropped c e (hl ▸ hl') (old hm)).imp_left (ha c.id)

theorem Visited.clean {f : Option (Nat × Point ρ)} (h : Visited s mayStop t remote b f)
    (hw : calm → ∀ b id, mayStop b id → b.Settled) (hn : (b.told Event.opened?).Nodup) :
    b.Clean calm f := by
  induction h with
  | new =>
    refine ⟨?_, ?_, ?_, ?_, ?_, List.pairwise_singleton _ _⟩ <;>
      simp [told, events, Event.tainted?, spot, phase?, Bridge.new, Session.new]
  | start h hs ih =>
    obtain ⟨es, he, -⟩ := hs.events
    have hb := ih (hn.sublist (told_grows ⟨es, he.symm⟩).sublist)
    exact hs.clean h.suits h.takesTurns hb
  | @move b b' id p p' h hm ih =>
    obtain ⟨r, hr, hp⟩ := h.suits id p (spot_running b id p)
    have hb := ih (hn.sublist (told_grows hm.events_grow).sublist)
    exact hm.clean hr hp h.suits h.inOrder hn hb
  | @park b id ph h ih =>
    obtain ⟨r, hr, -⟩ := h.suits id (.park ph) (spot_running b id _)
    exact (ih hn).of_same (spot_setPhase hr ph) (runs_congr (request?_setPhase b id ph)) rfl rfl
      fun _ h => h
  | @stop b id h hs ih =>
    rcases cancel_cases b id with he | ⟨ph, hp, hf, he⟩
    · rw [he] at hn ⊢
      exact ih hn
    · rw [he] at hn ⊢
      obtain ⟨es, hes, -⟩ := b.stopped_events id
      have hb := ih (hn.sublist (told_grows ⟨es, hes.symm⟩).sublist)
      exact hb.stop h.suits h.inOrder h.atHandshake (fun hcalm => hw hcalm b id hs) hp hf
  | abandon h c ih => exact (ih hn).of_same rfl rfl rfl rfl fun _ => List.mem_append_left _
  | elapse h time ih => exact (ih hn).of_same rfl rfl rfl rfl fun _ h => h
  | remote h x ih => exact (ih hn).of_same rfl rfl rfl rfl fun _ h => h

end

/-- An endpoint that takes a second for a handshake and fails at once to execute anything. -/
def droppingSetup : Setup Nat Unit :=
  ⟨{ countingEndpoint with
      connect := fun _ _ n => (n, .later (some 1000))
      execute := fun _ _ n => (n, .now (.error (.connection "reset"))) }, 30000, 5000⟩

/-- An invocation that fails and is stopped while the session is on its way to another call. -/
def stoppedInTransit : Bridge Nat Unit :=
  let b := (Bridge.new localTarget 0).submit droppingSetup
    (.session (.setCredential (.token ⟨"k"⟩)))
  let b := (b.submit droppingSetup (.invoke singleStage)).submit droppingSetup (.session .target)
  (((b.wake droppingSetup).cancel 1).resume droppingSetup).submit droppingSetup
    (.invoke singleStage)

/-- An invocation that is stopped while it waits to take a lost connection out of the session, and
while the session is on its way to a call that has yet to go on, leaves the connection where the
next invocation finds it. -/
theorem reused_stoppedInTransit :
    Reachable droppingSetup (fun _ _ => True) localTarget 0 stoppedInTransit ∧
    (stoppedInTransit.told Event.opened?).Nodup ∧
    ∃ before after c, stoppedInTransit.events = before ++ .lost 1 c :: after ∧
      .executing 3 c ∈ after ∧ stoppedInTransit.runs 3 := by
  have hreach : Reachable droppingSetup (fun _ _ => True) localTarget 0 stoppedInTransit := by
    unfold stoppedInTransit
    refine .step (.resume (.step (.wake ?_) (.cancel trivial))) (.submit _)
    exact .step (.step (.step .new (.submit _)) (.submit _)) (.submit _)
  have he : stoppedInTransit.events = stoppedInTransit.events.take 7 ++
      .lost 1 ⟨"0", localTarget⟩ :: stoppedInTransit.events.drop 8 := rfl
  have hx : (stoppedInTransit.events.drop 8)[2]? = some (.executing 3 ⟨"0", localTarget⟩) := rfl
  refine ⟨hreach, by decide +kernel, _, _, _, he, List.mem_of_getElem? hx, ?_⟩
  exact ⟨_, singleStage, rfl, rfl, rfl⟩

end Bridge

end CommandBridge
