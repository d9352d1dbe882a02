import CommandBridge.Proofs.Bridge.Closing
import CommandBridge.Proofs.Bridge.Taint

/-! How connections are closed: invocations and shutdowns close each one once at most, when it is no
longer the live one, and never one that an invocation has. -/
namespace CommandBridge

variable {σ ρ : Type}

namespace Bridge

/-- The connections that invocations and shutdowns have asked the endpoint to close, in order. -/
def disposed (b : Bridge σ ρ) : List Connection :=
  ((b.told Event.closes?).filter (b.takesTurn ·.1)).map (·.2)

/-- The connections that calls have taken out of the session. -/
def handedOut (b : Bridge σ ρ) : List Connection := (b.told Event.handedOut?).flatten

/-- What a call has still to close it has from the session and has not closed yet, and no invocation
has a connection that was closed. -/
structure Disposal (b : Bridge σ ρ) (f : Option (Nat × Point ρ)) : Prop where
  handed : b.disposed ⊆ b.handedOut
  once : b.disposed.Nodup
  pending : ∀ j q, b.takesTurn j = true → b.spot f j = some q →
    q.pending.Nodup ∧ ∀ c ∈ q.pending, c ∈ b.handedOut ∧ c ∉ b.disposed
  used : ∀ j q c, b.runs j → b.spot f j = some q → q.uses? = some c →
    c ∈ b.told Event.installed? ∧ c ∉ b.disposed

/-- What a move does about the connections to close. -/
inductive DisposalMove (id : Nat) (b : Bridge σ ρ) (p : Point ρ) (b' : Bridge σ ρ)
    (p' : Point ρ) : Prop where
  | quiet (hc : b'.told Event.closes? = b.told Event.closes?) (hp : p'.pending.Sublist p.pending)
  | take {cs : List Connection} (hc : b'.told Event.closes? = b.told Event.closes?)
      (hp : p' = .close cs)
      (hh : b'.told Event.handedOut? = b.told Event.handedOut? ++ [cs])
  | close {c : Connection} {rest : List Connection} (hp : p = .close (c :: rest))
      (hc : b'.told Event.closes? = b.told Event.closes? ++ [(id, c)]) (hp' : p'.pending = rest)
      (hu : p'.uses? = none)
  | closeOwn {c : Connection} (hp : p = .closeOwn c)
      (hc : b'.told Event.closes? = b.told Event.closes? ++ [(id, c)]) (hp' : p'.pending = [])

section
variable {s : Setup σ ρ} {b b' : Bridge σ ρ} {id : Nat} {p p' : Point ρ} {r : Request}

theorem Moves.disposalMove (h : Moves s id b p b' p') : DisposalMove id b p b' p' := by
  cases h with
  | collect => exact .take (by simp [Event.closes?]) rfl (by simp [Event.handedOut?])
  | close =>
    refine .close rfl ?_ rfl rfl
    exact (told_closeNotes _ (fun _ => rfl) (fun _ _ => rfl) _ _).trans (by simp [Event.closes?])
  | closeLater => exact .close rfl (by simp [Event.closes?]) rfl rfl
  | closeOwn | closeOwnLater => exact .closeOwn rfl (by simp [Event.closes?]) rfl
  | serve => exact .quiet (told_events _ (fun _ => rfl) (fun _ => rfl) _) (List.nil_sublist _)
  | closedOwn =>
    exact .quiet (told_closeNotes _ (fun _ => rfl) (fun _ _ => rfl) _ _) (List.nil_sublist _)
  | closed =>
    exact .quiet (told_closeNotes _ (fun _ => rfl) (fun _ _ => rfl) _ _) (List.Sublist.refl _)
  | _ => exact .quiet (by simp [Event.closes?]) (List.nil_sublist _)

/-- A call has a connection from where it stood before, or from the session, or from a handshake. -/
theorem Moves.uses (h : Moves s id b p b' p') {c : Connection} (hc : p'.uses? = some c) :
    p.uses? = some c ∨ b.session.live = some c ∨
      b'.told Event.installed? = b.told Event.installed? ++ [c] := by
  cases h.connections with
  | quiet _ _ _ _ hu => exact .inl (hu c hc)
  | reuse _ hl _ _ _ hp' =>
    subst hp'
    exact .inr (.inl (hl.trans hc))
  | install _ _ he hp' =>
    subst hp'
    obtain rfl := Option.some.inj hc
    exact .inr (.inr (told_append he))
  | execute hp _ _ hu | lose hp _ _ hu =>
    subst hp
    exact .inl (hu.symm.trans hc)
  | drop _ _ _ hu => exact nomatch hu.symm.trans hc

theorem exists_of_takesTurn (h : b.takesTurn id = true) :
    ∃ r, b.request? id = some r ∧ r.needsTurn = true := by
  cases hr : b.request? id with
  | none => simp [takesTurn, hr] at h
  | some r => exact ⟨r, rfl, (takesTurn_eq hr).symm.trans h⟩

theorem takesTurn_of_runs (h : b.runs id) : b.takesTurn id = true := by
  obtain ⟨r, i, hr, rfl, hi⟩ := h
  simp [takesTurn_eq hr, Request.needsTurn, hi]

/-- A call closes connections, and an invocation has one, only while it has its turn. -/
theorem has_of_pending_or_uses {f : Option (Nat × Point ρ)} (ht : b.takesTurn id = true)
    (hp : b.spot f id = some p) (h : p.pending ≠ [] ∨ p.uses? ≠ none) :
    b.stances f id .turn = .has := by
  obtain ⟨r, hr, hn⟩ := exists_of_takesTurn ht
  have hhas := Request.turnHold_of_needsTurn hn
  simp only [stances, hr, hp]
  cases p with
  | close | closed | opened | execute | executed | lose | failLost => exact hhas
  | park ph =>
    cases ph with
    | closing | executing | losing => exact hhas
    | _ => simp [Point.pending, Point.uses?] at h
  | _ => simp [Point.pending, Point.uses?] at h

theorem disposed_append {es : List (Nat × Connection)} (hc : b'.calls = b.calls)
    (he : b'.told Event.closes? = b.told Event.closes? ++ es) :
    b'.disposed = b.disposed ++ (es.filter (b.takesTurn ·.1)).map (·.2) := by
  have ht : b'.takesTurn = b.takesTurn :=
    funext fun j => takesTurn_congr (request?_of_calls hc j)
  simp [disposed, he, ht]

/-- No other call closes connections or has one as an invocation. -/
theorem InOrder.eq_of_has {f : Option (Nat × Point ρ)} {j : Nat} {q : Point ρ} (h : b.InOrder f)
    (hid : b.stances f id .turn = .has) (ht : b.takesTurn j = true) (hq : b.spot f j = some q)
    (hj : q.pending ≠ [] ∨ q.uses? ≠ none) : j = id :=
  h.has_unique (has_of_pending_or_uses ht hq hj) hid

theorem Moves.handedOut_grows (h : Moves s id b p b' p') : b.handedOut ⊆ b'.handedOut := by
  intro c hc
  obtain ⟨cs, hcs, hc⟩ := List.mem_flatten.mp hc
  exact List.mem_flatten.mpr ⟨cs, (told_grows h.events_grow).subset hcs, hc⟩

/-- A connection that an invocation comes to have has not been closed before. -/
theorem Disposal.not_mem_of_uses (hd : b.Disposal (some (id, p))) (h : Moves s id b p b' p')
    (hs : b.ledger.Sound) (hn : (b'.told Event.installed?).Nodup) (hr : b.runs id)
    {c : Connection} (hc : p'.uses? = some c) :
    c ∈ b'.told Event.installed? ∧ c ∉ b.disposed := by
  have hgrow := told_grows (g := Event.installed?) h.events_grow
  have hold : (b.told Event.installed?).Nodup := hn.sublist hgrow.sublist
  rcases h.uses hc with hc | hl | hi
  · obtain ⟨hm, hnot⟩ := hd.used id p c hr (spot_running b id p) hc
    exact ⟨hgrow.subset hm, hnot⟩
  · refine ⟨hgrow.subset (hs.known .live c hl), fun hm => ?_⟩
    exact (hs.of_mem_handings (hd.handed hm)).2 hold hl
  · refine ⟨hi ▸ List.mem_append_right _ (List.mem_singleton_self c), fun hm => ?_⟩
    rw [hi] at hn
    have hm : c ∈ b.told Event.installed? := (hs.of_mem_handings (hd.handed hm)).1
    exact (List.nodup_append.mp hn).2.2 c hm c (List.mem_singleton_self c) rfl

/-- A move after which the calls have closed no more than before. -/
theorem Disposal.of_move (hd : b.Disposal (some (id, p))) (h : Moves s id b p b' p')
    (hs : b.ledger.Sound) (hn : (b'.told Event.installed?).Nodup)
    (hc : b'.disposed = b.disposed)
    (hp : b.takesTurn id = true →
      p'.pending.Nodup ∧ ∀ c ∈ p'.pending, c ∈ b'.handedOut ∧ c ∉ b.disposed) :
    b'.Disposal (some (id, p')) := by
  have hgrow := h.handedOut_grows
  have hreq := request?_of_calls h.calls
  refine ⟨fun c hm => ?_, ?_, fun j q hj hq => ?_, fun j q c hj hq hqc => ?_⟩
  · exact hgrow (hd.handed (hc ▸ hm))
  · exact hc ▸ hd.once
  · rw [takesTurn_congr (hreq j)] at hj
    rw [hc]
    rcases spot_move (p := p) h.calls hq with ⟨rfl, rfl⟩ | ⟨-, hq⟩
    · exact hp hj
    · obtain ⟨hnodup, hmem⟩ := hd.pending j q hj hq
      exact ⟨hnodup, fun c hm => (hmem c hm).imp_left fun hm => hgrow hm⟩
  · rw [runs_of_calls h.calls] at hj
    rw [hc]
    rcases spot_move (p := p) h.calls hq with ⟨rfl, rfl⟩ | ⟨-, hq⟩
    · exact hd.not_mem_of_uses h hs hn hj hqc
    · obtain ⟨hm, hnot⟩ := hd.used j q c hj hq hqc
      exact ⟨(told_grows h.events_grow).subset hm, hnot⟩

/-- The call that has its turn closes the next of its connections. -/
theorem Disposal.close {c : Connection} {rest : List Connection}
    (hd : b.Disposal (some (id, .close (c :: rest)))) (h : Moves s id b (.close (c :: rest)) b' p')
    (ho : b.InOrder (some (id, .close (c :: rest)))) (ht : b.takesTurn id = true)
    (hc : b'.disposed = b.disposed ++ [c]) (hp : p'.pending = rest) (hu : p'.uses? = none) :
    b'.Disposal (some (id, p')) := by
  have hgrow := h.handedOut_grows
  have hreq := request?_of_calls h.calls
  have hrun := spot_running b id (.close (c :: rest))
  have hhas := has_of_pending_or_uses ht hrun (.inl (List.cons_ne_nil c rest))
  obtain ⟨hnodup, hmem⟩ := hd.pending id _ ht hrun
  have hnew : c ∈ b.handedOut ∧ c ∉ b.disposed := hmem c List.mem_cons_self
  obtain ⟨hrest, hnodup⟩ := List.nodup_cons.mp hnodup
  refine ⟨fun c' hm => ?_, ?_, fun j q hj hq => ?_, fun j q c' hj hq hqc => ?_⟩
  · rcases List.mem_append.mp (hc ▸ hm) with hm | hm
    · exact hgrow (hd.handed hm)
    · exact hgrow (List.mem_singleton.mp hm ▸ hnew.1)
  · rw [hc]
    refine List.nodup_append.mpr ⟨hd.once, List.nodup_singleton c, fun x hx y hy => ?_⟩
    rintro rfl
    exact hnew.2 (List.mem_singleton.mp hy ▸ hx)
  · rw [takesTurn_congr (hreq j)] at hj
    rcases spot_move (p := .close (c :: rest)) h.calls hq with ⟨rfl, rfl⟩ | ⟨hji, hq⟩
    · rw [hp]
      refine ⟨hnodup, fun c' hm => ⟨hgrow (hmem c' (List.mem_cons_of_mem c hm)).1, fun hm' => ?_⟩⟩
      rcases List.mem_append.mp (hc ▸ hm') with hm' | hm'
      · exact (hmem c' (List.mem_cons_of_mem c hm)).2 hm'
      · exact hrest (List.mem_singleton.mp hm' ▸ hm)
    · have hnil : q.pending = [] :=
        Classical.byContradiction fun hne => hji (ho.eq_of_has hhas hj hq (.inl hne))
      simp [hnil]
  · rw [runs_of_calls h.calls] at hj
    rcases spot_move (p := .close (c :: rest)) h.calls hq with ⟨rfl, rfl⟩ | ⟨hji, hq⟩
    · simp [hu] at hqc
    · refine absurd (ho.eq_of_has hhas (takesTurn_of_runs hj) hq (.inr ?_)) hji
      simp [hqc]

theorem Moves.disposal (h : Moves s id b p b' p') (hr : b.request? id = some r) (hp : p.Suits r)
    (ho : b.InOrder (some (id, p))) (hs : b.ledger.Sound) (hs' : b'.ledger.Sound)
    (hn : (b'.told Event.installed?).Nodup) (hd : b.Disposal (some (id, p))) :
    b'.Disposal (some (id, p')) := by
  have same (hc : b'.told Event.closes? = b.told Event.closes?) : b'.disposed = b.disposed :=
    (disposed_append h.calls (hc.trans (List.append_nil _).symm)).trans (by simp)
  have hrun := spot_running b id p
  cases h.disposalMove with
  | quiet hc hsub =>
    refine hd.of_move h hs hn (same hc) fun ht => ?_
    obtain ⟨hnodup, hmem⟩ := hd.pending id p ht hrun
    refine ⟨hnodup.sublist hsub, fun c hm => ?_⟩
    exact (hmem c (hsub.subset hm)).imp_left fun hm => h.handedOut_grows hm
  | @take cs hc hpt hh =>
    have hflat : b'.handedOut = b.handedOut ++ cs := by simp [handedOut, hh]
    have hnodup : b'.handedOut.Nodup := hs'.nodup_handings hn
    rw [hflat] at hnodup
    obtain ⟨-, hcs, hapart⟩ := List.nodup_append.mp hnodup
    subst hpt
    refine hd.of_move h hs hn (same hc) fun _ => ⟨hcs, fun c hm => ⟨?_, fun hm' => ?_⟩⟩
    · exact hflat ▸ List.mem_append_right _ hm
    · exact hapart c (hd.handed hm') c hm rfl
  | close hpt hc hp' hu =>
    subst hpt
    have ht : b.takesTurn id = true := (takesTurn_eq hr).trans hp
    refine hd.close h ho ht ?_ hp' hu
    simpa [ht] using disposed_append h.calls hc
  | closeOwn hpt hc hp' =>
    subst hpt
    obtain ⟨c', rfl⟩ := hp
    have ht : b.takesTurn id = false := takesTurn_eq hr
    refine hd.of_move h hs hn ?_ fun ht' => ?_
    · simpa [ht] using disposed_append h.calls hc
    · simp [ht] at ht'

/-- A call that begins to run has no more to close, and no other connection, than where it
waited. -/
theorem Starts.pending_eq (h : Starts s b b' id p) :
    p.pending = [] ∨ ∃ q, b.spot none id = some q ∧ q.pending = p.pending := by
  cases h with
  | closed hp | closeTimedOut hp => exact .inr ⟨_, spot_resting hp, rfl⟩
  | _ => exact .inl rfl

theorem Starts.disposal (h : Starts s b b' id p) (hs : b.AllSuit none) (hk : b.TakesTurns none)
    (hd : b.Disposal none) : b'.Disposal (some (id, p)) := by
  have hc : b'.told Event.closes? = b.told Event.closes? := h.told rfl fun _ => rfl
  have hh : b'.handedOut = b.handedOut := congrArg List.flatten (h.told rfl fun _ => rfl)
  have hi : b'.told Event.installed? = b.told Event.installed? := h.told rfl fun _ => rfl
  have hsame : b'.disposed = b.disposed := by
    unfold disposed
    rw [hc]
    refine congrArg _ (List.filter_congr fun x hx => ?_)
    obtain ⟨e, he, hx⟩ := List.mem_filterMap.mp hx
    have hcaller : e.caller? = some x.1 := by
      cases e <;> simp only [Event.closes?, reduceCtorEq, Option.some.injEq] at hx
      rw [← hx]
      rfl
    obtain ⟨r, hr⟩ := hk.known e he x.1 hcaller
    rw [takesTurn_eq hr, takesTurn_eq (h.request? hr)]
  have old {j : Nat} {q : Point ρ} (hq : b.spot none j = some q) :
      b'.request? j = b.request? j := by
    obtain ⟨r, hr, -⟩ := hs j q hq
    rw [hr, h.request? hr]
  refine ⟨?_, ?_, fun j q hj hq => ?_, fun j q c hj hq hqc => ?_⟩
  · rw [hsame, hh]
    exact hd.handed
  · exact hsame ▸ hd.once
  · rw [hsame, hh]
    rcases h.spot_cases hq with ⟨rfl, rfl⟩ | ⟨hji, hq⟩
    · rcases h.pending_eq with hnil | ⟨q', hq', heq⟩
      · simp [hnil]
      · rw [takesTurn_congr (old hq')] at hj
        exact heq ▸ hd.pending j q' hj hq'
    · rw [takesTurn_congr (h.other hji).2] at hj
      exact hd.pending j q hj hq
  · rw [hsame, hi]
    rcases h.spot_cases hq with ⟨rfl, rfl⟩ | ⟨hji, hq⟩
    · obtain ⟨q', hq', hqc'⟩ := (h.has hj).2 hqc
      obtain ⟨r, hr, -⟩ := hs j q' hq'
      exact hd.used j q' c (h.runs hr hj) hq' hqc'
    · obtain ⟨r, i, hr, hri⟩ := hj
      exact hd.used j q c ⟨r, i, (h.other hji).2 ▸ hr, hri⟩ hq hqc

theorem Disposal.stop {ph : Phase ρ} (hd : b.Disposal none) (hp : b.phase? id = some ph) :
    (b.stopped id).Disposal none := by
  have told {α : Type} {g : Event → Option α} (hg : ∀ j c, g (.abandoned j c) = none) :
      (b.stopped id).told g = b.told g := told_stopped hg b id
  have hreq := request?_stopped b id
  have hturn : (b.stopped id).takesTurn = b.takesTurn := funext fun j => takesTurn_congr (hreq j)
  have hsame : (b.stopped id).disposed = b.disposed := by
    rw [disposed, told fun _ _ => rfl, hturn, disposed]
  have hh : (b.stopped id).handedOut = b.handedOut := congrArg List.flatten (told fun _ _ => rfl)
  refine ⟨?_, ?_, fun j q hj hq => ?_, fun j q c hj hq hqc => ?_⟩
  · rw [hsame, hh]
    exact hd.handed
  · exact hsame ▸ hd.once
  · rw [hsame, hh]
    rw [hturn] at hj
    rcases spot_of_stopped hp hq with ⟨-, rfl⟩ | ⟨-, hq⟩
    · simp [Point.pending]
    · exact hd.pending j q hj hq
  · rw [hsame, told fun _ _ => rfl]
    rw [runs_congr hreq] at hj
    rcases spot_of_stopped hp hq with ⟨-, rfl⟩ | ⟨-, hq⟩
    · simp [Point.uses?] at hqc
    · exact hd.used j q c hj hq hqc

variable {mayStop : Bridge σ ρ → Nat → Prop} {t : Target} {remote : σ}

theorem Visited.disposal {f : Option (Nat × Point ρ)} (h : Visited s mayStop t remote b f)
    (hn : (b.told Event.installed?).Nodup) : b.Disposal f := by
  induction h with
  | new =>
    have hnil : (Bridge.new t remote : Bridge σ ρ).disposed = [] := rfl
    have hspot (j : Nat) : (Bridge.new t remote : Bridge σ ρ).spot none j = none := rfl
    refine ⟨?_, ?_, fun j q _ hq => ?_, fun j q c _ hq => ?_⟩
    · simp [hnil]
    · simp [hnil]
    · simp [hspot] at hq
    · simp [hspot] at hq
  | start h hs ih =>
    obtain ⟨es, he, -⟩ := hs.events
    exact hs.disposal h.suits h.takesTurns (ih (hn.sublist (told_grows ⟨es, he.symm⟩).sublist))
  | @move b b' id p p' h hm ih =>
    obtain ⟨r, hr, hp⟩ := h.suits id p (spot_running b id p)
    have hd := ih (hn.sublist (told_grows hm.events_grow).sublist)
    exact hm.disposal hr hp h.inOrder h.sound (h.move hm).sound hn hd
  | @park b id ph h ih =>
    obtain ⟨r, hr, -⟩ := h.suits id (.park ph) (spot_running b id _)
    have hd := ih hn
    have hspot := spot_setPhase hr ph
    have hreq := request?_setPhase b id ph
    have hturn : (b.setPhase id ph).takesTurn = b.takesTurn :=
      funext fun j => takesTurn_congr (hreq j)
    have hsame : (b.setPhase id ph).disposed = b.disposed := by
      rw [disposed, hturn, told_setPhase, disposed]
    refine ⟨hsame ▸ hd.handed, hsame ▸ hd.once, fun j q hj hq => ?_, fun j q c hj hq hqc => ?_⟩
    · rw [hsame]
      exact hd.pending j q (hturn ▸ hj) (hspot ▸ hq)
    · rw [hsame]
      exact hd.used j q c (runs_congr hreq ▸ hj) (hspot ▸ hq) hqc
  | @stop b id h hs ih =>
    rcases cancel_cases b id with he | ⟨ph, hp, -, he⟩
    · rw [he] at hn ⊢
      exact ih hn
    · rw [he] at hn ⊢
      rw [told_stopped fun _ _ => rfl] at hn
      exact (ih hn).stop hp
  | abandon h c ih =>
    have hd := ih hn
    exact ⟨hd.handed, hd.once, hd.pending, hd.used⟩
  | elapse h time ih =>
    have hd := ih hn
    exact ⟨hd.handed, hd.once, hd.pending, hd.used⟩
  | remote h x ih =>
    have hd := ih hn
    exact ⟨hd.handed, hd.once, hd.pending, hd.used⟩

/-- How connections are closed. Those that have been closed are told by their names. -/
structure ClosesOnce (b : Bridge σ ρ) (f : Option (Nat × Point ρ)) : Prop where
  once : (b.disposed.map (·.id)).Nodup
  /-- The live connection is never closed. -/
  retired : ∀ c ∈ b.disposed, ∀ l, b.session.live = some l → l.id ≠ c.id
  /-- Nor is one that an invocation executes on or has for that. -/
  idle : ∀ c ∈ b.disposed, ∀ j q c', b.runs j → b.spot f j = some q → q.uses? = some c' →
    c'.id ≠ c.id

/-- This holds between any two moves, so also when a connection has just been closed, whatever
retired it. -/
theorem Visited.closesOnce {f : Option (Nat × Point ρ)} (h : Visited s mayStop t remote b f)
    (hn : (b.told Event.opened?).Nodup) : b.ClosesOnce f := by
  have hs := h.sound
  have hi : (b.told Event.installed?).Nodup := by
    rw [told_opened?] at hn
    exact hn.of_map
  have hd := h.disposal hi
  have known (c : Connection) (hc : c ∈ b.disposed) : c ∈ b.told Event.installed? :=
    (hs.of_mem_handings (hd.handed hc)).1
  refine ⟨?_, fun c hc l hl hid => ?_, fun c hc j q c' hj hq hqc hid => ?_⟩
  · refine hd.once.map_on fun c hc c' hc' hid => ?_
    exact named_of_nodup hn (known c' hc') c (known c hc) hid
  · obtain rfl := named_of_nodup hn (known c hc) l (hs.known .live l hl) hid
    exact (hs.of_mem_handings (hd.handed hc)).2 hi hl
  · obtain ⟨hm, hnot⟩ := hd.used j q c' hj hq hqc
    obtain rfl := named_of_nodup hn (known c hc) c' hm hid
    exact hnot hc

end

/-- The credential is replaced while an invocation is executed, and another invocation follows. -/
def replacedMeanwhile : Bridge Nat Unit :=
  let b := signedIn.submit countingSetup (.invoke singleStage)
  let b := b.submit countingSetup (.session (.setCredential (.token ⟨"l"⟩)))
  ((b.submit countingSetup (.invoke singleStage)).wake countingSetup).resume countingSetup

theorem reachable_replacedMeanwhile :
    Reachable countingSetup (fun _ _ => True) localTarget 0 replacedMeanwhile := by
  unfold replacedMeanwhile
  dsimp only
  refine Reachable.resume (Reachable.wake ?_)
  exact .step (.step (.step reachable_signedIn (.submit _)) (.submit _)) (.submit _)

/-- The connection is closed when the first invocation has ended and the second has begun. -/
theorem closesOnce_replacedMeanwhile :
    replacedMeanwhile.disposed = [⟨"0", localTarget⟩] ∧
      replacedMeanwhile.session.live = some ⟨"1", localTarget⟩ ∧
        replacedMeanwhile.told Event.executing? = [(2, "0"), (4, "1")] ∧
          (replacedMeanwhile.told Event.opened?).Nodup ∧ replacedMeanwhile.ClosesOnce none := by
  have hn : (replacedMeanwhile.told Event.opened?).Nodup := by decide +kernel
  exact ⟨rfl, rfl, by decide +kernel, hn, reachable_replacedMeanwhile.visited.closesOnce hn⟩

end Bridge

end CommandBridge
