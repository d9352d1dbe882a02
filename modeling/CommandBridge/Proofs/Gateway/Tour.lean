import CommandBridge.Proofs.Bridge.Shutdown
import CommandBridge.Proofs.Gateway.Rounds

/-! One invocation on a new session, which is then given back: what is attempted before, what is
attempted to give it back, and the result, over any network. -/
namespace CommandBridge

variable {σ : Type}

namespace Http.Network

/-- The requests that could be built, with what becomes of each. -/
def exchanges (n : Network σ) (m : σ) :
    List (Except Failure Request) → List (Request × Delivery)
  | [] => []
  | .error _ :: rest => n.exchanges m rest
  | .ok r :: rest => (r, (n.deliver r m).2) :: n.exchanges (n.deliver r m).1 rest

/-- The same network, which keeps what it is asked with what becomes of it. -/
def logged (n : Network σ) : Network (σ × List (Request × Delivery)) :=
  ⟨fun r p => (((n.deliver r p.1).1, p.2 ++ [(r, (n.deliver r p.1).2)]), (n.deliver r p.1).2)⟩

variable {n : Network σ} {m : σ} {log : List (Request × Delivery)}

theorem reply?_logged (p : σ × List (Request × Delivery)) (request : Except Failure Request) :
    n.logged.reply? p request = n.reply? p.1 request := rfl

theorem send_logged (p : σ × List (Request × Delivery)) (request : Except Failure Request) :
    n.logged.send p request = (n.send p.1 request, p.2 ++ n.exchanges p.1 [request]) := by
  cases request with
  | error e => simp [send, exchanges]
  | ok r => rfl

theorem exchanges_cons (m : σ) (request : Except Failure Request)
    (requests : List (Except Failure Request)) : n.exchanges m (request :: requests) =
      n.exchanges m [request] ++ n.exchanges (n.send m request) requests := by
  cases request <;> rfl

theorem sendAll_cons (m : σ) (request : Except Failure Request)
    (requests : List (Except Failure Request)) :
    n.sendAll m (request :: requests) = n.sendAll (n.send m request) requests := rfl

theorem sendAll_singleton (m : σ) (request : Except Failure Request) :
    n.sendAll m [request] = n.send m request := rfl

theorem sendAll_logged (p : σ × List (Request × Delivery))
    (requests : List (Except Failure Request)) :
    n.logged.sendAll p requests = (n.sendAll p.1 requests, p.2 ++ n.exchanges p.1 requests) := by
  induction requests generalizing p with
  | nil => simp [sendAll, exchanges]
  | cons request rest ih =>
    have hlogged := ih (n.logged.send p request)
    rw [send_logged] at hlogged
    rw [sendAll_cons, send_logged, hlogged, sendAll_cons, exchanges_cons p.1 request rest,
      List.append_assoc]

theorem sendAll_append (m : σ) (requests requests' : List (Except Failure Request)) :
    n.sendAll m (requests ++ requests') = n.sendAll (n.sendAll m requests) requests' :=
  List.foldl_append

end Http.Network

namespace Gateway

/-- How an invocation on a new session at a target goes, and what is attempted to give the session
back afterwards. -/
inductive Tour (n : Http.Network σ) (t : Target) (i : Invocation) (m : σ) :
    Option Credential → List (Except Failure Http.Request) → List (Except Failure Http.Request) →
      Except Failure (Output Record) → Prop where
  | blank {k : Option Credential} (h : i.pipeline = []) : Tour n t i m k [] [] (.ok ⟨[], []⟩)
  | unauthenticated (h : i.pipeline ≠ []) : Tour n t i m none [] [] (.error .unauthenticated)
  | refused {k : Credential} (h : i.pipeline ≠ [])
      (hg : granted? t (n.reply? m (openRequest t k)) = none) (cause : String) :
      Tour n t i m (some k) [openRequest t k] [] (.error (.connection cause))
  | granted {k : Credential} {c : Connection} {st : Standing} {r : Except Failure (Output Record)}
      (h : i.pipeline ≠ []) (hg : granted? t (n.reply? m (openRequest t k)) = some c)
      (he : Ending c i (n.reply? (n.send m (openRequest t k)) (pipelineRequest c i)) st r) :
      Tour n t i m (some k) [openRequest t k, pipelineRequest c i] [closeRequest c] r

/-- A session that has never been open. -/
structure Unused (t : Target) (k : Option Credential) (x : Session) : Prop where
  target : x.target = t
  credential : x.credential = k
  live : x.live = none
  retired : x.retired = []
  abandoned : x.abandoned = []

section
variable {g : Gateway σ} {s : Setup σ Record} {t : Target} {i : Invocation} {m : σ} {x : Session}
variable {n : Http.Network σ} {k : Option Credential}
variable {before closing : List (Except Failure Http.Request)}
variable {r : Except Failure (Output Record)}

theorem Tour.of_logged {p : σ × List (Http.Request × Http.Delivery)}
    (h : Tour n.logged t i p k before closing r) : Tour n t i p.1 k before closing r := by
  cases h with
  | blank h => exact .blank h
  | unauthenticated h => exact .unauthenticated h
  | refused h hg cause =>
    rw [Http.Network.reply?_logged] at hg
    exact .refused h hg cause
  | granted h hg he =>
    rw [Http.Network.reply?_logged] at hg he
    rw [Http.Network.send_logged] at he
    exact .granted h hg he

theorem close_eq (hs : s.endpoint = g.endpoint) (c : Connection) (m : σ) :
    s.close c m = g.network.send m (closeRequest c) := by
  obtain ⟨r, hy⟩ := s.yields_close c m
  simp only [hs, endpoint_eq] at hy
  have hsent := sent_of_yields hy
  exact hsent

theorem closeAll_eq (hs : s.endpoint = g.endpoint) (m : σ) (cs : List Connection) :
    s.closeAll m cs = g.network.sendAll m (cs.map closeRequest) := by
  induction cs generalizing m with
  | nil => rfl
  | cons c rest ih =>
    rw [Setup.closeAll, List.foldl_cons, ← Setup.closeAll, ih, close_eq hs, List.map_cons,
      Http.Network.sendAll_cons]

/-- Whatever becomes of the pipeline, its connection is what there is to close. -/
theorem retireAll_after (hr : x.retired = []) (c : Connection)
    (r : Except Failure (Output Record)) : ((x.install c).after c r).retireAll.1 = [c] := by
  cases r with
  | ok o => simp [Session.after, Session.install, Session.retireAll, Session.retire, hr]
  | error e =>
    simp only [Session.after]
    split <;>
      simp [Session.invalidate, Session.install, Session.retireAll, Session.retire, hr]

theorem Unused.retireAll (h : Unused t k x) : x.retireAll.1 = [] := by
  simp [Session.retireAll, Session.retire, h.live, h.retired]

theorem Unused.approach (h : Unused t k x) (m : σ) : s.approach x m = s.ensureOpen x m := by
  have hx : { x with retired := [] } = x := by rw [← h.retired]
  rw [Setup.approach, Session.takeRetired_of_nil h.abandoned, h.retired]
  dsimp only
  rw [hx]
  rfl

theorem tour_of_unauthenticated (hi : i.pipeline ≠ []) (hx : Unused t none x) (m : σ) :
    ∃ before x' r, s.invoke i x m = (r, x', g.network.sendAll m before) ∧
      Tour g.network t i m none before (x'.retireAll.1.map closeRequest) r := by
  have hopen : s.ensureOpen x m = (.error .unauthenticated, x, m) := by
    simp [Setup.ensureOpen, hx.live, hx.credential]
  rw [Setup.invoke, hx.approach, hopen]
  refine ⟨[], x, _, rfl, ?_⟩
  rw [hx.retireAll]
  exact .unauthenticated hi

theorem tour_of_authenticated (hs : s.endpoint = g.endpoint) (hi : i.pipeline ≠ [])
    {key : Credential} (hx : Unused t (some key) x) (m : σ) :
    ∃ before x' r, s.invoke i x m = (r, x', g.network.sendAll m before) ∧
      Tour g.network t i m (some key) before (x'.retireAll.1.map closeRequest) r := by
  obtain ⟨answer, x', m', hopen⟩ : ∃ answer x' m', s.ensureOpen x m = (answer, x', m') :=
    ⟨_, _, _, rfl⟩
  rw [Setup.invoke, hx.approach, hopen]
  cases Setup.opens_of_ensureOpen hx.credential hopen with
  | live hc => cases hx.live.symm.trans hc
  | @failed _ e _ hy =>
    simp only [hs, endpoint_eq, hx.target] at hy
    obtain ⟨hg, cause, rfl⟩ := not_granted_of_heard
      (reply_of_yields hy (fun _ => openRequest_error) ⟨_, rfl⟩)
    obtain rfl : m' = g.network.send m (openRequest t key) := sent_of_yields hy
    refine ⟨[openRequest t key], x, .error (.connection cause), rfl, ?_⟩
    rw [hx.retireAll]
    exact .refused hi hg cause
  | @handshake _ name _ hy =>
    simp only [hs, endpoint_eq, hx.target] at hy ⊢
    have hg := granted_of_heard (reply_of_yields hy (fun _ => openRequest_error) ⟨_, rfl⟩)
    obtain rfl : m' = g.network.send m (openRequest t key) := sent_of_yields hy
    have hy' := s.yields_execute ⟨name, t⟩ i (g.network.send m (openRequest t key))
    simp only [hs, endpoint_eq] at hy'
    cases hexecute : s.execute ⟨name, t⟩ i (g.network.send m (openRequest t key)) with
    | mk m' r =>
      rw [hexecute] at hy'
      have hsent := sent_of_yields hy'
      have hheard := reply_of_yields hy' (fun _ => pipelineRequest_error) ⟨_, rfl⟩
      dsimp only at hsent hheard
      refine ⟨[openRequest t key, pipelineRequest ⟨name, t⟩ i],
        (x.install ⟨name, t⟩).after ⟨name, t⟩ r, r >>= i.accept, ?_, ?_⟩
      · rw [Http.Network.sendAll_cons, Http.Network.sendAll_singleton, hsent]
      · rw [retireAll_after hx.retired]
        rcases ending_of_heard (i := i) hheard with ⟨o, rfl, hend⟩ | ⟨cause, rfl, hend⟩
        · exact .granted hi hg hend
        · exact .granted hi hg hend

/-- What is attempted afterwards is to close what the session has then. -/
theorem tour_of_run {b : Bridge σ Record} (hs : s.endpoint = g.endpoint) (hb : b.Resting)
    (hx : Unused t k b.session) (i : Invocation) : ∃ before x r,
      Tour g.network t i b.remote k before (x.retireAll.1.map closeRequest) r ∧
      Bridge.Over b.calls (.ofResult r) x (g.network.sendAll b.remote before)
        (b.run s (.invoke i)) := by
  by_cases hi : i.pipeline = []
  · refine ⟨[], b.session, .ok ⟨[], []⟩, ?_, hb.over_run_blank hi⟩
    rw [hx.retireAll]
    exact .blank hi
  · have hrun := hb.concluded_run (s := s) (i := i) (by simpa using hi)
      (.inr (by rw [hx.retired]; exact Nat.zero_le _))
    obtain ⟨before, x, r, hinvoke, htour⟩ : ∃ before x' r,
        s.invoke i b.session b.remote = (r, x', g.network.sendAll b.remote before) ∧
        Tour g.network t i b.remote k before (x'.retireAll.1.map closeRequest) r := by
      cases k with
      | none => exact tour_of_unauthenticated hi hx b.remote
      | some key => exact tour_of_authenticated hs hi hx b.remote
    rw [hinvoke] at hrun
    exact ⟨before, x, r, htour, hrun.over⟩

theorem method_of_openRequest {key : Credential} {q : Http.Request}
    (h : openRequest t key = .ok q) : q.method = .post := by
  unfold openRequest at h
  cases ha : authorization t.mechanism key with
  | error e =>
    rw [ha] at h
    cases h
  | ok value =>
    simp only [ha, bind, Except.bind] at h
    exact (of_build h).1

/-- What is attempted before the session is given back are posts, and after that a deletion. -/
theorem Tour.methods (h : Tour n t i m k before closing r) :
    (∀ q, .ok q ∈ before → q.method = .post) ∧ ∀ q, .ok q ∈ closing → q.method = .delete := by
  cases h with
  | blank | unauthenticated => simp
  | refused =>
    refine ⟨fun q h => ?_, by simp⟩
    exact method_of_openRequest (List.mem_singleton.mp h).symm
  | granted =>
    refine ⟨fun q h => ?_, fun q h => (of_build (List.mem_singleton.mp h).symm).1⟩
    rcases List.mem_pair.mp h with h | h
    · exact method_of_openRequest h.symm
    · exact (of_build h.symm).1

theorem Tour.length_closing (h : Tour n t i m k before closing r) : closing.length ≤ 1 := by
  cases h with
  | granted => exact Nat.le_refl 1
  | _ => exact Nat.zero_le 1

theorem Tour.run_shutdown {b : Bridge σ Record} {old : List (Call Record)} {a : Answer Record}
    (hs : s.endpoint = g.endpoint)
    (h : Tour g.network t i m k before (x.retireAll.1.map closeRequest) r)
    (hb : Bridge.Over old a x (g.network.sendAll m before) b) :
    (b.run s .shutdown).remote =
      g.network.sendAll m (before ++ x.retireAll.1.map closeRequest) := by
  have hlength := h.length_closing
  rw [List.length_map] at hlength
  have hover := hb.over_run_shutdown (s := s) (by
    rw [hb.session, Bridge.timersPerCall]
    omega)
  rw [hover.remote, hb.session, hb.remote, closeAll_eq hs, Http.Network.sendAll_append]

end

end Gateway
end CommandBridge
