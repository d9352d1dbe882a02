import CommandBridge.Proofs.Bridge.Disposal
import CommandBridge.Proofs.Bridge.Succession
import CommandBridge.Proofs.Endpoint.Simulated

/-! The connections of a simulated endpoint and those of the bridge that it serves: as long as
nobody else opens or closes connections there, the two agree, whatever calls are made, stopped or
late. -/
namespace CommandBridge

namespace Simulated

/-- The names of the next `n` connections after the first `k`. -/
def numbered (k n : Nat) : List String := (List.range n).map fun i => connectionName (k + i + 1)

section
variable {m m' : Simulated} {t : Target} {k : Credential}

theorem numbered_succ (k n : Nat) :
    numbered k (n + 1) = numbered k n ++ [connectionName (k + n + 1)] := by
  simp [numbered, List.range_succ]

theorem mem_numbered {k n : Nat} {name : String} :
    name ∈ numbered k n ↔ ∃ i < n, connectionName (k + i + 1) = name := by
  simp [numbered]

theorem nodup_numbered (k n : Nat) : (numbered k n).Nodup := by
  refine List.nodup_range.map fun i j h => ?_
  have hij := connectionName_injective h
  omega

theorem greets_connect {r : Except Failure String} (h : connect t k m = (m', .now r)) :
    Greets m m' r :=
  (greets_connected (ofDelay_now h)).of_greeted

theorem connect_later {delay : Option Nat} (h : connect t k m = (m', .later delay)) :
    m'.books = m.books := by
  obtain rfl := ofDelay_later h
  rfl

theorem asked_books (c : Connection) (i : Invocation) (m : Simulated) :
    (execute c i m).1.books = m.books := by
  unfold execute
  split
  · rfl
  · dsimp only
    rcases ofDelay_cases m.latency (executed c i)
      { m with active := m.active + 1, maxActive := max m.maxActive (m.active + 1) } with he | he
    · rw [he]
      exact executed_books c i _
    · rw [he]
      rfl

theorem Agrees.not_mem_closed {n : Nat} (h : Agrees m (Session.new t)) (hn : m.opened < n) :
    connectionName n ∉ m.closed := fun hm =>
  (h.fresh n hn).1 (List.mem_append_left _ hm)

end

end Simulated

namespace Point

/-- The name of the connection that a handshake has just opened. -/
def greeted? {ρ : Type} : Point ρ → Option String
  | connected _ _ (.ok name) => some name
  | _ => none

end Point

namespace Bridge

/-- No caller closes a connection past the bridge. -/
def NoneClosed {σ ρ : Type} (b : Bridge σ ρ) : Prop := ∀ k c, b.request? k ≠ some (.close c)

/-- No call waits for a connection to be closed. -/
def NoneClosing {σ ρ : Type} (m : Moment σ ρ) : Prop :=
  ∀ j c rest timer, m.1.spot m.2 j ≠ some (.park (.closing c rest timer))

/-- The names of all connections that have been opened, in order. The session may have yet to be
given the last one. -/
def opens {σ ρ : Type} (m : Moment σ ρ) : List String :=
  m.1.told Event.opened? ++ (m.2.bind (·.2.greeted?)).toList

/-- A run of a bridge on a simulated endpoint where nobody else opens or closes connections. -/
def Exclusive (s : Setup Simulated Record) (mayStop : Bridge Simulated Record → Nat → Prop)
    (t : Target) (remote : Simulated) (m : Moment Simulated Record) : Prop :=
  LaterByCalls Simulated.books s mayStop (Bridge.new t remote, none) m

/-- What happens to the connections of the endpoint between two moments. -/
inductive BooksMove (m m' : Moment Simulated Record) : Prop where
  | quiet (hb : m'.1.remote.books = m.1.remote.books) (hn : opens m' = opens m)
  | opened (ho : m'.1.remote.opened = m.1.remote.opened + 1)
      (hc : m'.1.remote.closed = m.1.remote.closed)
      (hn : opens m' = opens m ++ [Simulated.connectionName (m.1.remote.opened + 1)])
  | closed {c : Connection} (ho : m'.1.remote.opened = m.1.remote.opened)
      (hc : ∀ name ∈ m'.1.remote.closed, name ∈ m.1.remote.closed ∨ name = c.id)
      (hd : c ∈ m'.1.disposed) (hn : opens m' = opens m)

/-- How the connections of the endpoint stand to what has happened: they are numbered in the order
in which the session was given them, and only what the bridge has closed is closed. -/
structure Books (remote : Simulated) (m : Moment Simulated Record) : Prop where
  opened : ∃ n, m.1.remote.opened = remote.opened + n ∧
    opens m = Simulated.numbered remote.opened n
  closed : ∀ name ∈ m.1.remote.closed, name ∈ remote.closed ∨ ∃ c ∈ m.1.disposed, c.id = name
  noneClosing : NoneClosing m

section
variable {σ ρ : Type} {s : Setup σ ρ} {mayStop : Bridge σ ρ → Nat → Prop}
variable {b : Bridge σ ρ} {m m' : Moment σ ρ}

theorem mem_disposed {c : Connection} :
    c ∈ b.disposed ↔ ∃ k, (k, c) ∈ b.told Event.closes? ∧ b.takesTurn k = true := by
  simp [disposed]

theorem Next.disposed_subset (hn : Next s mayStop m m') : m.1.disposed ⊆ m'.1.disposed := by
  intro c hc
  obtain ⟨k, hk, ht⟩ := mem_disposed.mp hc
  refine mem_disposed.mpr ⟨k, (told_grows hn.events_grow).subset hk, ?_⟩
  cases hr : m.1.request? k with
  | none => simp [takesTurn, hr] at ht
  | some r => rwa [takesTurn_eq (hn.request? hr), ← takesTurn_eq hr]

theorem NoneClosed.of_next (hn : Next s mayStop m m') (h : m'.1.NoneClosed) : m.1.NoneClosed :=
  fun k c hr => h k c (hn.request? hr)

end

section
variable {openLimit executionLimit : Nat}
variable {mayStop : Bridge Simulated Record → Nat → Prop} {t : Target} {remote : Simulated}
variable {m m' : Moment Simulated Record} {id : Nat}

theorem BooksMove.of_told (hb : m'.1.remote.books = m.1.remote.books)
    (ho : m'.1.told Event.opened? = m.1.told Event.opened?)
    (hf : m.2.bind (·.2.greeted?) = none) (hf' : m'.2.bind (·.2.greeted?) = none) :
    BooksMove m m' := by
  refine .quiet hb ?_
  unfold opens
  rw [ho, hf, hf']

theorem BooksMove.of_greets {r : Except Failure String} {t : Target} {k : Credential}
    (hg : Simulated.Greets m.1.remote m'.1.remote r)
    (ho : m'.1.told Event.opened? = m.1.told Event.opened?)
    (hf : m.2.bind (·.2.greeted?) = none) (hf' : m'.2 = some (id, .connected t k r)) :
    BooksMove m m' := by
  cases hg with
  | opened hopened hclosed =>
    refine .opened hopened hclosed ?_
    unfold opens
    rw [ho, hf, hf', Option.toList_none, List.append_nil]
    rfl
  | refused hb e => exact .of_told hb ho hf (by rw [hf']; rfl)

theorem BooksMove.of_close {c : Connection} (hc : m'.1.remote = (Simulated.closeNow c m.1.remote).1)
    (hm : (id, c) ∈ m'.1.told Event.closes?) (ht : m'.1.takesTurn id = true)
    (ho : m'.1.told Event.opened? = m.1.told Event.opened?)
    (hf : m.2.bind (·.2.greeted?) = none) (hf' : m'.2.bind (·.2.greeted?) = none) :
    BooksMove m m' := by
  refine .closed ?_ ?_ (mem_disposed.mpr ⟨id, hm, ht⟩) ?_
  · rw [hc]
    rfl
  · rw [hc]
    exact fun name => Simulated.mem_closed_closeNow.mp
  · unfold opens
    rw [ho, hf, hf']

theorem Next.booksMove (hn : Next (Simulated.setup openLimit executionLimit) mayStop m m')
    (hv : Visited (Simulated.setup openLimit executionLimit) mayStop t remote m.1 m.2)
    (hd : m.1.NoneClosed) (hc : NoneClosing m)
    (hk : m.2 = none → m'.2 = none → m'.1.remote.books = m.1.remote.books) : BooksMove m m' := by
  cases hn with
  | start h =>
    have ho := h.told (g := Event.opened?) rfl fun _ => rfl
    cases h with
    | @connected _ t k timer remote' r hp ht he =>
      exact .of_greets (Simulated.greets_connected (k := k) he) ho rfl rfl
    | executed hp hr ht he | executedOwn hp hr he =>
      exact .of_told ((congrArg (Simulated.books ·.1) he).symm.trans (Simulated.executed_books _ _ _)) ho
        rfl rfl
    | closed hp ht he => exact absurd (spot_resting hp) (hc _ _ _ _)
    | _ => exact .of_told rfl ho rfl rfl
  | @move b b' id p p' h =>
    cases h with
    | connect _ _ _ he =>
      exact .of_greets (Simulated.greets_connect he) (by simp [Event.opened?]) rfl rfl
    | connectNever _ _ _ he | connectLater _ _ _ he =>
      exact .of_told (Simulated.connect_later he) (by simp [Event.opened?]) rfl rfl
    | @install t k name =>
      refine .quiet rfl ?_
      simp [opens, Event.opened?, Point.greeted?]
    | @close c rest _ r he =>
      have hremote := congrArg (·.1) he
      obtain ⟨q, hq, hs⟩ := hv.suits id _ (spot_running b id _)
      refine .of_close (c := c) hremote.symm ?_ ((takesTurn_eq hq).trans hs) ?_ rfl rfl
      · dsimp only
        rw [told_closeNotes _ (fun _ => rfl) fun _ _ => rfl]
        simp [Event.closes?]
      · refine (told_closeNotes _ (fun _ => rfl) (fun _ _ => rfl) _ _).trans ?_
        simp [Event.opened?]
    | closeLater he | closeOwnLater he => cases he
    | closeOwn he =>
      obtain ⟨q, hq, c', rfl⟩ := hv.suits id _ (spot_running b id _)
      exact absurd hq (hd id c')
    | execute he | executeNever he | executeLater he =>
      exact .of_told ((congrArg (Simulated.books ·.1) he).symm.trans
        (Simulated.asked_books _ _ _))
        (by simp [Event.opened?]) rfl rfl
    | serve =>
      exact .of_told rfl (told_events b (fun _ => rfl) (fun _ => rfl) _) rfl rfl
    | closed | closedOwn =>
      exact .of_told rfl (told_closeNotes b (fun _ => rfl) (fun _ _ => rfl) _ _) rfl rfl
    | _ => exact .of_told rfl (by simp [Event.opened?]) rfl rfl
  | park => exact .of_told rfl rfl rfl rfl
  | @stop b id =>
    refine .of_told (hk rfl rfl) ?_ rfl rfl
    rcases cancel_cases b id with he | ⟨ph, -, -, he⟩
    · exact congrArg (fun x => x.told Event.opened?) he
    · exact (congrArg (fun x => x.told Event.opened?) he).trans
        (told_stopped (fun _ _ => rfl) b id)
  | abandon | elapse | remote => exact .of_told (hk rfl rfl) rfl rfl rfl

theorem Next.noneClosing (hn : Next (Simulated.setup openLimit executionLimit) mayStop m m')
    (hv : Visited (Simulated.setup openLimit executionLimit) mayStop t remote m.1 m.2)
    (h : NoneClosing m) : NoneClosing m' := by
  intro j c rest timer hq
  obtain ⟨b, f⟩ := m
  obtain ⟨b', f'⟩ := m'
  rcases hn.spot_cases hv hq with ⟨q, hq, hg⟩ | ⟨-, -, hs⟩
  · cases hg with
    | stays => exact h j c rest timer hq
    | starts _ hs => cases hs
    | moves _ hm =>
      cases hm with
      | closeLater he | closeOwnLater he => cases he
  · cases hs

theorem books_new : Books remote (Bridge.new t remote, none) := by
  refine ⟨⟨0, rfl, rfl⟩, fun name hm => .inl hm, fun j c rest timer hq => ?_⟩
  cases hq

theorem Books.next (hb : Books remote m)
    (hn : Next (Simulated.setup openLimit executionLimit) mayStop m m')
    (hv : Visited (Simulated.setup openLimit executionLimit) mayStop t remote m.1 m.2)
    (hm : BooksMove m m') : Books remote m' := by
  obtain ⟨n, ho, hopens⟩ := hb.opened
  have old {name : String} (h : name ∈ m.1.remote.closed) :
      name ∈ remote.closed ∨ ∃ c ∈ m'.1.disposed, c.id = name :=
    (hb.closed name h).imp_right fun ⟨c, hc, hid⟩ => ⟨c, hn.disposed_subset hc, hid⟩
  have hat := hn.noneClosing hv hb.noneClosing
  cases hm with
  | quiet hbooks hsame =>
    obtain ⟨hopened, hclosed⟩ := Prod.mk.inj hbooks
    exact ⟨⟨n, hopened.trans ho, hsame.trans hopens⟩, fun name hm => old (hclosed ▸ hm), hat⟩
  | opened hopened hclosed hnew =>
    refine ⟨⟨n + 1, ?_, ?_⟩, fun name hm => old (hclosed ▸ hm), hat⟩
    · rw [hopened, ho, Nat.add_assoc]
    · rw [hnew, hopens, ho, Simulated.numbered_succ]
  | @closed c hopened hclosed hc hsame =>
    refine ⟨⟨n, hopened.trans ho, hsame.trans hopens⟩, fun name hm => ?_, hat⟩
    rcases hclosed name hm with hm | rfl
    · exact old hm
    · exact .inr ⟨c, hc, rfl⟩

theorem Exclusive.visited {s : Setup Simulated Record} (h : Exclusive s mayStop t remote m) :
    Visited s mayStop t remote m.1 m.2 :=
  h.later.visited .new

/-- Every step goes on with such a run, unless it is the connections that change from outside. -/
theorem Exclusive.step {s : Setup Simulated Record} {b b' : Bridge Simulated Record}
    (h : Exclusive s mayStop t remote (b, none)) (hs : Step s mayStop b b') :
    Exclusive s mayStop t remote (b', none) ∨
      ∃ x : Simulated, b' = b.withRemote x ∧ x.books ≠ b.remote.books :=
  (hs.byCalls h.visited).imp_left h.trans

theorem Exclusive.submit {s : Setup Simulated Record} {b : Bridge Simulated Record}
    (h : Exclusive s mayStop t remote (b, none)) (r : Request) :
    Exclusive s mayStop t remote (b.submit s r, none) :=
  h.trans (advances_submit b r).byCalls

theorem Exclusive.cancel {s : Setup Simulated Record} {b : Bridge Simulated Record}
    (h : Exclusive s mayStop t remote (b, none)) (hm : mayStop b id) :
    Exclusive s mayStop t remote (b.cancel id, none) :=
  h.tail (byCalls_cancel hm)

theorem Exclusive.books
    (h : Exclusive (Simulated.setup openLimit executionLimit) mayStop t remote m)
    (hd : m.1.NoneClosed) : Books remote m := by
  induction h with
  | refl => exact books_new
  | tail h hn ih =>
    have hd := hd.of_next hn.next
    have hv := Exclusive.visited h
    have hb := ih hd
    exact hb.next hn.next hv (hn.next.booksMove hv hd hb.noneClosing hn.kept)

section
variable {b : Bridge Simulated Record}

theorem Books.told_opened (hb : Books remote (b, none)) :
    ∃ n, b.remote.opened = remote.opened + n ∧
      b.told Event.opened? = Simulated.numbered remote.opened n := by
  obtain ⟨n, ho, hopens⟩ := hb.opened
  exact ⟨n, ho, (List.append_nil _).symm.trans hopens⟩

theorem Books.nodup_opened (hb : Books remote (b, none)) : (b.told Event.opened?).Nodup := by
  obtain ⟨n, -, hopens⟩ := hb.told_opened
  exact hopens ▸ Simulated.nodup_numbered _ n

theorem Books.number (hb : Books remote (b, none)) {c : Connection}
    (hc : c ∈ b.told Event.installed?) :
    ∃ k, remote.opened < k ∧ k ≤ b.remote.opened ∧ c.id = Simulated.connectionName k := by
  obtain ⟨n, ho, hopens⟩ := hb.told_opened
  have hm : c.id ∈ b.told Event.opened? := by
    rw [told_opened?]
    exact List.mem_map_of_mem hc
  rw [hopens, Simulated.mem_numbered] at hm
  obtain ⟨i, hi, hid⟩ := hm
  exact ⟨remote.opened + i + 1, by omega, by omega, hid.symm⟩

/-- What is closed or waits for that was so before, or was given to the session and is not live. -/
theorem Books.gone_cases (hb : Books remote (b, none))
    (hv : Visited (Simulated.setup openLimit executionLimit) mayStop t remote b none)
    {name : String} (hm : name ∈ b.remote.gone b.session) :
    name ∈ remote.closed ∨
      ∃ c ∈ b.told Event.installed?, c.id = name ∧ b.session.live ≠ some c := by
  have hs := hv.sound
  have hn := hb.nodup_opened
  rw [told_opened?] at hn
  have hi : (b.told Event.installed?).Nodup := hn.of_map
  rcases List.mem_append.mp hm with hm | hm
  · refine (hb.closed name hm).imp_right fun ⟨c, hc, hid⟩ => ?_
    obtain ⟨hc, hl⟩ := hs.of_mem_handings ((hv.disposal hi).handed hc)
    exact ⟨c, hc, hid, hl hi⟩
  · obtain ⟨c, hc, hid⟩ := List.mem_map.mp hm
    obtain ⟨i, hc⟩ := List.mem_iff_getElem?.mp hc
    have hp : b.ledger.at? (.retired i) = some c := hc
    refine .inr ⟨c, hs.known _ c hp, hid, fun hl => ?_⟩
    exact nomatch hs.single hi .live _ c hl hp

/-- The session and the endpoint agree on the connections, whatever calls have been made. -/
theorem Exclusive.agrees
    (h : Exclusive (Simulated.setup openLimit executionLimit) mayStop t remote (b, none))
    (ha : Simulated.Agrees remote (Session.new t)) (hd : b.NoneClosed) :
    Simulated.Agrees b.remote b.session := by
  have hv : Visited (Simulated.setup openLimit executionLimit) mayStop t remote b none := h.visited
  have hs := hv.sound
  have hb := h.books hd
  constructor
  · intro c hc hm
    have hin : c ∈ b.told Event.installed? := hs.known .live c hc
    rcases hb.gone_cases hv hm with hm | ⟨c', hc', hid, hl⟩
    · obtain ⟨k, hk, -, hid⟩ := hb.number hin
      exact ha.not_mem_closed hk (hid ▸ hm)
    · obtain rfl := named_of_nodup hb.nodup_opened hin c' hc' hid
      exact hl hc
  · intro k hk
    have apart {c : Connection} (hc : c ∈ b.told Event.installed?) :
        c.id ≠ Simulated.connectionName k := by
      intro hid
      obtain ⟨k', -, hle, hid'⟩ := hb.number hc
      have hkk := Simulated.connectionName_injective (hid'.symm.trans hid)
      omega
    refine ⟨fun hm => ?_, fun c hc => apart (hs.known .live c hc)⟩
    rcases hb.gone_cases hv hm with hm | ⟨c, hc, hid, -⟩
    · obtain ⟨n, ho, -⟩ := hb.told_opened
      exact ha.not_mem_closed (by omega) hm
    · exact apart hc hid

/-- When all calls are over, invocations get what the endpoint has for them, if there is a
credential and the endpoint is not told to fail. -/
theorem Exclusive.ready
    (h : Exclusive (Simulated.setup openLimit executionLimit) mayStop t remote (b, none))
    (ha : Simulated.Agrees remote (Session.new t)) (hd : b.NoneClosed)
    (hf : ∀ c ∈ b.calls, c.phase.isFinal = true) (hk : b.session.credential.isSome = true)
    (hq : b.remote.Quiet openLimit executionLimit) :
    Simulated.Ready openLimit executionLimit b :=
  { h.visited.resting hf with credential := hk, agrees := h.agrees ha hd, quiet := hq }

end

end

/-- The target is replaced while an invocation is executed, which is then stopped. -/
def retargeted : Bridge Simulated Record :=
  let s := Simulated.setup 1000 2000
  let b := (Bridge.new localTarget { latency := 1500 }).submit s
    (.session (.setCredential (.token ⟨"k"⟩)))
  let b := b.submit s (.invoke singleStage)
  (b.submit s (.session (.setTarget { localTarget with scope := "other" }))).cancel 1

theorem exclusive_retargeted : Exclusive (Simulated.setup 1000 2000) (fun _ _ => True) localTarget
    { latency := 1500 } (retargeted, none) := by
  unfold retargeted
  refine Exclusive.cancel (.submit (.submit (.submit ?_ _) _) _) trivial
  exact .refl

/-- The connection that was opened for it waits to be closed. -/
theorem ready_retargeted : retargeted.session.retired = [⟨"c1", localTarget⟩] ∧
    Simulated.Ready 1000 2000 retargeted := by
  have hd : retargeted.NoneClosed := by
    intro k c hk
    match k with
    | 0 | 1 | 2 => cases hk
    | k + 3 => cases hk
  have hf : ∀ c ∈ retargeted.calls, c.phase.isFinal = true := by decide +kernel
  have hq : retargeted.remote.Quiet 1000 2000 := ⟨rfl, rfl, by decide, by decide⟩
  exact ⟨rfl, exclusive_retargeted.ready (Simulated.agrees_new _ rfl) hd hf rfl hq⟩

end Bridge

end CommandBridge
