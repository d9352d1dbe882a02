import CommandBridge.Session.Basic
import Mathlib.Data.List.Nodup
import Mathlib.Logic.Relation

/-! The books of a session: every connection it has been given, and where each of them is. A session
does three things to its connections, in some order: it installs one where there is none, it retires
the live one, and it hands the retired ones out. -/
namespace CommandBridge

structure Ledger where
  /-- Every connection there has been, in order. -/
  opened : List Connection
  live : Option Connection
  retired : List Connection
  /-- What each caller was given that has taken the retired connections. -/
  handings : List (List Connection)
  generation : Nat

/-- Where a connection can be. -/
inductive Place where
  | live
  | retired (position : Nat)
  | handedOut (handing position : Nat)

/-- How far a connection has got. -/
def Place.rank : Place → Nat
  | live => 0
  | retired _ => 1
  | handedOut _ _ => 2

namespace Ledger

def empty : Ledger := ⟨[], none, [], [], 0⟩

def install (l : Ledger) (c : Connection) : Ledger :=
  { l with opened := l.opened ++ [c], live := some c }

def retire (l : Ledger) : Ledger :=
  { l with
    live := none
    retired := l.retired ++ l.live.toList
    generation := l.generation + 1 }

def handOut (l : Ledger) : Ledger :=
  { l with retired := [], handings := l.handings ++ [l.retired] }

inductive Step : Ledger → Ledger → Prop where
  | install {l : Ledger} (c : Connection) (h : l.live = none) : Step l (l.install c)
  | retire (l : Ledger) : Step l l.retire
  | handOut (l : Ledger) : Step l l.handOut

/-- Any number of steps. -/
abbrev Later : Ledger → Ledger → Prop := Relation.ReflTransGen Step

def at? (l : Ledger) : Place → Option Connection
  | .live => l.live
  | .retired i => l.retired[i]?
  | .handedOut n i => l.handings[n]?.bind (·[i]?)

/-- Where a connection goes when the live one is retired. -/
def retiredPlace (l : Ledger) : Place → Place
  | .live => .retired l.retired.length
  | place => place

/-- Where a connection goes when the retired ones are handed out. -/
def handedPlace (l : Ledger) : Place → Place
  | .retired i => .handedOut l.handings.length i
  | place => place

section
variable {l l' : Ledger} {c c' : Connection} {p q : Place}

/-- An entry of a list with one more element is the new one or an old one. -/
theorem getElem?_snoc {α : Type} {xs : List α} {x y : α} {i : Nat} :
    (xs ++ [x])[i]? = some y ↔ xs[i]? = some y ∨ i = xs.length ∧ y = x := by
  rw [List.getElem?_append]
  split
  · rename_i hi
    simp [Nat.ne_of_lt hi]
  · rename_i hi
    rw [List.getElem?_eq_none (Nat.le_of_not_lt hi), List.getElem?_singleton]
    have : i - xs.length = 0 ↔ i = xs.length := by omega
    split <;> simp_all [eq_comm]

theorem install_at? (h : l.live = none) :
    (l.install c').at? q = some c ↔ l.at? q = some c ∨ q = .live ∧ c = c' := by
  cases q with
  | live => simp [at?, install, h, eq_comm]
  | retired | handedOut => simp [at?, install]

theorem retire_at? :
    l.retire.at? q = some c ↔ ∃ p, l.at? p = some c ∧ q = l.retiredPlace p := by
  constructor
  · intro h
    cases q with
    | live => simp [at?, retire] at h
    | handedOut n i => exact ⟨.handedOut n i, h, rfl⟩
    | retired i =>
      cases hl : l.live with
      | none =>
        refine ⟨.retired i, ?_, rfl⟩
        simpa [at?, retire, hl] using h
      | some x =>
        have hi : (l.retired ++ [x])[i]? = some c := by simpa [at?, retire, hl] using h
        rcases getElem?_snoc.mp hi with hi | ⟨rfl, rfl⟩
        · exact ⟨.retired i, hi, rfl⟩
        · exact ⟨.live, hl, rfl⟩
  · rintro ⟨p, hp, rfl⟩
    cases p with
    | live =>
      have hl : l.live = some c := hp
      simp [at?, retire, retiredPlace, hl]
    | retired i =>
      obtain ⟨hi, -⟩ := List.getElem?_eq_some_iff.mp hp
      exact (List.getElem?_append_left hi).trans hp
    | handedOut n i => exact hp

theorem handOut_at? :
    l.handOut.at? q = some c ↔ ∃ p, l.at? p = some c ∧ q = l.handedPlace p := by
  constructor
  · intro h
    cases q with
    | live => exact ⟨.live, h, rfl⟩
    | retired i => simp [at?, handOut] at h
    | handedOut n i =>
      obtain ⟨cs, hn, hi⟩ := Option.bind_eq_some_iff.mp h
      rcases getElem?_snoc.mp hn with hn | ⟨rfl, rfl⟩
      · exact ⟨.handedOut n i, Option.bind_eq_some_iff.mpr ⟨cs, hn, hi⟩, rfl⟩
      · exact ⟨.retired i, hi, rfl⟩
  · rintro ⟨p, hp, rfl⟩
    cases p with
    | live => exact hp
    | retired i => exact Option.bind_eq_some_iff.mpr ⟨_, getElem?_snoc.mpr (.inr ⟨rfl, rfl⟩), hp⟩
    | handedOut n i =>
      obtain ⟨cs, hn, hi⟩ := Option.bind_eq_some_iff.mp hp
      exact Option.bind_eq_some_iff.mpr ⟨cs, getElem?_snoc.mpr (.inl hn), hi⟩

theorem retiredPlace_cases (l : Ledger) (p : Place) :
    l.retiredPlace p = p ∨ p.rank < (l.retiredPlace p).rank := by
  cases p with
  | live => exact .inr Nat.zero_lt_one
  | retired | handedOut => exact .inl rfl

theorem handedPlace_cases (l : Ledger) (p : Place) :
    l.handedPlace p = p ∨ p.rank < (l.handedPlace p).rank := by
  cases p with
  | retired => exact .inr (Nat.lt_add_one 1)
  | live | handedOut => exact .inl rfl

/-- A connection stays where it is, or goes on. -/
theorem Step.forward (h : Step l l') (hp : l.at? p = some c) :
    ∃ q, l'.at? q = some c ∧ (q = p ∨ p.rank < q.rank) := by
  cases h with
  | install c' hl => exact ⟨p, (install_at? hl).mpr (.inl hp), .inl rfl⟩
  | retire => exact ⟨_, retire_at?.mpr ⟨p, hp, rfl⟩, l.retiredPlace_cases p⟩
  | handOut => exact ⟨_, handOut_at?.mpr ⟨p, hp, rfl⟩, l.handedPlace_cases p⟩

theorem Later.forward (h : Later l l') (hp : l.at? p = some c) :
    ∃ q, l'.at? q = some c ∧ (q = p ∨ p.rank < q.rank) := by
  induction h with
  | refl => exact ⟨p, hp, .inl rfl⟩
  | tail _ hs ih =>
    obtain ⟨q, hq, hpq⟩ := ih
    obtain ⟨q', hq', hqq'⟩ := hs.forward hq
    refine ⟨q', hq', ?_⟩
    rcases hpq with rfl | hpq
    · exact hqq'
    · right
      rcases hqq' with rfl | hqq'
      · exact hpq
      · exact Nat.lt_trans hpq hqq'

/-- The connections that there are at some place are those that there have been, each at one place
if none has been installed twice. -/
structure Sound (l : Ledger) : Prop where
  known : ∀ p c, l.at? p = some c → c ∈ l.opened
  kept : ∀ c ∈ l.opened, ∃ p, l.at? p = some c
  single : l.opened.Nodup → ∀ p q c, l.at? p = some c → l.at? q = some c → p = q

theorem sound_empty : empty.Sound := by
  have none (p : Place) (c : Connection) : empty.at? p ≠ some c := by
    cases p <;> simp [empty, at?]
  refine ⟨fun p c hp => absurd hp (none p c), ?_, fun _ p q c hp => absurd hp (none p c)⟩
  simp [empty]

/-- A step that only takes connections from one place to another. -/
theorem Sound.of_moved {move : Place → Place} (h : l.Sound) (ho : l'.opened = l.opened)
    (hm : ∀ q c, l'.at? q = some c ↔ ∃ p, l.at? p = some c ∧ q = move p) : l'.Sound := by
  refine ⟨fun q c hq => ?_, fun c hc => ?_, fun hn q q' c hq hq' => ?_⟩
  · obtain ⟨p, hp, -⟩ := (hm q c).mp hq
    exact ho ▸ h.known p c hp
  · obtain ⟨p, hp⟩ := h.kept c (ho ▸ hc)
    exact ⟨move p, (hm _ c).mpr ⟨p, hp, rfl⟩⟩
  · obtain ⟨p, hp, rfl⟩ := (hm q c).mp hq
    obtain ⟨p', hp', rfl⟩ := (hm q' c).mp hq'
    rw [h.single (ho ▸ hn) p p' c hp hp']

theorem Sound.install (h : l.Sound) (hl : l.live = none) : (l.install c').Sound := by
  refine ⟨fun q c hq => ?_, fun c hc => ?_, fun hn q q' c hq hq' => ?_⟩
  · rcases (install_at? hl).mp hq with hq | ⟨-, rfl⟩
    · exact List.mem_append_left _ (h.known q c hq)
    · exact List.mem_append_right _ (List.mem_singleton_self c)
  · rcases List.mem_append.mp hc with hc | hc
    · obtain ⟨p, hp⟩ := h.kept c hc
      exact ⟨p, (install_at? hl).mpr (.inl hp)⟩
    · exact ⟨.live, (install_at? hl).mpr (.inr ⟨rfl, List.mem_singleton.mp hc⟩)⟩
  · have hn : (l.opened ++ [c']).Nodup := hn
    obtain ⟨hold, -, hapart⟩ := List.nodup_append.mp hn
    -- the new connection was nowhere before
    have new (p : Place) : l.at? p ≠ some c' := fun hp =>
      hapart c' (h.known p c' hp) c' (List.mem_singleton_self c') rfl
    rcases (install_at? hl).mp hq with hp | ⟨rfl, rfl⟩
    · rcases (install_at? hl).mp hq' with hp' | ⟨-, rfl⟩
      · exact h.single hold q q' c hp hp'
      · exact absurd hp (new q)
    · rcases (install_at? hl).mp hq' with hp' | ⟨rfl, -⟩
      · exact absurd hp' (new q')
      · rfl

theorem Step.sound (h : Step l l') (hs : l.Sound) : l'.Sound := by
  cases h with
  | install c' hl => exact hs.install hl
  | retire => exact hs.of_moved rfl fun _ _ => retire_at?
  | handOut => exact hs.of_moved rfl fun _ _ => handOut_at?

theorem Later.sound (h : Later l l') (hs : l.Sound) : l'.Sound := by
  induction h with
  | refl => exact hs
  | tail _ hs ih => exact hs.sound ih

theorem at?_handedOut {n i : Nat} {cs : List Connection} (hn : l.handings[n]? = some cs)
    (hi : cs[i]? = some c) : l.at? (.handedOut n i) = some c :=
  Option.bind_eq_some_iff.mpr ⟨cs, hn, hi⟩

/-- No connection is handed out twice. -/
theorem Sound.nodup_handings (hs : l.Sound) (hn : l.opened.Nodup) : l.handings.flatten.Nodup := by
  refine List.nodup_flatten.mpr ⟨fun cs hcs => ?_, List.pairwise_iff_getElem.mpr ?_⟩
  · obtain ⟨n, hcs⟩ := List.mem_iff_getElem?.mp hcs
    refine List.nodup_iff_getElem?_ne_getElem?.mpr fun i j hij hj heq => ?_
    have hcj : cs[j]? = some cs[j] := List.getElem?_eq_getElem hj
    have hp := hs.single hn _ _ _ (at?_handedOut hcs (heq.trans hcj)) (at?_handedOut hcs hcj)
    injection hp with _ hp
    omega
  · intro n m hn' hm hnm c hcn hcm
    obtain ⟨i, hi⟩ := List.mem_iff_getElem?.mp hcn
    obtain ⟨j, hj⟩ := List.mem_iff_getElem?.mp hcm
    have hp := hs.single hn _ _ _ (at?_handedOut (List.getElem?_eq_getElem hn') hi)
      (at?_handedOut (List.getElem?_eq_getElem hm) hj)
    injection hp with hp _
    omega

/-- A connection that has been handed out is one that there has been, and is not the live one. -/
theorem Sound.of_mem_handings (hs : l.Sound) (hc : c ∈ l.handings.flatten) :
    c ∈ l.opened ∧ (l.opened.Nodup → l.live ≠ some c) := by
  obtain ⟨cs, hcs, hc⟩ := List.mem_flatten.mp hc
  obtain ⟨n, hn⟩ := List.mem_iff_getElem?.mp hcs
  obtain ⟨i, hi⟩ := List.mem_iff_getElem?.mp hc
  have hp := at?_handedOut hn hi
  exact ⟨hs.known _ _ hp, fun hnodup hl => nomatch hs.single hnodup .live _ c hl hp⟩

theorem Step.generation_le (h : Step l l') : l.generation ≤ l'.generation := by
  cases h with
  | install | handOut => exact Nat.le_refl _
  | retire => exact Nat.le_succ _

theorem Later.generation_le (h : Later l l') : l.generation ≤ l'.generation := by
  induction h with
  | refl => exact Nat.le_refl _
  | tail _ hs ih => exact Nat.le_trans ih hs.generation_le

/-- Each connection but the live one has cost a generation. -/
def Bounded (l : Ledger) : Prop := l.opened.length ≤ l.generation + l.live.toList.length

theorem Step.bounded (h : Step l l') (hb : l.Bounded) : l'.Bounded := by
  unfold Bounded at hb ⊢
  cases h with
  | install c hl => simpa [Ledger.install, hl] using hb
  | handOut => exact hb
  | retire =>
    have hle : l.live.toList.length ≤ 1 := by cases l.live <;> simp
    simp only [Ledger.retire, Option.toList_none, List.length_nil]
    omega

theorem Later.bounded (h : Later l l') (hb : l.Bounded) : l'.Bounded := by
  induction h with
  | refl => exact hb
  | tail _ hs ih => exact hs.bounded ih

/-- No more connections are kept than there have been. -/
def Keeps (l : Ledger) : Prop := l.retired.length + l.live.toList.length ≤ l.opened.length

theorem Step.keeps (h : Step l l') (hk : l.Keeps) : l'.Keeps := by
  unfold Keeps at hk ⊢
  cases h with
  | install c hl =>
    simp only [Ledger.install, hl, Option.toList_none, List.length_nil] at hk ⊢
    simpa using hk
  | retire => simpa [Ledger.retire] using hk
  | handOut =>
    simp only [Ledger.handOut, List.length_nil]
    omega

theorem Later.keeps (h : Later l l') (hk : l.Keeps) : l'.Keeps := by
  induction h with
  | refl => exact hk
  | tail _ hs ih => exact hs.keeps ih

/-- Within a generation at most one connection is installed, and it stays the live one. -/
structure Settled (l l' : Ledger) : Prop where
  opened : l'.opened = l.opened ∨ l.live = none ∧ ∃ c, l'.opened = l.opened ++ [c]
  live : ∀ c, l.live = some c → l'.live = some c
  full : l'.opened ≠ l.opened → l'.live ≠ none

theorem Later.settled (h : Later l l') (hg : l'.generation = l.generation) : Settled l l' := by
  induction h with
  | refl => exact ⟨.inl rfl, fun _ h => h, fun h => absurd rfl h⟩
  | @tail m m' h hs ih =>
    have hle := Later.generation_le h
    have hle' := hs.generation_le
    obtain ⟨ho, hl, hf⟩ := ih (by omega)
    cases hs with
    | install c hm =>
      have hsame : m.opened = l.opened := Classical.byContradiction fun hne => hf hne hm
      have hnone : l.live = none := by
        cases hx : l.live with
        | none => rfl
        | some x => exact nomatch (hl x hx).symm.trans hm
      refine ⟨.inr ⟨hnone, c, congrArg (· ++ [c]) hsame⟩, fun x hx => ?_, fun _ => ?_⟩
      · exact nomatch hx.symm.trans hnone
      · simp [Ledger.install]
    | retire =>
      have : m.generation + 1 = l.generation := hg
      omega
    | handOut => exact ⟨ho, hl, hf⟩

end

end Ledger

namespace Session
variable (x : Session) (opened : List Connection) (handings : List (List Connection))

/-- The books of a session with that past. -/
def ledger : Ledger := ⟨opened, x.live, x.retired, handings, x.generation⟩

open Ledger

theorem later_retire : Later (x.ledger opened handings) (x.retire.ledger opened handings) :=
  .single (.retire _)

theorem later_discardAbandoned :
    Later (x.ledger opened handings) (x.discardAbandoned.ledger opened handings) := by
  unfold discardAbandoned
  split
  · exact .single (.retire _)
  · exact .refl

theorem later_invalidate (c : Connection) :
    Later (x.ledger opened handings) ((x.invalidate c).ledger opened handings) := by
  unfold invalidate
  split
  · exact .single (.retire _)
  · exact .refl

theorem later_takeRetired : Later (x.ledger opened handings)
    (x.takeRetired.2.ledger opened (handings ++ [x.takeRetired.1])) :=
  (x.later_discardAbandoned opened handings).tail (.handOut _)

theorem later_retireAll : Later (x.ledger opened handings)
    (x.retireAll.2.ledger opened (handings ++ [x.retireAll.1])) :=
  (x.later_retire opened handings).tail (.handOut _)

theorem later_install (c : Connection) (h : x.live = none) : Later (x.ledger opened handings)
    ((x.install c).ledger (opened ++ [c]) handings) :=
  .single (.install c h)

end Session

end CommandBridge
