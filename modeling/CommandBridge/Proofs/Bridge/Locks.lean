import CommandBridge.Proofs.Bridge.Visit
import Mathlib.Logic.Function.Basic
import Mathlib.Data.List.Nodup

/-! Which call has which lock. The holder of a lock, its line and the calls that a lock was passed
to agree with where every call is. -/
namespace CommandBridge

open Function

variable {σ ρ : Type}

/-- How a call stands to a lock. A call that the lock was passed to still waits until it goes on. -/
inductive Hold where
  | out
  | waits
  | has
  deriving DecidableEq

namespace Lock

/-- A lock, as the calls stand to it. -/
structure Orderly (l : Lock) (hold : Nat → Hold) : Prop where
  nodup : (l.holder.toList ++ l.waiting).Nodup
  idle : l.holder = none → l.waiting = []
  holder : ∀ j, l.holder = some j → hold j ≠ .out
  waiting : ∀ j ∈ l.waiting, hold j = .waits
  inLine : ∀ j, hold j = .waits → l.holder = some j ∨ j ∈ l.waiting
  has : ∀ j, hold j = .has → l.holder = some j

variable {l : Lock} {hold : Nat → Hold} {id : Nat}

theorem orderly_free (h : ∀ j, hold j = .out) : Lock.free.Orderly hold where
  nodup := by simp [free]
  idle := by simp [free]
  holder := by simp [free]
  waiting := by simp [free]
  inLine := by simp [h]
  has := by simp [h]

theorem Orderly.waiting_ne_holder (h : l.Orderly hold) {j k : Nat} (hj : l.holder = some j)
    (hk : k ∈ l.waiting) : k ≠ j := by
  rintro rfl
  have hn := h.nodup
  rw [hj] at hn
  exact (List.nodup_cons.mp hn).1 hk

theorem Orderly.holder_of_request (h : l.Orderly hold) (hid : hold id = .out)
    (hr : (l.request id).holder = some id) : l.holder = none := by
  unfold request at hr
  split at hr
  · assumption
  · exact absurd hid (h.holder id hr)

theorem Orderly.request_got (h : l.Orderly hold) (hid : hold id = .out) {x : Hold}
    (hx : x ≠ .out) (hr : (l.request id).holder = some id) :
    (l.request id).Orderly (update hold id x) := by
  have hn := h.holder_of_request hid hr
  have hw := h.idle hn
  have hreq : l.request id = ⟨some id, []⟩ := by simp [request, hn, hw]
  have old (j : Nat) : hold j = .out := by
    cases hj : hold j with
    | out => rfl
    | waits => simpa [hn, hw] using h.inLine j hj
    | has => simpa [hn] using h.has j hj
  rw [hreq]
  refine ⟨by simp, by simp, ?_, by simp, ?_, ?_⟩
  · intro j hj
    cases hj
    simpa using hx
  all_goals
    intro j hj
    by_cases h : j = id
    · simp [h]
    · simp [h, old] at hj

theorem Orderly.request_waits (h : l.Orderly hold) (hid : hold id = .out)
    (hr : (l.request id).holder ≠ some id) :
    (l.request id).Orderly (update hold id .waits) := by
  cases hl : l.holder with
  | none => simp [request, hl] at hr
  | some j =>
    have hreq : l.request id = ⟨some j, l.waiting ++ [id]⟩ := by simp [request, hl]
    have hne : id ∉ l.waiting := fun hm => by simp [h.waiting id hm] at hid
    have hj : j ≠ id := by
      rintro rfl
      exact h.holder j hl hid
    have hn := h.nodup
    rw [hl] at hn
    rw [hreq]
    refine ⟨?_, by simp, ?_, ?_, ?_, ?_⟩
    · rw [← List.append_assoc, List.nodup_append]
      refine ⟨hn, by simp, ?_⟩
      rintro a ha _ hb rfl
      obtain rfl : a = id := by simpa using hb
      simp [hne, hj.symm] at ha
    · intro k hk
      cases hk
      simpa [hj] using h.holder j hl
    · intro k hk
      by_cases hki : k = id
      · simp [hki]
      · simpa [hki] using h.waiting k (by simpa [hki] using hk)
    · intro k hk
      by_cases hki : k = id
      · simp [hki]
      · simpa [hki, hl] using h.inLine k (by simpa [hki] using hk)
    · intro k hk
      have hki : k ≠ id := by
        rintro rfl
        simp at hk
      simpa [hl] using h.has k (by simpa [hki] using hk)

theorem Orderly.pass (h : l.Orderly hold) (hl : l.holder = some id) :
    l.pass.Orderly (update hold id .out) := by
  have hn := h.nodup
  rw [hl] at hn
  obtain ⟨hid, hw⟩ := List.nodup_cons.mp hn
  have other {j : Nat} (hj : hold j = .waits) (hne : j ≠ id) : j ∈ l.waiting := by
    rcases h.inLine j hj with hh | hm
    · exact absurd (Option.some.inj (hl.symm.trans hh)).symm hne
    · exact hm
  cases hq : l.waiting with
  | nil =>
    rw [hq] at other
    refine ⟨by simp [Lock.pass, hq], by simp [Lock.pass, hq], by simp [Lock.pass, hq],
      by simp [Lock.pass, hq], ?_, ?_⟩
    all_goals
      intro j hj
      by_cases hne : j = id
      · simp [hne] at hj
    · simpa using other (by simpa [hne] using hj) hne
    · have := h.has j (by simpa [hne] using hj)
      exact absurd (Option.some.inj (hl.symm.trans this)).symm hne
  | cons k rest =>
    have hwait := h.waiting
    rw [hq] at hid hw hwait other
    have hk : k ≠ id := fun e => hid (by simp [e])
    refine ⟨by simpa [Lock.pass, hq] using hw, by simp [Lock.pass, hq], ?_, ?_, ?_, ?_⟩
    · intro j hj
      obtain rfl : k = j := by simpa [Lock.pass, hq] using hj
      simp [hk, hwait k (by simp)]
    · intro j hj
      have hj : j ∈ rest := by simpa [Lock.pass, hq] using hj
      have hne : j ≠ id := fun e => hid (by simp [← e, hj])
      simpa [hne] using hwait j (by simp [hj])
    · intro j hj
      have hne : j ≠ id := by
        rintro rfl
        simp at hj
      simpa [Lock.pass, hq, eq_comm] using other (by simpa [hne] using hj) hne
    · intro j hj
      have hne : j ≠ id := by
        rintro rfl
        simp at hj
      have := h.has j (by simpa [hne] using hj)
      exact absurd (Option.some.inj (hl.symm.trans this)).symm hne

/-- A call that waits for the lock, or does not, goes away. -/
theorem Orderly.erase (h : l.Orderly hold) (hl : l.holder ≠ some id) :
    ({ l with waiting := l.waiting.erase id } : Lock).Orderly (update hold id .out) := by
  have hn := h.nodup
  have hw : l.waiting.Nodup := (List.nodup_append.mp hn).2.1
  refine ⟨?_, ?_, ?_, ?_, ?_, ?_⟩
  · exact hn.sublist ((List.Sublist.refl _).append (List.erase_sublist))
  · intro hi
    simp [h.idle hi]
  · intro j hj
    have hne : j ≠ id := fun e => hl (e ▸ hj)
    simpa [hne] using h.holder j hj
  · intro j hj
    obtain ⟨hne, hm⟩ := hw.mem_erase_iff.mp hj
    simpa [hne] using h.waiting j hm
  · intro j hj
    have hne : j ≠ id := by
      rintro rfl
      simp at hj
    rcases h.inLine j (by simpa [hne] using hj) with hh | hm
    · exact .inl hh
    · exact .inr (hw.mem_erase_iff.mpr ⟨hne, hm⟩)
  · intro j hj
    have hne : j ≠ id := by
      rintro rfl
      simp at hj
    exact h.has j (by simpa [hne] using hj)

/-- A call that has been passed the lock goes on with it. -/
theorem Orderly.take (h : l.Orderly hold) (hl : l.holder = some id) :
    l.Orderly (update hold id .has) := by
  refine ⟨h.nodup, h.idle, ?_, ?_, ?_, ?_⟩
  · intro j hj
    obtain rfl : id = j := Option.some.inj (hl.symm.trans hj)
    simp
  · intro j hj
    simpa [h.waiting_ne_holder hl hj] using h.waiting j hj
  · intro j hj
    have hne : j ≠ id := by
      rintro rfl
      simp at hj
    exact h.inLine j (by simpa [hne] using hj)
  · intro j hj
    by_cases hne : j = id
    · rw [hne, hl]
    · exact h.has j (by simpa [hne] using hj)

/-- A call gives up the lock, or its place in the line. -/
def leave (l : Lock) (id : Nat) : Lock :=
  if l.holder = some id then l.pass else { l with waiting := l.waiting.erase id }

/-- The call that a lock passes to when another one leaves it. -/
def next (l : Lock) (id : Nat) : List Nat :=
  if l.holder = some id then l.pass.holder.toList else []

theorem Orderly.leave (h : l.Orderly hold) : (l.leave id).Orderly (update hold id .out) := by
  unfold Lock.leave
  split
  · exact h.pass ‹_›
  · exact h.erase ‹_›

theorem next_subset : l.next id ⊆ l.waiting := by
  unfold next
  split
  · intro j hj
    exact List.mem_of_mem_head? (by simpa [Lock.pass] using hj)
  · simp

theorem holder_leave (j : Nat) (hj : j ≠ id) :
    (l.leave id).holder = some j ↔ l.holder = some j ∨ j ∈ l.next id := by
  unfold Lock.leave next
  split
  · rename_i h
    simp [h, hj.symm, Lock.pass]
  · simp

end Lock

/-- The two locks of a bridge. -/
inductive Gate where
  | turn
  | access
  deriving DecidableEq

/-- How a call stands to each lock. -/
abbrev Stance := Gate → Hold

def Stance.of (turn access : Hold) : Stance
  | .turn => turn
  | .access => access

/-- The stances after one call has changed its own. -/
def changed (st : Nat → Stance) (id : Nat) (g : Gate) (x : Hold) : Nat → Stance :=
  update st id (update (st id) g x)

/-- The locks and the calls that they were passed to, as the calls stand to them. -/
structure Locks (locks : Gate → Lock) (ready : List Nat) (st : Nat → Stance) : Prop where
  orderly : ∀ g, (locks g).Orderly fun j => st j g
  nodup : ready.Nodup
  single : ∀ j g g', st j g = .waits → st j g' = .waits → g = g'
  passed : ∀ j ∈ ready, ∃ g, st j g = .waits ∧ (locks g).holder = some j
  ready : ∀ j g, st j g = .waits → (locks g).holder = some j → j ∈ ready

section
variable {st : Nat → Stance} {id : Nat} {g : Gate} {x : Hold}

theorem changed_apply (j : Nat) (g' : Gate) :
    changed st id g x j g' = if j = id ∧ g' = g then x else st j g' := by
  by_cases hj : j = id
  · subst hj
    by_cases hg : g' = g
    · subst hg
      simp [changed]
    · simp [changed, hg]
  · simp [changed, hj]

theorem changed_gate : (fun j => changed st id g x j g) = update (fun j => st j g) id x := by
  funext j
  by_cases hj : j = id
  · simp [changed_apply, hj]
  · simp [changed_apply, hj]

theorem changed_other {g' : Gate} (h : g' ≠ g) :
    (fun j => changed st id g x j g') = fun j => st j g' := by
  funext j
  simp [changed_apply, h]

namespace Locks
variable {locks : Gate → Lock} {ready : List Nat}

theorem orderly_changed (h : Locks locks ready st) {l : Lock}
    (hl : l.Orderly (update (fun j => st j g) id x)) (g' : Gate) :
    (update locks g l g').Orderly fun j => changed st id g x j g' := by
  by_cases hg : g' = g
  · subst hg
    rw [changed_gate, update_self]
    exact hl
  · rw [changed_other hg, update_of_ne hg]
    exact h.orderly g'

theorem perm (h : Locks locks ready st) {ready' : List Nat} (hp : ready.Perm ready') :
    Locks locks ready' st where
  orderly := h.orderly
  nodup := hp.nodup_iff.mp h.nodup
  single := h.single
  passed j hj := h.passed j (hp.mem_iff.mpr hj)
  ready j g hw hl := hp.mem_iff.mp (h.ready j g hw hl)

/-- A call that a lock was passed to has the lock that it waits for. -/
theorem holder_of_ready (h : Locks locks ready st) (hm : id ∈ ready) (hw : st id g = .waits) :
    (locks g).holder = some id := by
  obtain ⟨g', hg, hl⟩ := h.passed id hm
  obtain rfl := h.single id g' g hg hw
  exact hl

theorem not_ready (h : Locks locks ready st) (hw : ∀ g, st id g ≠ .waits) : id ∉ ready := by
  intro hm
  obtain ⟨g, hg, -⟩ := h.passed id hm
  exact hw g hg

theorem has_unique (h : Locks locks ready st) {i j : Nat} (hi : st i g = .has)
    (hj : st j g = .has) : i = j :=
  Option.some.inj (((h.orderly g).has i hi).symm.trans ((h.orderly g).has j hj))

theorem request_got (h : Locks locks ready st) (hw : ∀ g, st id g ≠ .waits)
    (ho : st id g = .out) (hr : ((locks g).request id).holder = some id) :
    Locks (update locks g ((locks g).request id)) ready (changed st id g .has) where
  orderly := h.orderly_changed ((h.orderly g).request_got ho (by simp) hr)
  nodup := h.nodup
  single j a a' := by
    simp only [changed_apply]
    split <;> split <;> simp_all
    exact h.single j a a'
  passed j hj := by
    have hn := (h.orderly g).holder_of_request ho hr
    obtain ⟨a, ha, hl⟩ := h.passed j hj
    have hag : a ≠ g := by
      rintro rfl
      simp [hn] at hl
    exact ⟨a, by simp [changed_apply, hag, ha], by simp [update_of_ne hag, hl]⟩
  ready j a ha hl := by
    have hne : ¬(j = id ∧ a = g) := fun e => by simp [changed_apply, e] at ha
    rw [changed_apply, if_neg hne] at ha
    by_cases hag : a = g
    · subst hag
      rw [update_self, hr] at hl
      exact absurd ⟨(Option.some.inj hl).symm, rfl⟩ hne
    · exact h.ready j a ha (by simpa [update_of_ne hag] using hl)

theorem request_waits (h : Locks locks ready st) (hw : ∀ g, st id g ≠ .waits)
    (ho : st id g = .out) (hr : ((locks g).request id).holder ≠ some id) :
    Locks (update locks g ((locks g).request id)) ready (changed st id g .waits) where
  orderly := h.orderly_changed ((h.orderly g).request_waits ho hr)
  nodup := h.nodup
  single j a a' := by
    by_cases hj : j = id
    · subst hj
      simp only [changed_apply, true_and]
      split <;> split <;> simp_all
    · simpa [changed_apply, hj] using h.single j a a'
  passed j hj := by
    have hne : j ≠ id := fun e => h.not_ready hw (e ▸ hj)
    obtain ⟨a, ha, hl⟩ := h.passed j hj
    refine ⟨a, by simpa [changed_apply, hne] using ha, ?_⟩
    by_cases hag : a = g
    · subst hag
      simp [Lock.request, hl]
    · simpa [update_of_ne hag] using hl
  ready j a ha hl := by
    by_cases hag : a = g
    · subst hag
      rw [update_self] at hl
      have hne : j ≠ id := fun e => hr (e ▸ hl)
      cases hh : (locks a).holder with
      | none =>
        simp only [Lock.request, hh] at hl
        exact absurd (Option.some.inj hl).symm hne
      | some k =>
        refine h.ready j a (by simpa [changed_apply, hne] using ha) ?_
        simpa [Lock.request, hh] using hl
    · exact h.ready j a (by simpa [changed_apply, hag] using ha) (by simpa [hag] using hl)

/-- The call that gets a free lock is, until it goes on, one that the lock was passed to. -/
theorem request_passed (h : Locks locks ready st) (hw : ∀ g, st id g ≠ .waits)
    (ho : st id g = .out) (hr : ((locks g).request id).holder = some id) :
    Locks (update locks g ((locks g).request id)) (id :: ready) (changed st id g .waits) where
  orderly := h.orderly_changed ((h.orderly g).request_got ho (by simp) hr)
  nodup := List.nodup_cons.mpr ⟨h.not_ready hw, h.nodup⟩
  single j a a' := by
    by_cases hj : j = id
    · subst hj
      simp only [changed_apply, true_and]
      split <;> split <;> simp_all
    · simpa [changed_apply, hj] using h.single j a a'
  passed j hj := by
    rcases List.mem_cons.mp hj with rfl | hj
    · exact ⟨g, by simp [changed_apply], by simpa using hr⟩
    · obtain ⟨a, ha, hl⟩ := (h.request_got hw ho hr).passed j hj
      have hne : j ≠ id := fun e => h.not_ready hw (e ▸ hj)
      exact ⟨a, by simpa [changed_apply, hne] using ha, hl⟩
  ready j a ha hl := by
    by_cases hj : j = id
    · simp [hj]
    · exact List.mem_cons_of_mem _ ((h.request_got hw ho hr).ready j a
        (by simpa [changed_apply, hj] using ha) hl)

theorem take (h : Locks locks ready st) (hm : st id g = .waits)
    (hl : (locks g).holder = some id) :
    Locks locks (ready.erase id) (changed st id g .has) where
  orderly a := by
    have := h.orderly_changed (g := g) ((h.orderly g).take hl) a
    rwa [update_eq_self] at this
  nodup := h.nodup.erase id
  single j a a' := by
    simp only [changed_apply]
    split <;> split <;> simp_all
    exact h.single j a a'
  passed j hj := by
    obtain ⟨hne, hj⟩ := h.nodup.mem_erase_iff.mp hj
    obtain ⟨a, ha, hl⟩ := h.passed j hj
    exact ⟨a, by simpa [changed_apply, hne] using ha, hl⟩
  ready j a ha hl' := by
    have hne : j ≠ id := by
      rintro rfl
      rw [changed_apply] at ha
      split at ha
      · simp at ha
      · rename_i hag
        exact hag ⟨rfl, h.single j a g ha hm⟩
    exact h.nodup.mem_erase_iff.mpr
      ⟨hne, h.ready j a (by simpa [changed_apply, hne] using ha) hl'⟩

/-- A call that waits for no other lock leaves one. -/
theorem leave (h : Locks locks ready st) (hw : ∀ a, st id a = .waits → a = g) :
    Locks (update locks g ((locks g).leave id)) (ready.erase id ++ (locks g).next id)
      (changed st id g .out) where
  orderly := h.orderly_changed (h.orderly g).leave
  nodup := by
    refine List.nodup_append.mpr ⟨h.nodup.erase id, ?_, ?_⟩
    · unfold Lock.next
      split
      · cases ((locks g).pass).holder <;> simp
      · simp
    · rintro j hj _ hk rfl
      have hm := h.nodup.mem_erase_iff.mp hj
      have hwait := Lock.next_subset hk
      obtain ⟨a, ha, hl⟩ := h.passed j hm.2
      obtain rfl := h.single j a g ha ((h.orderly g).waiting j hwait)
      exact (h.orderly a).waiting_ne_holder hl hwait rfl
  single j a a' := by
    simp only [changed_apply]
    split <;> split <;> simp_all
    exact h.single j a a'
  passed j hj := by
    rcases List.mem_append.mp hj with hj | hj
    · obtain ⟨hne, hm⟩ := h.nodup.mem_erase_iff.mp hj
      obtain ⟨a, ha, hl⟩ := h.passed j hm
      refine ⟨a, by simpa [changed_apply, hne] using ha, ?_⟩
      by_cases hag : a = g
      · subst hag
        rw [update_self]
        exact (Lock.holder_leave j hne).mpr (.inl hl)
      · simpa [hag] using hl
    · have hwait := Lock.next_subset hj
      have hs := (h.orderly g).waiting j hwait
      have hne : j ≠ id := by
        rintro rfl
        unfold Lock.next at hj
        split at hj
        · exact (h.orderly g).waiting_ne_holder ‹_› hwait rfl
        · simp at hj
      refine ⟨g, by simpa [changed_apply, hne] using hs, ?_⟩
      rw [update_self]
      exact (Lock.holder_leave j hne).mpr (.inr hj)
  ready j a ha hl := by
    have hne : j ≠ id := by
      rintro rfl
      rw [changed_apply] at ha
      split at ha
      · simp at ha
      · rename_i hag
        exact hag ⟨rfl, hw a ha⟩
    have ha' : st j a = .waits := by simpa [changed_apply, hne] using ha
    by_cases hag : a = g
    · subst hag
      rw [update_self] at hl
      rcases (Lock.holder_leave j hne).mp hl with hl | hl
      · exact List.mem_append_left _ (h.nodup.mem_erase_iff.mpr ⟨hne, h.ready j a ha' hl⟩)
      · exact List.mem_append_right _ hl
    · exact List.mem_append_left _ (h.nodup.mem_erase_iff.mpr
        ⟨hne, h.ready j a ha' (by simpa [hag] using hl)⟩)

theorem pass (h : Locks locks ready st) (hw : ∀ g, st id g ≠ .waits) (hm : st id g = .has) :
    Locks (update locks g (locks g).pass) (ready ++ (locks g).pass.holder.toList)
      (changed st id g .out) := by
  have hl := (h.orderly g).has id hm
  have := h.leave (g := g) fun a (ha : st id a = .waits) => absurd ha (hw a)
  simpa [Lock.leave, Lock.next, hl, List.erase_of_not_mem (h.not_ready hw)] using this

/-- A call that goes away leaves both locks. -/
theorem leave_both (h : Locks locks ready st) {g' : Gate} (hg : ∀ a, a = g ∨ a = g')
    (hne : g' ≠ g) (hw : st id g' ≠ .waits) :
    Locks (fun a => (locks a).leave id)
      (ready.erase id ++ (locks g).next id ++ (locks g').next id) (update st id fun _ => .out) := by
  have h1 := h.leave (g := g) fun a (ha : st id a = .waits) =>
    (hg a).resolve_right fun e => hw (e ▸ ha)
  have hn : ∀ a, changed st id g .out id a ≠ .waits := by
    intro a
    rcases hg a with rfl | rfl
    · simp [changed_apply]
    · simpa [changed_apply, hne] using hw
  have h2 := h1.leave (g := g') fun a (ha : changed st id g .out id a = .waits) => absurd ha (hn a)
  rw [List.erase_of_not_mem (h1.not_ready hn), update_of_ne hne] at h2
  convert h2 using 1
  · funext a
    rcases hg a with rfl | rfl
    · rw [update_of_ne hne.symm, update_self]
    · rw [update_self]
  · funext j a
    by_cases hj : j = id
    · rcases hg a with rfl | rfl <;> simp [hj, changed_apply]
    · simp [hj, changed_apply]

end Locks

end

end CommandBridge
