import CommandBridge.Proofs.Bridge.Stance

/-! Invocations and shutdowns take turns: each does all it does within its turn, and turns come in
the order in which they were asked for. -/
namespace CommandBridge

open Function

/-- What ends a part of two lists put together either is in the second or ends a part of the
first. -/
theorem sublist_or_mem_of_append {α : Type} {l s t : List α} {x : α}
    (h : (l ++ [x]).Sublist (s ++ t)) : (l ++ [x]).Sublist s ∨ x ∈ t := by
  obtain ⟨l₁, l₂, he, hs, ht⟩ := List.sublist_append_iff.mp h
  rcases List.eq_nil_or_concat l₂ with rfl | ⟨l₂, y, rfl⟩
  · left
    rwa [he, List.append_nil]
  · right
    rw [List.concat_eq_append, ← List.append_assoc] at he
    obtain rfl : x = y := by simpa using (List.append_inj' he rfl).2
    exact ht.subset (by simp)

theorem of_update_ne {α β : Type} [DecidableEq α] {f : α → β} {i j : α} {x y : β}
    (h : update f i y j = x) (hxy : y ≠ x) : j ≠ i ∧ f j = x := by
  have hj : j ≠ i := by
    rintro rfl
    exact hxy (by simpa using h)
  exact ⟨hj, by simpa [hj] using h⟩

/-- The lock that calls take turns with, as they stand to it. `trace` tells whose doing each thing
that happened was, `runs` which of the calls have anything to start, and `gone` which have been
stopped. -/
structure Serial (lock : Lock) (hold : Nat → Hold) (runs gone : Nat → Prop)
    (trace started finished : List Nat) : Prop where
  line : (lock.holder.toList ++ lock.waiting).Pairwise (· < ·)
  came : ∀ j, hold j = .waits → j ∉ trace
  later : ∀ j, hold j = .waits → ∀ k ∈ started, k < j
  alone : ∀ j k, hold j = .has → [j, k].Sublist trace → k = j
  apart : ∀ j k, [j, k, j].Sublist trace → k = j
  sorted : started.Pairwise (· < ·)
  running : ∀ j ∈ started, runs j
  begun : ∀ j, hold j = .has → runs j → j ∈ started
  skipped : ∀ j, hold j = .out → runs j → j ∈ started ∨ gone j
  done : ∀ j, hold j = .out → j ∈ started → j ∈ finished ∨ gone j

namespace Serial
variable {lock : Lock} {hold : Nat → Hold} {runs gone runs' gone' : Nat → Prop}
variable {trace started finished started' finished' t : List Nat} {id : Nat}

theorem new (h : ∀ j, hold j = .out) (hr : ∀ j, ¬ runs j) :
    Serial .free hold runs gone [] [] [] := by
  refine ⟨?_, ?_, ?_, ?_, ?_, ?_, ?_, ?_, ?_, ?_⟩ <;> simp [Lock.free, h, hr]

/-- Nothing happens to the turns. -/
theorem mono (h : Serial lock hold runs gone trace started finished)
    (hr : ∀ j, runs' j → runs j) (hr' : ∀ j ∈ started, runs' j) (hg : ∀ j, gone j → gone' j) :
    Serial lock hold runs' gone' trace started finished :=
  { h with
    running := hr'
    begun := fun j hj hr₁ => h.begun j hj (hr j hr₁)
    skipped := fun j hj hr₁ => (h.skipped j hj (hr j hr₁)).imp_right (hg j)
    done := fun j hj hm => (h.done j hj hm).imp_right (hg j) }

theorem mono_gone (h : Serial lock hold runs gone trace started finished)
    (hg : ∀ j, gone j → gone' j) : Serial lock hold runs gone' trace started finished :=
  h.mono (fun _ hr => hr) h.running hg

/-- A call that comes after all others asks for its turn. -/
theorem ask (h : Serial lock hold runs gone trace started finished) (ho : lock.Orderly hold)
    (hl : ∀ j ∈ lock.holder.toList ++ lock.waiting, j < id) (hs : ∀ j ∈ started, j < id)
    (ht : id ∉ trace) (hr : ∀ j, j ≠ id → (runs' j ↔ runs j))
    (hg : ∀ j, j ≠ id → gone j → gone' j) :
    Serial (lock.request id) (update hold id .waits) runs' gone' trace started finished where
  line := by
    unfold Lock.request
    split
    · rename_i hn
      simp [ho.idle hn]
    · rename_i hn
      rw [← List.append_assoc, List.pairwise_append]
      exact ⟨h.line, by simp, by simpa using hl⟩
  came j hj := by
    by_cases hji : j = id
    · rwa [hji]
    · exact h.came j (by simpa [hji] using hj)
  later j hj := by
    by_cases hji : j = id
    · rwa [hji]
    · exact h.later j (by simpa [hji] using hj)
  alone j k hj := h.alone j k (of_update_ne hj (by simp)).2
  apart := h.apart
  sorted := h.sorted
  running j hj := (hr j (Nat.ne_of_lt (hs j hj))).mpr (h.running j hj)
  begun j hj hr' := by
    obtain ⟨hji, hj⟩ := of_update_ne hj (by simp)
    exact h.begun j hj ((hr j hji).mp hr')
  skipped j hj hr' := by
    obtain ⟨hji, hj⟩ := of_update_ne hj (by simp)
    exact (h.skipped j hj ((hr j hji).mp hr')).imp_right (hg j hji)
  done j hj hm := by
    obtain ⟨hji, hj⟩ := of_update_ne hj (by simp)
    exact (h.done j hj hm).imp_right (hg j hji)

theorem apart_append (h : Serial lock hold runs gone trace started finished)
    (hid : ∀ k, [id, k].Sublist trace → k = id) (ht : ∀ j ∈ t, j = id) (j k : Nat)
    (hjk : [j, k, j].Sublist (trace ++ t)) : k = j := by
  rcases sublist_or_mem_of_append (l := [j, k]) hjk with hs | hm
  · exact h.apart j k hs
  · obtain rfl := ht j hm
    have hs : [j, k].Sublist (trace ++ t) := (List.sublist_append_left [j, k] [j]).trans hjk
    rcases sublist_or_mem_of_append (l := [j]) hs with hs | hm
    · exact hid k hs
    · exact ht k hm

/-- The call that has its turn does something. -/
theorem act (h : Serial lock hold runs gone trace started finished) (ho : lock.Orderly hold)
    (hid : hold id = .has) (ht : ∀ j ∈ t, j = id) :
    Serial lock hold runs gone (trace ++ t) started finished :=
  { h with
    came := by
      intro j hj hm
      rcases List.mem_append.mp hm with hm | hm
      · exact h.came j hj hm
      · simp [ht j hm, hid] at hj
    alone := by
      intro j k hj hs
      obtain rfl : id = j := Option.some.inj ((ho.has id hid).symm.trans (ho.has j hj))
      rcases sublist_or_mem_of_append (l := [id]) hs with hs | hm
      · exact h.alone id k hj hs
      · exact ht k hm
    apart := h.apart_append (fun k => h.alone id k hid) ht }

/-- The call whose turn has come goes on, and starts if it has anything to start. -/
theorem begin (h : Serial lock hold runs gone trace started finished) (ho : lock.Orderly hold)
    (hid : hold id = .waits) (hl : lock.holder = some id) (ht : ∀ j ∈ t, j = id)
    (hs : started' = started ++ [id] ∧ runs id ∨ started' = started ∧ ¬ runs id) :
    Serial lock (update hold id .has) runs gone (trace ++ t) started' finished := by
  have fresh (k : Nat) : ¬ [id, k].Sublist trace := fun hk =>
    h.came id hid (hk.subset (by simp))
  have mem (j : Nat) (hj : j ∈ started') : j ∈ started ∨ j = id ∧ runs id := by
    rcases hs with ⟨rfl, hr⟩ | ⟨rfl, -⟩
    · simpa [hr] using hj
    · exact .inl hj
  have sub (j : Nat) (hj : j ∈ started) : j ∈ started' := by
    rcases hs with ⟨rfl, -⟩ | ⟨rfl, -⟩
    · exact List.mem_append_left _ hj
    · exact hj
  have line := h.line
  rw [hl] at line
  exact {
    line := h.line
    came := by
      intro j hj hm
      obtain ⟨hji, hj⟩ := of_update_ne hj (by simp)
      rcases List.mem_append.mp hm with hm | hm
      · exact h.came j hj hm
      · exact hji (ht j hm)
    later := by
      intro j hj k hk
      obtain ⟨hji, hw⟩ := of_update_ne hj (by simp)
      rcases mem k hk with hk | ⟨rfl, -⟩
      · exact h.later j hw k hk
      · rcases ho.inLine j hw with hh | hm
        · exact absurd (Option.some.inj (hl.symm.trans hh)).symm hji
        · exact (List.pairwise_cons.mp line).1 j hm
    alone := by
      intro j k hj hk
      by_cases hji : j = id
      · subst hji
        rcases sublist_or_mem_of_append (l := [j]) hk with hk | hm
        · exact absurd hk (fresh k)
        · exact ht k hm
      · have hj : hold j = .has := by simpa [hji] using hj
        exact absurd (Option.some.inj ((ho.has j hj).symm.trans hl)) hji
    apart := h.apart_append (fun k hk => absurd hk (fresh k)) ht
    sorted := by
      rcases hs with ⟨rfl, -⟩ | ⟨rfl, -⟩
      · refine List.pairwise_append.mpr ⟨h.sorted, by simp, fun k hk j hj => ?_⟩
        obtain rfl : j = id := by simpa using hj
        exact h.later j hid k hk
      · exact h.sorted
    running := by
      intro j hj
      rcases mem j hj with hj | ⟨rfl, hr⟩
      · exact h.running j hj
      · exact hr
    begun := by
      intro j hj hr
      by_cases hji : j = id
      · subst hji
        rcases hs with ⟨rfl, -⟩ | ⟨-, hn⟩
        · simp
        · exact absurd hr hn
      · exact sub j (h.begun j (by simpa [hji] using hj) hr)
    skipped := by
      intro j hj hr
      obtain ⟨-, hj⟩ := of_update_ne hj (by simp)
      exact (h.skipped j hj hr).imp_left (sub j)
    done := by
      intro j hj hm
      obtain ⟨hji, hj⟩ := of_update_ne hj (by simp)
      rcases mem j hm with hm | ⟨rfl, -⟩
      · exact h.done j hj hm
      · exact absurd rfl hji }

/-- A call gives its turn up, or its place in the line. -/
theorem leave (h : Serial lock hold runs gone trace started finished)
    (hf : ∀ j ∈ finished, j ∈ finished')
    (hid : hold id = .has ∧ (runs id → id ∈ finished') ∨ gone' id)
    (hg : ∀ j, gone j → gone' j) :
    Serial (lock.leave id) (update hold id .out) runs gone' trace started finished' where
  line := by
    unfold Lock.leave
    split
    · rename_i hl
      have := h.line
      rw [hl] at this
      have hw := (List.pairwise_cons.mp this).2
      cases hq : lock.waiting with
      | nil => simp [Lock.pass, hq]
      | cons k rest => simpa [Lock.pass, hq] using hw
    · exact h.line.sublist ((List.Sublist.refl _).append List.erase_sublist)
  came j hj := h.came j (of_update_ne hj (by simp)).2
  later j hj := h.later j (of_update_ne hj (by simp)).2
  alone j k hj := h.alone j k (of_update_ne hj (by simp)).2
  apart := h.apart
  sorted := h.sorted
  running := h.running
  begun j hj := h.begun j (of_update_ne hj (by simp)).2
  skipped j hj hr := by
    by_cases hji : j = id
    · subst hji
      rcases hid with ⟨hj, -⟩ | hj
      · exact .inl (h.begun j hj hr)
      · exact .inr hj
    · exact (h.skipped j (by simpa [hji] using hj) hr).imp_right (hg j)
  done j hj hm := by
    by_cases hji : j = id
    · subst hji
      exact hid.imp_left fun hj => hj.2 (h.running j hm)
    · exact (h.done j (by simpa [hji] using hj) hm).imp (hf j) (hg j)

end Serial
end CommandBridge
