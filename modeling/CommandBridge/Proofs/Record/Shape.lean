import CommandBridge.Proofs.Record.Depth

/-! Flattened objects as trees. However objects refer to each other, flattening comes to an end, and
what it gives has a bounded depth and the shape that its rules promise. -/
namespace CommandBridge

universe u

variable {ρ : Type u}

namespace Flattened

/-- A function that flattens an object by its depth: below the limit it goes on one level deeper. -/
def Descends (v : View ρ) (f : ρ → Nat → Flattened) : Prop :=
  ∀ r d, f r d = if maxDepth < d then string (v.render r) else ofLevel v (f · (d + 1)) r

/-- A tree of at most so many lists and maps inside each other. The names in a map ascend, and null
stands only as a value in a map. -/
inductive Shaped : Nat → Flattened → Prop where
  | scalar {n : Nat} (s : Scalar) : Shaped n (scalar s)
  | list {n : Nat} {items : List Flattened} (h : ∀ f ∈ items, Shaped n f) :
      Shaped (n + 1) (list items)
  | map {n : Nat} {entries : List (String × Flattened)} (hnames : Ascending entries)
      (h : ∀ e ∈ entries, e.2 ≠ null → Shaped n e.2) : Shaped (n + 1) (map entries)

section
variable {v : View ρ} {r : ρ} {d : Nat}

theorem flatten_below (h : maxDepth < d) : flatten v r d = string (v.render r) := by
  have hlevels : maxDepth + 1 - d = 0 := by omega
  rw [flatten, hlevels, ofLevels]

theorem flatten_within (h : d ≤ maxDepth) :
    flatten v r d = ofLevel v (flatten v · (d + 1)) r := by
  have hlevels : maxDepth + 1 - d = (maxDepth + 1 - (d + 1)) + 1 := by omega
  rw [flatten, hlevels, ofLevels]
  rfl

theorem descends_flatten (v : View ρ) : Descends v (flatten v) := by
  intro r d
  by_cases h : maxDepth < d
  · rw [if_pos h, flatten_below h]
  · rw [if_neg h, flatten_within (by omega)]

/-- The induction is on the levels that are left: every call goes one level deeper. -/
theorem Descends.eq_flatten {f : ρ → Nat → Flattened} (h : Descends v f) (r : ρ) (d : Nat) :
    f r d = flatten v r d := by
  induction hn : maxDepth + 1 - d generalizing r d with
  | zero =>
    have hdeep : maxDepth < d := by omega
    rw [h, if_pos hdeep, flatten_below hdeep]
  | succ n ih =>
    have hbelow : (f · (d + 1)) = (flatten v · (d + 1)) := by
      funext x
      apply ih
      omega
    rw [h, if_neg (by omega), hbelow, flatten_within (by omega)]

/-! ### The shape of the tree -/

/-- A value in the map of an object belongs to one of its readable properties. -/
theorem exists_readable {flat : ρ → Flattened} {e : String × Flattened}
    (h : e ∈ enterAll (ofProperty flat) (v.readable r) []) :
    ∃ x, (e.1, x) ∈ v.readable r ∧ e.2 = ofProperty flat x := by
  have hasc := ascending_enterAll (ofProperty flat) (v.readable r) List.Pairwise.nil
  have hfound := hasc.mem_iff.mp h
  rw [lookup_enterAll, List.lookup_nil, Option.or_none] at hfound
  obtain ⟨x, hx, heq⟩ := Option.map_eq_some_iff.mp hfound
  exact ⟨x, mem_of_lookup_reverse hx, heq.symm⟩

/-- One more level has the shape if the levels below have it. -/
theorem shaped_ofLevel {n : Nat} {flat : ρ → Flattened} (h : ∀ x, Shaped n (flat x)) :
    Shaped (n + 1) (ofLevel v flat r) := by
  cases hs : v.scalar? r with
  | some s =>
    rw [ofLevel_scalar hs]
    exact .scalar s
  | none =>
    cases he : v.enumName? r with
    | some name =>
      rw [ofLevel_enumerated hs he]
      exact .scalar _
    | none =>
      cases hl : v.elements? r with
      | some elements =>
        rw [ofLevel_collection hs he hl]
        apply Shaped.list
        intro f hf
        obtain ⟨x, -, hx⟩ := List.mem_filterMap.mp hf
        obtain ⟨x, -, rfl⟩ := Option.map_eq_some_iff.mp hx
        exact h x
      | none =>
        cases hr : isSimple (v.render r) with
        | true =>
          rw [ofLevel_simple hs he hl hr]
          exact .scalar _
        | false =>
          rw [ofLevel_properties hs he hl hr]
          apply Shaped.map
          · exact ascending_enterAll _ _ List.Pairwise.nil
          · intro e hmem hne
            obtain ⟨x, -, hx⟩ := exists_readable hmem
            cases x with
            | none => exact absurd hx hne
            | some x => exact hx ▸ h x

theorem shaped_ofLevels (v : View ρ) (n : Nat) (r : ρ) : Shaped n (ofLevels v n r) := by
  induction n generalizing r with
  | zero => exact .scalar _
  | succ n ih => exact shaped_ofLevel ih

/-- Only an object that is expanded by its properties becomes a map. -/
theorem eq_of_ofLevel_map {flat : ρ → Flattened} {entries : List (String × Flattened)}
    (h : ofLevel v flat r = map entries) :
    entries = enterAll (ofProperty flat) (v.readable r) [] := by
  cases hs : v.scalar? r with
  | some s =>
    rw [ofLevel_scalar hs] at h
    cases h
  | none =>
    cases he : v.enumName? r with
    | some name =>
      rw [ofLevel_enumerated hs he] at h
      cases h
    | none =>
      cases hl : v.elements? r with
      | some elements =>
        rw [ofLevel_collection hs he hl] at h
        cases h
      | none =>
        cases hr : isSimple (v.render r) with
        | true =>
          rw [ofLevel_simple hs he hl hr] at h
          cases h
        | false =>
          rw [ofLevel_properties hs he hl hr] at h
          exact (Flattened.map.inj h).symm

/-- The names in a map are those of the readable properties, and the last property of a name is the
one that counts. -/
structure Listed (v : View ρ) (r : ρ) (flat : ρ → Flattened)
    (entries : List (String × Flattened)) : Prop where
  ascending : Ascending entries
  names : ∀ name, name ∈ entries.map Prod.fst ↔ ∃ x, (name, x) ∈ v.readable r
  last : ∀ before name x after, v.readable r = before ++ (name, x) :: after →
    (∀ y, (name, y) ∉ after) → (name, ofProperty flat x) ∈ entries

theorem lookup_reverse_eq_some {α : Type u} {named before after : List (String × α)} {name : String}
    {x : α} (h : named = before ++ (name, x) :: after) (hlast : ∀ y, (name, y) ∉ after) :
    named.reverse.lookup name = some x := by
  apply List.lookup_eq_some_iff.mpr
  refine ⟨after.reverse, before.reverse, by simp [h], ?_⟩
  intro e he
  have hne : name ≠ e.1 := by
    rintro rfl
    exact hlast e.2 (List.mem_reverse.mp he)
  simpa using hne

theorem listed_enterAll (v : View ρ) (r : ρ) (flat : ρ → Flattened) :
    Listed v r flat (enterAll (ofProperty flat) (v.readable r) []) := by
  have hasc := ascending_enterAll (ofProperty flat) (v.readable r) List.Pairwise.nil
  refine ⟨hasc, ?_, ?_⟩
  · intro name
    constructor
    · intro hname
      obtain ⟨e, he, rfl⟩ := List.mem_map.mp hname
      obtain ⟨x, hx, -⟩ := exists_readable he
      exact ⟨x, hx⟩
    · rintro ⟨x, hx⟩
      have hsome : ((v.readable r).reverse.lookup name).isSome = true := by
        rw [List.lookup_isSome_iff]
        exact ⟨(name, x), List.mem_reverse.mpr hx, beq_self_eq_true name⟩
      obtain ⟨y, hy⟩ := Option.isSome_iff_exists.mp hsome
      have hmem : (name, ofProperty flat y) ∈ enterAll (ofProperty flat) (v.readable r) [] := by
        rw [hasc.mem_iff, lookup_enterAll, hy]
        rfl
      exact List.mem_map_of_mem hmem
  · intro before name x after h hlast
    rw [hasc.mem_iff, lookup_enterAll, lookup_reverse_eq_some h hlast]
    rfl

/-- Flattening is the only function that goes down as it does, so cycles among the objects leave
nothing open. At any depth it gives a tree of a limited depth. Above the limit a collection becomes
the list of its elements without the null ones, and what becomes a map is listed by its readable
properties. -/
theorem flatten_shaped (v : View ρ) :
    (∀ f, Descends v f ↔ f = flatten v) ∧
    ∀ r d, Shaped (maxDepth + 1 - d) (flatten v r d) ∧
      (∀ elements, d ≤ maxDepth → v.scalar? r = none → v.enumName? r = none →
        v.elements? r = some elements →
          flatten v r d = list ((elements.filterMap id).map (flatten v · (d + 1)))) ∧
      ∀ entries, flatten v r d = map entries → Listed v r (flatten v · (d + 1)) entries := by
  refine ⟨?_, fun r d => ⟨shaped_ofLevels v _ r, ?_, ?_⟩⟩
  · intro f
    constructor
    · intro h
      funext r d
      exact h.eq_flatten r d
    · rintro rfl
      exact descends_flatten v
  · intro elements hd hs he h
    rw [flatten_within hd, ofLevel_collection hs he h, List.map_filterMap]
    rfl
  · intro entries h
    by_cases hd : d ≤ maxDepth
    · rw [flatten_within hd] at h
      rw [eq_of_ofLevel_map h]
      exact listed_enterAll v r _
    · rw [flatten_below (by omega)] at h
      cases h

end

/-- A collection that holds itself and an object that has the collection for a property. -/
def knot : Graph :=
  [⟨"\x7b", none, none, none,
    [("Next", .ok (some 0)), ("Held", .ok (some 1)), ("Quota", .error "getter failed"),
      ("Next", .ok none)]⟩,
    ⟨"items", none, none, some [some 0, none, some 1], []⟩]

/-- Of the two properties of one name the empty one comes last. -/
theorem flatten_shaped_knot :
    Descends knot.view (flatten knot.view) ∧
    (Shaped (maxDepth + 1 - 4) (flatten knot.view 1 4) ∧ 4 ≤ maxDepth ∧
      knot.view.scalar? 1 = none ∧ knot.view.enumName? 1 = none ∧
      knot.view.elements? 1 = some [some 0, none, some 1] ∧
      flatten knot.view 1 4 = list [flatten knot.view 0 5, flatten knot.view 1 5]) ∧
    flatten knot.view 0 5 = map [("Held", string "items"), ("Next", null)] ∧
    Listed knot.view 0 (flatten knot.view · 6) [("Held", string "items"), ("Next", null)] := by
  obtain ⟨hdescends, hall⟩ := flatten_shaped knot.view
  obtain ⟨hshape, hlist, -⟩ := hall 1 4
  obtain ⟨-, -, hmap⟩ := hall 0 5
  have hlimit : 4 ≤ maxDepth := by decide
  have hflat : flatten knot.view 0 5 = map [("Held", string "items"), ("Next", null)] := rfl
  refine ⟨(hdescends _).mpr rfl, ⟨hshape, hlimit, rfl, rfl, rfl, ?_⟩, hflat, hmap _ hflat⟩
  exact hlist _ hlimit rfl rfl rfl

end Flattened
end CommandBridge
