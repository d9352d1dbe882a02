import CommandBridge.Ordered
import Mathlib.Data.List.Sort

/-! Lists of named values by what is found under each name. -/
namespace CommandBridge

universe u w

variable {α : Type u} {β : Type w}

theorem lookup_cons_eq (e : String × α) (entries : List (String × α)) (k : String) :
    (e :: entries).lookup k = if k = e.1 then some e.2 else entries.lookup k := by
  rw [List.lookup_cons]
  by_cases hk : k = e.1
  · simp [hk]
  · simp [hk, beq_eq_false_iff_ne.mpr hk]

theorem mem_of_lookup_reverse {named : List (String × α)} {k : String} {x : α}
    (h : named.reverse.lookup k = some x) : (k, x) ∈ named := by
  obtain ⟨l, l', hl, -⟩ := List.lookup_eq_some_iff.mp h
  rw [← List.mem_reverse, hl]
  exact List.mem_append_right l List.mem_cons_self

theorem lookup_map_self (f : String → α) (names : List String) (k : String) :
    (names.map fun n => (n, f n)).lookup k = if k ∈ names then some (f k) else none := by
  induction names with
  | nil => rfl
  | cons n names ih =>
    rw [List.map_cons, lookup_cons_eq, ih]
    by_cases hk : k = n
    · simp [hk]
    · simp [hk]

theorem lookup_insertNamed (name : String) (value : α) (entries : List (String × α)) (k : String) :
    (insertNamed name value entries).lookup k =
      if k = name then some value else entries.lookup k := by
  induction entries with
  | nil => simp [insertNamed, lookup_cons_eq]
  | cons e entries ih =>
    obtain ⟨n, v⟩ := e
    rw [insertNamed]
    split
    · exact lookup_cons_eq _ _ k
    · split
      · rename_i heq
        subst heq
        by_cases hk : k = name <;> simp [lookup_cons_eq, hk]
      · rename_i hne
        rw [lookup_cons_eq, lookup_cons_eq, ih]
        by_cases hk : k = n
        · simp [hk, Ne.symm hne]
        · simp [hk]

theorem Ascending.mem_iff {entries : List (String × α)} (h : Ascending entries) {e : String × α} :
    e ∈ entries ↔ entries.lookup e.1 = some e.2 := by
  induction entries with
  | nil => simp
  | cons x entries ih =>
    obtain ⟨hx, htail⟩ := List.pairwise_cons.mp h
    rw [List.mem_cons, lookup_cons_eq]
    by_cases hn : e.1 = x.1
    · have hout : e ∉ entries := fun hm => absurd (hx e hm) (hn ▸ String.lt_irrefl e.1)
      simp [hn, hout, Prod.ext_iff, eq_comm]
    · have hne : e ≠ x := fun he => hn (congrArg Prod.fst he)
      simp [hn, hne, ih htail]

/-- What is found under each name is all there is to such a list. -/
theorem Ascending.ext {a b : List (String × α)} (ha : Ascending a) (hb : Ascending b)
    (h : ∀ name, a.lookup name = b.lookup name) : a = b := by
  have : Std.Irrefl fun x y : String × α => x.1 < y.1 := ⟨fun x => String.lt_irrefl x.1⟩
  have : Std.Antisymm fun x y : String × α => x.1 < y.1 :=
    ⟨fun x y hxy hyx => absurd (String.lt_trans hxy hyx) (String.lt_irrefl x.1)⟩
  apply List.Pairwise.eq_of_mem_iff ha hb
  intro e
  rw [ha.mem_iff, hb.mem_iff, h]

/-- Each value is entered under its name, with `f` applied to it. -/
def enterAll (f : β → α) (named : List (String × β)) (entries : List (String × α)) :
    List (String × α) :=
  named.foldl (fun entries e => insertNamed e.1 (f e.2) entries) entries

theorem ascending_enterAll (f : β → α) (named : List (String × β)) {entries : List (String × α)}
    (h : Ascending entries) : Ascending (enterAll f named entries) := by
  induction named generalizing entries with
  | nil => exact h
  | cons e named ih => exact ih (ascending_insertNamed h)

/-- The last value of a name counts. -/
theorem lookup_enterAll (f : β → α) (named : List (String × β)) (entries : List (String × α))
    (k : String) : (enterAll f named entries).lookup k =
      ((named.reverse.lookup k).map f).or (entries.lookup k) := by
  induction named generalizing entries with
  | nil => simp [enterAll]
  | cons e named ih =>
    have hrest : enterAll f (e :: named) entries =
        enterAll f named (insertNamed e.1 (f e.2) entries) := rfl
    rw [hrest, ih, List.reverse_cons, List.lookup_append, lookup_insertNamed]
    cases hl : named.reverse.lookup k with
    | some x => simp
    | none => by_cases hk : k = e.1 <;> simp [lookup_cons_eq, hk]

end CommandBridge
