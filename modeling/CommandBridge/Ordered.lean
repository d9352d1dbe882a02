/-! Lists of named values in ascending order of their names, each name once. -/
namespace CommandBridge

/-- Puts a value under its name, in place of an earlier one. -/
def insertNamed (name : String) (value : α) : List (String × α) → List (String × α)
  | [] => [(name, value)]
  | (n, v) :: rest =>
    if name < n then (name, value) :: (n, v) :: rest
    else if name = n then (name, value) :: rest
    else (n, v) :: insertNamed name value rest

/-- The names ascend. -/
def Ascending (entries : List (String × α)) : Prop := entries.Pairwise fun a b => a.1 < b.1

theorem mem_insertNamed {name : String} {value : α} {entries : List (String × α)}
    {e : String × α} (h : e ∈ insertNamed name value entries) :
    e = (name, value) ∨ e ∈ entries := by
  induction entries with
  | nil => simpa [insertNamed] using h
  | cons x xs ih =>
    obtain ⟨n, v⟩ := x
    rw [insertNamed] at h
    split at h
    · simpa using h
    · split at h
      · rcases List.mem_cons.1 h with h | h
        · exact .inl h
        · exact .inr (List.mem_cons_of_mem _ h)
      · rcases List.mem_cons.1 h with h | h
        · exact .inr (h ▸ List.mem_cons_self)
        · rcases ih h with h | h
          · exact .inl h
          · exact .inr (List.mem_cons_of_mem _ h)

theorem lt_of_not_lt_of_ne {a b : String} (h : ¬ a < b) (hne : a ≠ b) : b < a := by
  rcases String.le_total b a with hba | hab
  · exact Std.lt_of_le_of_ne hba fun e => hne e.symm
  · exact absurd (Std.lt_of_le_of_ne hab hne) h

theorem ascending_insertNamed {name : String} {value : α} {entries : List (String × α)}
    (h : Ascending entries) : Ascending (insertNamed name value entries) := by
  induction entries with
  | nil => simp [insertNamed, Ascending]
  | cons x xs ih =>
    obtain ⟨n, v⟩ := x
    obtain ⟨hx, hxs⟩ := List.pairwise_cons.1 h
    rw [insertNamed]
    split
    · rename_i hlt
      refine List.pairwise_cons.2 ⟨fun e he => ?_, h⟩
      rcases List.mem_cons.1 he with rfl | he
      · exact hlt
      · exact String.lt_trans hlt (hx e he)
    · split
      · rename_i heq
        subst heq
        exact List.pairwise_cons.2 ⟨hx, hxs⟩
      · rename_i hlt hne
        refine List.pairwise_cons.2 ⟨fun e he => ?_, ih hxs⟩
        rcases mem_insertNamed he with rfl | he
        · exact lt_of_not_lt_of_ne hlt hne
        · exact hx e he

end CommandBridge
