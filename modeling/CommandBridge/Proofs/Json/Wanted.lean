import CommandBridge.Json.Wanted
import CommandBridge.Proofs.Json.RoundTrip
import CommandBridge.Proofs.Json.Skipping

/-! Of the text of an object only the wanted members are read. -/
namespace CommandBridge.Json

/-- The text of `j` is read as `j'`, where a text goes on behind it. -/
def ReadsAs (read : DepthReader) (depth : Nat) (j j' : Json) : Prop :=
  ∀ rest, Ended rest → read depth (j.print ++ rest) = .ok (j', rest)

/-- The members `ms` without those that are not wanted. -/
inductive Kept (wanted : List (String × DepthReader)) (depth : Nat) :
    List (String × Json) → List (String × Json) → Prop
  | nil : Kept wanted depth [] []
  | wanted {k j j' read ms ms'} (hk : wanted.lookup k = some read)
      (hj : ReadsAs read depth j j') (h : Kept wanted depth ms ms') :
      Kept wanted depth ((k, j) :: ms) ((k, j') :: ms')
  | unwanted {k j d ms ms'} (hk : wanted.lookup k = none) (hj : j.ReadsOff d)
      (h : Kept wanted depth ms ms') : Kept wanted depth ((k, j) :: ms) ms'

variable {wanted : List (String × DepthReader)} {depth : Nat}

theorem foldsItems_readsAs {item : DepthReader} {js js' : List Json}
    (h : List.Forall₂ (ReadsAs item depth) js js') (acc : List Json) :
    FoldsItems (consItem (item depth)) acc js (js'.reverse ++ acc) := by
  induction h generalizing acc with
  | nil => rfl
  | cons hj _ ih =>
    refine ⟨_, fun rest hrest => by rw [consItem, hj rest hrest], ?_⟩
    rw [List.reverse_cons, List.append_assoc, List.singleton_append]
    exact ih _

theorem readsAs_listOf {item : DepthReader} {js js' : List Json}
    (h : List.Forall₂ (ReadsAs item depth) js js') :
    ReadsAs (listOf item) (depth + 1) (array js) (array js') := by
  intro rest _
  have hfuel : js.length < (printItems js ++ rest).length + 1 := by
    have := length_le_printItems js
    rw [List.length_append]
    omega
  rw [print, List.cons_append, listOf, skipSpace_cons rfl]
  simp only [elements_print (foldsItems_readsAs h []) hfuel rest, List.append_nil,
    List.reverse_reverse]

theorem foldsMembers_kept {ms ms' : List (String × Json)} (h : Kept wanted depth ms ms')
    (acc : List (String × Json)) :
    FoldsMembers (wantedMember wanted depth) acc ms (ms'.reverse ++ acc) := by
  induction h generalizing acc with
  | nil => rfl
  | @wanted k j j' read ms ms' hk hj _ ih =>
    refine ⟨(k, j') :: acc, fun rest hrest => ?_, ?_⟩
    · simp only [wantedMember, hk]
      exact consMember_print (hj rest hrest) acc k
    · rw [List.reverse_cons, List.append_assoc, List.singleton_append]
      exact ih _
  | @unwanted k j d ms ms' hk hj _ ih =>
    refine ⟨acc, fun rest hrest => ?_, ih acc⟩
    have hskip : skipMember skip (':' :: (j.print ++ rest)) = .ok ((), rest) :=
      skips_value d (hj rest hrest)
    simp only [wantedMember, hk, hskip]

/-- What an unwanted member says does not matter. -/
theorem readsAs_structOf {ms ms' : List (String × Json)} (h : Kept wanted depth ms ms') :
    ReadsAs (structOf wanted) (depth + 1) (object ms) (object ms') := by
  intro rest _
  have hfuel : ms.length < (printMembers ms ++ rest).length + 1 := by
    have := length_le_printMembers ms
    rw [List.length_append]
    omega
  rw [print, List.cons_append, structOf, skipSpace_cons rfl]
  simp only [members_print (foldsMembers_kept h []) hfuel rest, List.append_nil,
    List.reverse_reverse]

example : (whole (structOf [("id", value)])
    "\x7b\"id\": \"s1\", \"till\": [1e999]\x7d").toOption.map compact =
      some "\x7b\"id\":\"s1\"\x7d" := by decide +kernel

theorem ReadsAs.whole {read : DepthReader} {j j' : Json} (h : ReadsAs read maxDepth j j') :
    whole read j.compact = .ok j' := by
  rw [Json.whole, compact, String.toList_ofList]
  refine complete_eq_ok.mpr ⟨[], ?_, rfl⟩
  have hread := h [] .nil
  rwa [List.append_nil] at hread

end CommandBridge.Json
