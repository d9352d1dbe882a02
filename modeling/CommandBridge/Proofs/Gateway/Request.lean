import CommandBridge.Gateway.Endpoint
import CommandBridge.Proofs.Json.RoundTrip
import CommandBridge.Proofs.Text.Base64

/-! The body of a pipeline request says everything about the invocation, stage by stage. -/
namespace CommandBridge

theorem Http.of_build {method : Method} {address : String} {authorization : Option String}
    {body : Option Json} {r : Request}
    (h : Request.build method address authorization body = .ok r) :
    r.method = method ∧ r.body = body := by
  rw [Request.build] at h
  split at h
  · cases h
  · split at h
    · cases h
    · split at h
      · cases h
      · split at h
        split at h
        · cases h
        · split at h
          · cases h
          · cases h
            exact ⟨rfl, rfl⟩

namespace Gateway

open Command (OutOfBand Parameter Pipeline Stage Value)

theorem strings_injective {a b : List String} (h : Json.strings a = Json.strings b) : a = b :=
  (List.map_inj_right fun _ _ => Json.string.inj).mp (Json.array.inj h)

theorem valueJson_injective {a b : Value} (h : a.toJson = b.toJson) : a = b := by
  cases a <;> cases b <;> simp only [Value.toJson, Json.strings, reduceCtorEq, Json.bool.injEq,
    Json.int.injEq, Json.string.injEq] at h
  case null.null => rfl
  case bool.bool => rw [h]
  case int.int => rw [Int64.toInt_inj.mp h]
  case string.string => rw [h]
  case list.list => rw [strings_injective h]

/-- Names tell named and positional parameters apart. -/
theorem parameterJson_injective {a b : Parameter} (h : parameterJson a = parameterJson b) :
    a = b := by
  cases a <;> cases b <;> simp only [parameterJson, Json.object.injEq, List.cons.injEq,
    Prod.mk.injEq, Json.string.injEq, true_and, and_true, reduceCtorEq, and_false] at h
  case named.named => rw [h.1, valueJson_injective h.2]
  case positional.positional => rw [strings_injective h]

theorem valueJson_ne_object (v : Value) (ms : List (String × Json)) : v.toJson ≠ .object ms := by
  cases v <;> simp [Value.toJson, Json.strings]

theorem outOfBandJson_injective {a b : OutOfBand} (h : outOfBandJson a = outOfBandJson b) :
    a = b := by
  cases a with
  | binary bytes =>
    cases b with
    | binary bytes' =>
      simp only [outOfBandJson, Json.object.injEq, List.cons.injEq, Prod.mk.injEq,
        Json.string.injEq, true_and, and_true, String.ofList_inj] at h
      rw [Text.base64_injective h]
    | secret s => simp [outOfBandJson] at h
    | value v => exact absurd h.symm (valueJson_ne_object v _)
  | secret s =>
    cases b with
    | binary bytes => simp [outOfBandJson] at h
    | secret s' =>
      simp only [outOfBandJson, Json.object.injEq, List.cons.injEq, Prod.mk.injEq,
        Json.string.injEq, true_and, and_true] at h
      obtain ⟨text⟩ := s
      obtain ⟨text'⟩ := s'
      rw [show text = text' from h]
    | value v => exact absurd h.symm (valueJson_ne_object v _)
  | value v =>
    cases b with
    | binary bytes => exact absurd h (valueJson_ne_object v _)
    | secret s => exact absurd h (valueJson_ne_object v _)
    | value w => rw [valueJson_injective h]

theorem extraJson_injective {a b : String × OutOfBand} (h : extraJson a = extraJson b) : a = b := by
  simp only [extraJson, Json.object.injEq, List.cons.injEq, Prod.mk.injEq, Json.string.injEq,
    true_and, and_true] at h
  exact Prod.ext h.1 (outOfBandJson_injective h.2)

theorem stageJson_injective {s t : Stage} {a b : List (String × OutOfBand)}
    (hlength : a.length = b.length) (h : stageJson s a = stageJson t b) : s = t ∧ a = b := by
  simp only [stageJson, Json.object.injEq, List.cons.injEq, Prod.mk.injEq, Json.string.injEq,
    Json.array.injEq, true_and, and_true] at h
  obtain ⟨hname, hall⟩ := h
  obtain ⟨hparameters, hextras⟩ := List.append_inj' hall (by simp [hlength])
  have hparameters := (List.map_inj_right fun _ _ => parameterJson_injective).mp hparameters
  have hextras := (List.map_inj_right fun _ _ => extraJson_injective).mp hextras
  obtain ⟨name, parameters⟩ := s
  obtain ⟨name', parameters'⟩ := t
  exact ⟨by rw [show name = name' from hname, show parameters = parameters' from hparameters],
    hextras⟩

/-- One command for each stage, the extra values with the last. -/
theorem getElem?_stagesJson (extras : List (String × OutOfBand)) (p : Pipeline) (n : Nat) :
    (stagesJson extras p)[n]? =
      p[n]?.map fun s => stageJson s (if n + 1 = p.length then extras else []) := by
  fun_induction stagesJson extras p generalizing n with
  | case1 => rfl
  | case2 last =>
    cases n with
    | zero => rfl
    | succ n => rfl
  | case3 s rest hrest ih =>
    have hne : rest ≠ [] := fun h => hrest h
    cases n with
    | zero => simp [hne]
    | succ n => simp [ih]

theorem length_stagesJson (extras : List (String × OutOfBand)) (p : Pipeline) :
    (stagesJson extras p).length = p.length := by
  fun_induction stagesJson extras p with
  | case1 => rfl
  | case2 last => rfl
  | case3 s rest hrest ih => rw [List.length_cons, ih, List.length_cons]

theorem stagesJson_injective {p q : Pipeline} {a b : List (String × OutOfBand)} (hp : p ≠ [])
    (hlength : a.length = b.length) (h : stagesJson a p = stagesJson b q) : p = q ∧ a = b := by
  have hsame : p.length = q.length := by rw [← length_stagesJson a, h, length_stagesJson]
  have hstage : ∀ n s t, p[n]? = some s → q[n]? = some t →
      s = t ∧ (if n + 1 = p.length then a else []) = if n + 1 = p.length then b else [] := by
    intro n s t hs ht
    have hn := getElem?_stagesJson a p n
    rw [h, getElem?_stagesJson b q n, hs, ht, ← hsame] at hn
    obtain ⟨hst, hextras⟩ := stageJson_injective (by split <;> simp [hlength])
      (Option.some.inj hn)
    exact ⟨hst.symm, hextras.symm⟩
  constructor
  · refine List.ext_getElem hsame fun n hn hn' => ?_
    exact (hstage n _ _ (List.getElem?_eq_getElem hn) (List.getElem?_eq_getElem hn')).1
  · have hlast : p.length - 1 + 1 = p.length :=
      Nat.sub_add_cancel (List.length_pos_iff.mpr hp)
    have hn : p.length - 1 < p.length := by omega
    have hextras := (hstage (p.length - 1) _ _ (List.getElem?_eq_getElem hn)
      (List.getElem?_eq_getElem (hsame ▸ hn))).2
    rwa [if_pos hlast, if_pos hlast] at hextras

theorem fits_strings (items : List String) : (Json.strings items).Fits 1 :=
  Json.fits_array (List.forall_mem_map.mpr fun s _ => Json.fits_string s)

theorem fits_valueJson (v : Value) : v.toJson.Fits 1 := by
  cases v with
  | null => exact ⟨Json.rereads_null, Nat.zero_le _⟩
  | bool b => exact ⟨Json.rereads_bool b, Nat.zero_le _⟩
  | int n =>
    have hlow := n.le_toInt
    have hhigh := n.toInt_lt
    exact ⟨Json.rereads_int ⟨by omega, by omega⟩, Nat.zero_le _⟩
  | string s => exact (Json.fits_string s).mono (Nat.zero_le _)
  | list items => exact fits_strings items

theorem fits_outOfBandJson (v : OutOfBand) : (outOfBandJson v).Fits 1 := by
  cases v with
  | binary bytes => exact Json.fits_object (List.forall_mem_singleton.mpr (Json.fits_string _))
  | secret s => exact Json.fits_object (List.forall_mem_singleton.mpr (Json.fits_string _))
  | value v => exact fits_valueJson v

theorem fits_parameterJson (p : Parameter) : (parameterJson p).Fits 2 := by
  cases p with
  | named key v =>
    exact Json.fits_object (List.forall_mem_cons.mpr ⟨(Json.fits_string key).mono (Nat.zero_le _),
      List.forall_mem_singleton.mpr (fits_valueJson v)⟩)
  | positional values =>
    exact Json.fits_object (List.forall_mem_singleton.mpr (fits_strings values))

theorem fits_extraJson (e : String × OutOfBand) : (extraJson e).Fits 2 :=
  Json.fits_object (List.forall_mem_cons.mpr ⟨(Json.fits_string e.1).mono (Nat.zero_le _),
    List.forall_mem_singleton.mpr (fits_outOfBandJson e.2)⟩)

theorem fits_stageJson (s : Stage) (extras : List (String × OutOfBand)) :
    (stageJson s extras).Fits 4 := by
  refine Json.fits_object (List.forall_mem_cons.mpr ⟨(Json.fits_string s.name).mono (Nat.zero_le _),
    List.forall_mem_singleton.mpr (Json.fits_array (List.forall_mem_append.mpr ⟨?_, ?_⟩))⟩)
  · exact List.forall_mem_map.mpr fun p _ => fits_parameterJson p
  · exact List.forall_mem_map.mpr fun e _ => fits_extraJson e

theorem fits_pipelineBody (i : Invocation) : (pipelineBody i).Fits 6 := by
  refine Json.fits_object (List.forall_mem_singleton.mpr (Json.fits_array fun j hj => ?_))
  obtain ⟨n, hn⟩ := List.mem_iff_getElem?.mp hj
  rw [getElem?_stagesJson] at hn
  obtain ⟨s, -, rfl⟩ := Option.map_eq_some_iff.mp hn
  exact fits_stageJson s _

theorem pipelineBody_injective {i j : Invocation} (hi : i.pipeline ≠ [])
    (hlength : i.extra.entries.length = j.extra.entries.length)
    (h : (pipelineBody i).compact = (pipelineBody j).compact) : i = j := by
  have hbody : pipelineBody i = pipelineBody j := by
    have hread (x : Invocation) : Json.parse (pipelineBody x).compact = .ok (pipelineBody x) :=
      (fits_pipelineBody x).rereads (by decide)
    have hi := hread i
    rw [h, hread j] at hi
    exact (Except.ok.inj hi).symm
  have hstages : stagesJson i.extra.entries i.pipeline = stagesJson j.extra.entries j.pipeline := by
    simpa [pipelineBody] using hbody
  obtain ⟨hpipeline, hextra⟩ := stagesJson_injective hi hlength hstages
  obtain ⟨p, ⟨a, ha⟩⟩ := i
  obtain ⟨q, ⟨b, hb⟩⟩ := j
  obtain rfl : p = q := hpipeline
  obtain rfl : a = b := hextra
  rfl

/-- There is one command for each stage, in their order, with the parameters of that stage and of no
other; behind its own, the last has the extra values in the order of their names. -/
structure Carries (body : Json) (i : Invocation) : Prop where
  commands : ∃ commands, body.field? "commands" = some (.array commands) ∧
    commands.length = i.pipeline.length ∧ ∀ n s, i.pipeline[n]? = some s →
      ∃ c : Json, commands[n]? = some c ∧ c.field? "name" = some (.string s.name) ∧
        c.field? "parameters" = some (.array (s.parameters.map parameterJson ++
          if n + 1 = i.pipeline.length then i.extra.entries.map extraJson else []))
  ascending : i.extra.names.Pairwise (· < ·)

theorem carries_pipelineBody (i : Invocation) : Carries (pipelineBody i) i := by
  constructor
  · refine ⟨stagesJson i.extra.entries i.pipeline, rfl, length_stagesJson _ _, fun n s hs => ?_⟩
    refine ⟨_, by rw [getElem?_stagesJson, hs, Option.map_some], rfl, ?_⟩
    split <;> rfl
  · exact List.pairwise_map.mpr i.extra.ascending

theorem of_build {method : Http.Method} {address : String} {authorization : Option String}
    {body : Option Json} {r : Http.Request}
    (h : build method address authorization body = .ok r) : r.method = method ∧ r.body = body := by
  rw [build] at h
  cases hbuilt : Http.Request.build method address authorization body with
  | error f =>
    rw [hbuilt] at h
    cases h
  | ok q =>
    rw [hbuilt] at h
    cases h
    exact Http.of_build hbuilt

theorem body_of_pipelineRequest {c : Connection} {i : Invocation} {r : Http.Request}
    (h : pipelineRequest c i = .ok r) : r.body = some (pipelineBody i) := (of_build h).2

/-- Requests for different invocations differ as soon as equally many extra values are bound. -/
theorem pipelineRequest_lossless :
    (∀ (c : Connection) (i : Invocation) (r : Http.Request), pipelineRequest c i = .ok r →
      r.body = some (pipelineBody i)) ∧
    (∀ i : Invocation, Json.parse (pipelineBody i).compact = .ok (pipelineBody i) ∧
      Carries (pipelineBody i) i) ∧
    ∀ i j : Invocation, i.pipeline ≠ [] → i.extra.entries.length = j.extra.entries.length →
      (pipelineBody i).compact = (pipelineBody j).compact → i = j :=
  ⟨fun _ _ _ => body_of_pipelineRequest,
    fun i => ⟨(fits_pipelineBody i).rereads (by decide), carries_pipelineBody i⟩,
    fun _ _ => pipelineBody_injective⟩

def gatewayTarget : Target :=
  ⟨⟨"http".toList, [], [], some "h".toList, none, .segments ["gw".toList], none, none⟩, "all",
    .kerberos⟩

/-- Two stages, and values beside them in the order in which they were given. -/
def bound (values : List (String × OutOfBand)) : Invocation :=
  ⟨[⟨"Get-Item", [.positional ["a", "b"], .named "Size" (.int (-1))]⟩,
    ⟨"Set-Item", [.named "Tags" (.list []), .named "Owner" .null]⟩], .ofList values⟩

def boundValues : List (String × OutOfBand) :=
  [("Photo", .binary [255, 0, 16, 7]), ("Key", .secret ⟨"k"⟩), ("Force", .value (.bool true))]

theorem pipelineRequest_lossless_bound :
    (∃ r, pipelineRequest ⟨"s1", gatewayTarget⟩ (bound boundValues) = .ok r ∧
      r.body = some (pipelineBody (bound boundValues))) ∧
    Carries (pipelineBody (bound boundValues)) (bound boundValues) ∧
    (pipelineBody (bound boundValues)).compact =
      (pipelineBody (bound boundValues.reverse)).compact ∧
    bound boundValues = bound boundValues.reverse := by
  obtain ⟨hrequest, hbody, hinjective⟩ := pipelineRequest_lossless
  have hsent : (pipelineRequest ⟨"s1", gatewayTarget⟩ (bound boundValues)).toOption.isSome := by
    decide +kernel
  have hsame : (pipelineBody (bound boundValues)).compact =
      (pipelineBody (bound boundValues.reverse)).compact := congrArg Json.compact rfl
  refine ⟨?_, (hbody _).2, hsame, hinjective _ _ (by decide) (by decide +kernel) hsame⟩
  cases hr : pipelineRequest ⟨"s1", gatewayTarget⟩ (bound boundValues) with
  | error e =>
    rw [hr] at hsent
    cases hsent
  | ok r => exact ⟨r, rfl, hrequest _ _ r hr⟩

end Gateway

end CommandBridge
