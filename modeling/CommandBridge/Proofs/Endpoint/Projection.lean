import CommandBridge.Proofs.Endpoint.Simulated
import CommandBridge.Proofs.Record.Depth

/-! What an invocation gets from a simulated endpoint when its last projecting stage lists columns:
a row for each record that the first stage lets through. -/
namespace CommandBridge

namespace Record

/-- The first property of that name, in any letter case, has the value `v`, which is not null. -/
def Has (r : Record) (name : String) (v : Record) : Prop :=
  ∃ text typeNames before p after, r = object text typeNames (before ++ p :: after) ∧
    (∀ q ∈ before, Text.sameIgnoringAsciiCase q.name name = false) ∧
    Text.sameIgnoringAsciiCase p.name name = true ∧ p.value = some v ∧ v ≠ null

/-- What stands in a column of a row. -/
inductive Cell (r : Record) (column : String) : Flattened → Prop where
  | value {v : Record} (h : r.Has column v) : Cell r column (Flattened.flatten view v 1)
  | empty (h : ∀ v, ¬r.Has column v) : Cell r column .null

/-- A map with the columns for names, each once. -/
inductive Row (columns : List String) (r : Record) : Flattened → Prop where
  | map {entries : List (String × Flattened)} (ascending : Ascending entries)
      (names : ∀ c, c ∈ entries.map (·.1) ↔ c ∈ columns)
      (cells : ∀ c f, (c, f) ∈ entries → Cell r c f) : Row columns r (.map entries)

/-- The value of a column, if there is one that is not null. -/
def column? (r : Record) (c : String) : Option Record := ((r.property? c).getD .null).nonNull?

section
variable {r v : Record} {c : String}

theorem nonNull?_eq_some : r.nonNull? = some v ↔ r = v ∧ v ≠ null := by
  cases r with
  | null =>
    constructor
    · intro h
      cases h
    · rintro ⟨rfl, hv⟩
      exact absurd rfl hv
  | _ =>
    constructor
    · rintro ⟨⟩
      exact ⟨rfl, nofun⟩
    · rintro ⟨rfl, -⟩
      rfl

theorem has_iff : r.Has c v ↔ r.column? c = some v := by
  unfold Has column?
  rw [nonNull?_eq_some]
  constructor
  · rintro ⟨text, typeNames, before, p, after, rfl, hbefore, hp, hvalue, hv⟩
    have hfind : (before ++ p :: after).find? (fun q => Text.sameIgnoringAsciiCase q.name c) =
        some p := by
      rw [List.find?_eq_some_iff_append]
      exact ⟨hp, before, after, rfl, fun q hq => by simp [hbefore q hq]⟩
    rw [property?, hfind, Option.bind_some, hvalue]
    exact ⟨rfl, hv⟩
  · rintro ⟨hproperty, hv⟩
    have hsome : r.property? c = some v := by
      cases h : r.property? c with
      | none =>
        rw [h] at hproperty
        exact absurd hproperty.symm hv
      | some v' =>
        rw [h] at hproperty
        exact congrArg some hproperty
    cases r with
    | object text typeNames ps =>
      obtain ⟨p, hfind, hvalue⟩ := Option.bind_eq_some_iff.mp hsome
      obtain ⟨hp, before, after, rfl, hbefore⟩ := List.find?_eq_some_iff_append.mp hfind
      refine ⟨text, typeNames, before, p, after, rfl, fun q hq => ?_, hp, hvalue, hv⟩
      simpa using hbefore q hq
    | _ => cases hsome

theorem readable_ofProperties (ps : List (String × Record)) :
    view.readable (ofProperties ps) = ps.map fun p => (p.1, p.2.nonNull?) := by
  unfold View.readable
  show ((ps.map _).map readProperty).filterMap _ = _
  rw [List.map_map, List.filterMap_map, ← List.filterMap_eq_map]
  rfl

/-- The text of such an object begins like no simple rendering. -/
theorem isSimple_render_ofProperties (ps : List (String × Record)) :
    Flattened.isSimple (view.render (ofProperties ps)) = false := by
  simp [Flattened.isSimple, view, rendering, ofProperties, renderedObject, render]

theorem flatten_project (columns : List String) (r : Record) :
    Flattened.flatten view (Simulated.project columns r) 0 =
      .map (enterAll (Flattened.ofProperty (Flattened.flatten view · 1))
        (columns.map fun c => (c, r.column? c)) []) := by
  have hlevel : Flattened.flatten view (Simulated.project columns r) 0 =
      Flattened.ofLevel view (Flattened.flatten view · 1) (Simulated.project columns r) := rfl
  rw [hlevel, Simulated.project,
    Flattened.ofLevel_properties rfl rfl rfl (isSimple_render_ofProperties _),
    readable_ofProperties, List.map_map]
  rfl

theorem row_project (columns : List String) (r : Record) :
    Row columns r (Flattened.flatten view (Simulated.project columns r) 0) := by
  rw [flatten_project]
  have hascending : Ascending (enterAll (Flattened.ofProperty (Flattened.flatten view · 1))
      (columns.map fun c => (c, r.column? c)) []) := ascending_enterAll _ _ List.Pairwise.nil
  have hlookup (c : String) : (enterAll (Flattened.ofProperty (Flattened.flatten view · 1))
      (columns.map fun c => (c, r.column? c)) []).lookup c =
        if c ∈ columns then some (Flattened.ofProperty (Flattened.flatten view · 1) (r.column? c))
        else none := by
    rw [lookup_enterAll, ← List.map_reverse, lookup_map_self, List.lookup_nil, Option.or_none]
    simp only [List.mem_reverse]
    split <;> rfl
  apply Row.map hascending
  · intro c
    constructor
    · intro hc
      obtain ⟨e, he, rfl⟩ := List.mem_map.mp hc
      rw [hascending.mem_iff, hlookup] at he
      by_contra hnot
      rw [if_neg hnot] at he
      cases he
    · intro hc
      have hfound := (hlookup c).trans (if_pos hc)
      exact List.mem_map.mpr ⟨(c, _), hascending.mem_iff.mpr hfound, rfl⟩
  · intro c f hmem
    rw [hascending.mem_iff, hlookup] at hmem
    dsimp only at hmem
    split at hmem
    · obtain rfl := Option.some.inj hmem
      cases hv : r.column? c with
      | none =>
        apply Cell.empty
        intro v hhas
        cases hv.symm.trans (has_iff.mp hhas)
      | some v => exact .value (has_iff.mpr hv)
    · cases hmem

example : Flattened.flatten view (Simulated.project ["Size", "name", "Name", "Size"] (.object "" []
    [⟨"NAME", some (.string "a"), none⟩, ⟨"size", some .null, none⟩,
      ⟨"Size", some (.int 1), none⟩])) 0 =
        .map [("Name", .string "a"), ("Size", .null), ("name", .string "a")] :=
  rfl

theorem rows_project (columns : List String) (records : List Record) :
    List.Forall₂ (Row columns) records
      (Flattened.flattenAll view (records.map (Simulated.project columns))) := by
  induction records with
  | nil => exact .nil
  | cons r records ih => exact .cons (row_project columns r) ih

end

end Record

namespace Command

/-- The last projecting stage lists these columns. -/
def Selects (p : Pipeline) (columns : List String) : Prop :=
  ∃ before s after, p = before ++ s :: after ∧
    Text.sameIgnoringAsciiCase s.name "Select-Object" = true ∧
    (∀ s' ∈ after, Text.sameIgnoringAsciiCase s'.name "Select-Object" = false) ∧
    s.positional? = some columns

/-- How many of `n` records a stage lets through. -/
def Stage.resultCount (s : Stage) (n : Nat) : Nat :=
  match s.parameter? "ResultSize" with
  | some (.int limit) => min n (max limit.toInt 0).toNat
  | _ => n

theorem Selects.projection? {p : Pipeline} {columns : List String} (h : Selects p columns) :
    Simulated.projection? p = some columns := by
  obtain ⟨before, s, after, rfl, hs, hafter, hcolumns⟩ := h
  have hfind : (before ++ s :: after).reverse.find?
      (fun s => Text.sameIgnoringAsciiCase s.name "Select-Object") = some s := by
    rw [List.find?_eq_some_iff_append]
    refine ⟨hs, after.reverse, before.reverse, by simp, fun s' hs' => ?_⟩
    simp [hafter s' (List.mem_reverse.mp hs')]
  rw [Simulated.projection?, hfind]
  exact hcolumns

theorem limited_eq (s : Stage) (records : List Record) :
    Simulated.limited s records = records.take (s.resultCount records.length) := by
  unfold Simulated.limited Stage.resultCount
  cases s.parameter? "ResultSize" with
  | none => exact List.take_length.symm
  | some v =>
    cases v with
    | int limit =>
      have hlimit : (max limit.toInt 0).toNat = limit.toInt.toNat := by omega
      dsimp only
      rw [hlimit, List.take_eq_take_min, Nat.min_comm]
    | _ => exact List.take_length.symm

end Command

namespace Simulated

variable {b : Bridge Simulated Record} {openLimit executionLimit : Nat} {i : Invocation}
variable {first : Command.Stage} {columns : List String} {records : List Record}

theorem accept_of_no_errors (i : Invocation) (rs : List Record) :
    i.accept ⟨rs, []⟩ = .ok ⟨rs, []⟩ := rfl

/-- The records come in their order. -/
theorem Ready.rows_run (h : Ready openLimit executionLimit b)
    (hfirst : i.pipeline.head? = some first) (hselect : Command.Selects i.pipeline columns)
    (hrecords : b.remote.datasets.lookup (Text.lowercase first.name) = some records)
    (herrors : (b.remote.errors.lookup (Text.lowercase first.name)).getD [] = []) :
    Ready openLimit executionLimit (b.run (setup openLimit executionLimit) (.invoke i)) ∧
      ∃ rs, (b.run (setup openLimit executionLimit) (.invoke i)).answer? b.calls.length =
          some (.records rs) ∧
        List.Forall₂ (Record.Row columns) (records.take (first.resultCount records.length))
          (Flattened.flattenAll Record.view rs) := by
  obtain ⟨rest, hp⟩ := List.head?_eq_some_iff.mp hfirst
  have hi : i.pipeline.isEmpty = false := congrArg List.isEmpty hp
  have houtput := output_eq hfirst hrecords
  rw [herrors, projected, hselect.projection?, Command.limited_eq] at houtput
  obtain ⟨hready, -, x, m, hc⟩ := h.run hi
  rw [houtput, accept_of_no_errors] at hc
  exact ⟨hready, _, hc.answer?, Record.rows_project columns _⟩

/-- Records of several forms. In the first one a null comes before a value of the same name, and a
value has an error beside it. -/
def mixed : List Record :=
  [.object "" [] [⟨"name", some (.string "a"), none⟩, ⟨"NAME", some (.string "b"), none⟩,
      ⟨"size", some .null, none⟩, ⟨"Size", some (.int 1), none⟩,
      ⟨"Quota", some (.enum "Large" none), some "getter failed"⟩],
    .string "name", .null, .object "dropped" [] []]

/-- Keeps three records, and asks for columns twice. -/
def lastColumns : Invocation :=
  ⟨[⟨"Get-MAILBOX", [.named "resultsize" (.int 3), .named "ResultSize" (.int 0)]⟩,
    ⟨"Select-Object", [.positional ["Id"]]⟩,
    ⟨"select-object",
      [.named "First" (.int 1), .positional ["Name", "name", "Size", "Quota", "Name"]]⟩,
    ⟨"Sort-Object", []⟩], .empty⟩

/-- Answers at the limit. -/
def slow : Simulated :=
  { datasets := [("get-mailbox", mixed)], latency := 5000, handshakeLatency := 30000 }

/-- A bridge that has its connection from an earlier run. -/
def connectedBridge : Bridge Simulated Record :=
  ((Bridge.new Bridge.localTarget slow).run (setup 30000 5000)
    (.session (.setCredential (.token ⟨"k"⟩)))).run (setup 30000 5000) (.invoke Bridge.singleStage)

theorem ready_connectedBridge :
    Ready 30000 5000 connectedBridge ∧ connectedBridge.remote.script = slow.script := by
  have hquiet : slow.Quiet 30000 5000 := ⟨rfl, rfl, Nat.le_refl _, Nat.le_refl _⟩
  have hfirst := ready_setCredential Bridge.localTarget (.token ⟨"k"⟩) hquiet rfl
  obtain ⟨hready, hscript, -⟩ := hfirst.run (i := Bridge.singleStage) rfl
  exact ⟨hready, hscript⟩

theorem rows_run_connectedBridge :
    Ready 30000 5000 connectedBridge ∧
    Command.Selects lastColumns.pipeline ["Name", "name", "Size", "Quota", "Name"] ∧
    connectedBridge.remote.datasets.lookup (Text.lowercase "Get-MAILBOX") = some mixed ∧
    ∃ rs, (connectedBridge.run (setup 30000 5000) (.invoke lastColumns)).answer?
        connectedBridge.calls.length = some (.records rs) ∧
      List.Forall₂ (Record.Row ["Name", "name", "Size", "Quota", "Name"]) (mixed.take 3)
        (Flattened.flattenAll Record.view rs) := by
  obtain ⟨hready, hscript⟩ := ready_connectedBridge
  have hselect : Command.Selects lastColumns.pipeline ["Name", "name", "Size", "Quota", "Name"] :=
    ⟨lastColumns.pipeline.take 2, _, lastColumns.pipeline.drop 3, rfl, by decide +kernel,
      by decide +kernel, rfl⟩
  have hkey : Text.lowercase "Get-MAILBOX" = "get-mailbox" := by decide +kernel
  have hdatasets : connectedBridge.remote.script.datasets = slow.datasets := by rw [hscript]; rfl
  have herrors : connectedBridge.remote.script.errors = [] := by rw [hscript]; rfl
  have hrecords : connectedBridge.remote.datasets.lookup (Text.lowercase "Get-MAILBOX") =
      some mixed := by
    rw [hkey]
    exact congrArg (List.lookup "get-mailbox") hdatasets
  have hnone : (connectedBridge.remote.errors.lookup (Text.lowercase "Get-MAILBOX")).getD [] = [] :=
    congrArg (fun errors => (List.lookup _ errors).getD []) herrors
  obtain ⟨-, rs, hanswer, hrows⟩ :=
    Ready.rows_run (i := lastColumns) hready rfl hselect hrecords hnone
  exact ⟨hready, hselect, hrecords, rs, hanswer, hrows⟩

end Simulated

end CommandBridge
