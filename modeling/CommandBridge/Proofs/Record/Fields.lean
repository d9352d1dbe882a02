import CommandBridge.Proofs.Guid
import CommandBridge.Proofs.Json.RoundTrip
import CommandBridge.Record.Codec

/-! The fields of a record in JSON give the record back, whatever stands around them. -/
namespace CommandBridge.Record

open Json (Body)

def kind : Record → Kind
  | null => .null
  | string _ => .string
  | bool _ => .bool
  | int _ => .int
  | float _ => .float
  | moment _ => .dateTime
  | guid _ => .guid
  | enum _ _ => .enum
  | collection _ => .collection
  | object _ _ _ => .object

/-- What stands beside the kind. -/
def fields : Record → List (String × Json)
  | null => []
  | string s => [("value", .string s)]
  | bool b => [("value", .bool b)]
  | int n => [("value", .int n.toInt)]
  | float x => [("value", .float x)]
  | moment t => [("value", .string t.text)]
  | guid g => [("value", .string g.text)]
  | enum name none => [("name", .string name)]
  | enum name (some n) => [("name", .string name), ("value", .int n.toInt)]
  | collection items => [("items", .array (items.map toJson))]
  | object text typeNames properties =>
    ("text", .string text) :: typeNamesField typeNames ++
      [("properties", .array (properties.map propertyJson))]

theorem listJson_eq (items : List Record) : listJson items = items.map toJson := by
  induction items with
  | nil => rfl
  | cons r rs ih => rw [listJson, ih, List.map_cons]

theorem propertiesJson_eq (ps : List (Property Record)) :
    propertiesJson ps = ps.map propertyJson := by
  induction ps with
  | nil => rfl
  | cons p ps ih => rw [propertiesJson, ih, List.map_cons]

theorem toJson_eq (r : Record) :
    r.toJson = .object (("kind", .string r.kind.name) :: r.fields) := by
  cases r with
  | enum name value => cases value <;> rw [toJson] <;> rfl
  | collection items => rw [toJson, listJson_eq]; rfl
  | object text typeNames properties => rw [toJson, propertiesJson_eq]; rfl
  | _ => rw [toJson]; rfl

mutual

/-- The records in `r` that hold no others; `r` itself when it is one. -/
def atoms : Record → List Record
  | collection items => itemAtoms items
  | object _ _ ps => propertyAtoms ps
  | r => [r]

def itemAtoms : List Record → List Record
  | [] => []
  | r :: rs => atoms r ++ itemAtoms rs

def propertyAtoms : List (Property Record) → List Record
  | [] => []
  | ⟨_, value, _⟩ :: ps => valueAtoms value ++ propertyAtoms ps

def valueAtoms : Option Record → List Record
  | some r => atoms r
  | none => []

end

/-- The records that stand in another one. -/
def parts : Record → List Record
  | collection items => items
  | object _ _ ps => ps.filterMap (·.value)
  | _ => []

theorem mem_itemAtoms {a : Record} {rs : List Record} :
    a ∈ itemAtoms rs ↔ ∃ r ∈ rs, a ∈ r.atoms := by
  induction rs with
  | nil => simp [itemAtoms]
  | cons r rs ih => simp [itemAtoms, ih]

theorem mem_propertyAtoms {a : Record} {ps : List (Property Record)} :
    a ∈ propertyAtoms ps ↔ ∃ r ∈ ps.filterMap (·.value), a ∈ r.atoms := by
  induction ps with
  | nil => simp [propertyAtoms]
  | cons p ps ih =>
    obtain ⟨name, value | r, error⟩ := p
    · rw [propertyAtoms, valueAtoms, List.nil_append, ih]
      rfl
    · rw [propertyAtoms, valueAtoms, List.mem_append, ih]
      simp

theorem mem_atoms_of_mem_parts {r p a : Record} (hp : p ∈ r.parts) (ha : a ∈ p.atoms) :
    a ∈ r.atoms := by
  cases r with
  | collection items => exact mem_itemAtoms.mpr ⟨p, hp, ha⟩
  | object text typeNames ps => exact mem_propertyAtoms.mpr ⟨p, hp, ha⟩
  | _ => exact absurd hp List.not_mem_nil

@[simp] theorem ofName?_name (k : Kind) : Kind.ofName? k.name = some k := by
  cases k <;> rfl

theorem int64?_toInt (n : Int64) : int64? (.int n.toInt) = some n := by
  have hlow : Int64.minValue.toInt ≤ n.toInt := n.le_toInt
  have hhigh : n.toInt ≤ Int64.maxValue.toInt := Int.le_sub_one_of_lt n.toInt_lt
  rw [int64?, if_pos (by rw [decide_eq_true hlow, decide_eq_true hhigh, Bool.and_self]),
    Int64.ofInt_toInt]

/-- The record `null` is not the absence of a record. -/
theorem optional?_toJson (sub : Json → Option Record) (r : Record) :
    Json.optional? sub (some r.toJson) = (sub r.toJson).map some := by
  rw [toJson_eq]
  rfl

/-- The members of a property. -/
def propertyFields (p : Property Record) : List (String × Json) :=
  ("name", .string p.name) :: p.value.toList.map (fun r => ("value", r.toJson)) ++
    p.error.toList.map fun e => ("error", .string e)

theorem propertyJson_eq (p : Property Record) : propertyJson p = .object (propertyFields p) := by
  obtain ⟨name, value | r, error | e⟩ := p <;> rw [propertyJson] <;> rfl

theorem propertyOf?_propertyJson {sub : Json → Option Record} {p : Property Record}
    (hsub : ∀ r, p.value = some r → sub r.toJson = some r) :
    propertyOf? sub (propertyJson p) = some p := by
  have hvalue : Json.optional? sub (p.value.map toJson) = some p.value := by
    cases hp : p.value with
    | none => rfl
    | some r => rw [Option.map_some, optional?_toJson, hsub r hp, Option.map_some]
  have herror : Json.optional? Json.string? (p.error.map .string) = some p.error := by
    cases p.error <;> rfl
  have harguments : (Body.members (propertyFields p)).arguments? ["name", "value", "error"] =
      some [some (.string p.name), p.value.map toJson, p.error.map .string] := by
    obtain ⟨name, value | r, error | e⟩ := p <;>
      simp [Body.arguments?, Json.single?, propertyFields]
  rw [propertyJson_eq, propertyOf?, Body.ofJson?]
  simp only [Option.bind_eq_bind, Option.bind_some, harguments, hvalue, herror]
  rfl

theorem list?_map {β : Type} {f : Json → Option β} {g : β → Json} {l : List β}
    (h : ∀ b ∈ l, f (g b) = some b) : Json.list? f (.array (l.map g)) = some l := by
  rw [Json.list?, List.mapM_map, mapM_eq_some (g := id) (by simpa using h), List.map_id]

theorem one?_value (j : Json) : ofBody?.one? (.members [("value", j)]) = some (some j) := by
  simp [ofBody?.one?, Body.arguments?, Json.single?]

theorem ofBody?_fields {sub : Json → Option Record} {r : Record}
    (hmoment : ∀ t, r = moment t → Moment.read? t.text = some t)
    (hsub : ∀ p ∈ r.parts, sub p.toJson = some p) :
    ofBody? sub r.kind (.members r.fields) = some r := by
  cases r with
  | null => rfl
  | string s => simp [ofBody?, kind, fields, one?_value, Json.required?, Json.string?]
  | bool b => simp [ofBody?, kind, fields, one?_value, Json.required?, Json.bool?]
  | int n => simp [ofBody?, kind, fields, one?_value, Json.required?, int64?_toInt]
  | float x => simp [ofBody?, kind, fields, one?_value, Json.required?, float?]
  | moment t =>
    simp [ofBody?, kind, fields, one?_value, Json.required?, Json.string?, hmoment t rfl]
  | guid g => simp [ofBody?, kind, fields, one?_value, Json.required?, Json.string?]
  | enum name value =>
    cases value with
    | none =>
      simp [ofBody?, kind, fields, Body.arguments?, Json.single?, Json.required?, Json.optional?,
        Json.string?]
    | some n =>
      simp [ofBody?, kind, fields, Body.arguments?, Json.single?, Json.required?, Json.optional?,
        Json.string?, int64?_toInt]
  | collection items =>
    have hitems : Json.list? sub (.array (items.map toJson)) = some items := list?_map hsub
    simp [ofBody?, kind, fields, Body.arguments?, Json.single?, Json.default?, hitems]
  | object text typeNames ps =>
    have hps : Json.list? (propertyOf? sub) (.array (ps.map propertyJson)) = some ps :=
      list?_map fun p hp =>
        propertyOf?_propertyJson fun r hr => hsub r (List.mem_filterMap.mpr ⟨p, hp, hr⟩)
    have hnames : Json.list? Json.string? (.strings typeNames) = some typeNames :=
      list?_map fun _ _ => rfl
    cases typeNames with
    | nil =>
      simp [ofBody?, kind, fields, typeNamesField, Body.arguments?, Json.single?, Json.default?,
        Json.string?, hps]
    | cons n ns =>
      simp [ofBody?, kind, fields, typeNamesField, Body.arguments?, Json.single?, Json.default?,
        Json.string?, hps, hnames]

theorem kind_not_mem_fields (r : Record) : ∀ m ∈ r.fields, m.1 ≠ "kind" := by
  cases r with
  | enum name value => cases value <;> simp [fields]
  | object text typeNames ps => cases typeNames <;> simp [fields, typeNamesField]
  | _ => simp [fields]

theorem splitKind?_toJson (r : Record) :
    splitKind? r.toJson = some (.string r.kind.name, .members r.fields) := by
  have hothers : (("kind", Json.string r.kind.name) :: r.fields).filter (·.1 != "kind") =
      r.fields := by
    rw [List.filter_cons_of_neg (Bool.eq_false_iff.mp rfl)]
    exact List.filter_eq_self.mpr fun m hm => by simpa using kind_not_mem_fields r m hm
  have hkind : (("kind", Json.string r.kind.name) :: r.fields).filter (·.1 == "kind") =
      [("kind", .string r.kind.name)] := by
    rw [List.filter_cons_of_pos rfl, List.filter_eq_nil_iff.mpr]
    exact fun m hm => by simpa using kind_not_mem_fields r m hm
  rw [toJson_eq, splitKind?, hothers, Json.single?, hkind]
  rfl

theorem height_toJson (r : Record) : r.toJson.height = Json.membersHeight r.fields + 1 := by
  rw [toJson_eq, Json.height, Json.membersHeight]
  exact congrArg (· + 1) (Nat.zero_max _)

/-- A record that stands in another one is nested less deep. -/
theorem height_lt_of_mem_parts {r p : Record} (h : p ∈ r.parts) :
    p.toJson.height < r.toJson.height := by
  rw [height_toJson r]
  cases r with
  | collection items =>
    have hitem : p.toJson ∈ items.map toJson := List.mem_map_of_mem h
    have hitems : ("items", .array (items.map toJson)) ∈ (collection items).fields :=
      List.mem_singleton_self _
    have hheight := Json.height_le_membersHeight hitems
    rw [Json.height] at hheight
    have := Json.height_le_itemsHeight hitem
    omega
  | object text typeNames ps =>
    obtain ⟨q, hq, hvalue⟩ := List.mem_filterMap.mp h
    have hfield : ("value", p.toJson) ∈ propertyFields q := by
      simp [propertyFields, hvalue]
    have hproperty : propertyJson q ∈ ps.map propertyJson := List.mem_map_of_mem hq
    have hproperties : ("properties", .array (ps.map propertyJson)) ∈
        (object text typeNames ps).fields :=
      List.mem_append_right _ (List.mem_singleton_self _)
    have hheight := Json.height_le_membersHeight hproperties
    have hinner := Json.height_le_itemsHeight hproperty
    rw [Json.height] at hheight
    rw [propertyJson_eq, Json.height] at hinner
    have hvalue : p.toJson.height ≤ _ := Json.height_le_membersHeight hfield
    omega
  | _ => exact absurd h List.not_mem_nil

/-- What holds of every record that holds for its parts. -/
theorem parts_induction {P : Record → Prop} (h : ∀ r, (∀ p ∈ r.parts, P p) → P r) (r : Record) :
    P r := by
  induction hn : r.toJson.height using Nat.strongRecOn generalizing r with
  | ind n ih =>
    subst hn
    exact h r fun p hp => ih _ (height_lt_of_mem_parts hp) p rfl

theorem ofJsonWithin?_toJson {levels : Nat} {r : Record}
    (hmoments : ∀ t, moment t ∈ r.atoms → Moment.read? t.text = some t)
    (hheight : r.toJson.height ≤ levels) : ofJsonWithin? levels r.toJson = some r := by
  induction levels generalizing r with
  | zero =>
    rw [height_toJson] at hheight
    exact absurd hheight (Nat.not_succ_le_zero _)
  | succ levels ih =>
    have hbody : ofBody? (ofJsonWithin? levels) r.kind (.members r.fields) = some r := by
      refine ofBody?_fields (fun t ht => hmoments t ?_) fun p hp => ih ?_ ?_
      · rw [ht]
        exact List.mem_singleton_self _
      · exact fun t ht => hmoments t (mem_atoms_of_mem_parts hp ht)
      · exact Nat.le_of_lt_succ (Nat.lt_of_lt_of_le (height_lt_of_mem_parts hp) hheight)
    rw [ofJsonWithin?, splitKind?_toJson]
    simp only [Option.bind_eq_bind, Option.bind_some, Kind.ofJson?, ofName?_name, hbody]

end CommandBridge.Record
