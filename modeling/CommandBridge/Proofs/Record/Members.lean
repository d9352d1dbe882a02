import CommandBridge.Proofs.Record.Text

/-! The members of a record at every level: which are known, that others do not matter, and that a
known one stands there once. -/
namespace CommandBridge.Record

open Json (Body Permuted arguments?_insert arguments?_insert_other arguments?_twice default?
  length_of_arguments? list? optional? required? single? single?_insert single?_insert_other
  single?_twice)

/-- What a value in a record is read as. Only a name says the kind of a record that is not inside
another one. -/
inductive Role where
  | record (inside : Bool)
  | property
  | records
  | properties

namespace Role

abbrev Result : Role → Type
  | record _ => Record
  | property => Property Record
  | records => List Record
  | properties => List (Property Record)

def read : (role : Role) → Json → Option role.Result
  | record true => ofJson?
  | record false => ofNamedJson?
  | property => propertyOf? ofJson?
  | records => list? ofJson?
  | properties => list? (propertyOf? ofJson?)

end Role

namespace Kind

/-- The names beside the kind. -/
def fields : Kind → List String
  | null => []
  | string | bool | int | float | dateTime | guid => ["value"]
  | enum => ["name", "value"]
  | collection => ["items"]
  | object => ["text", "typeNames", "properties"]

/-- The field in which other records stand. -/
def inner? : Kind → Option (String × Role)
  | collection => some ("items", .records)
  | object => some ("properties", .properties)
  | _ => none

/-- The kind that a value says, inside another record or not. -/
def said? (inside : Bool) (j : Json) : Option Kind := if inside then ofJson? j else namedKind? j

def ofMembers? (inside : Bool) (ms : List (String × Json)) : Option Kind :=
  (single? "kind" ms).join.bind (said? inside)

end Kind

def propertyNames : List String := ["name", "value", "error"]

/-- The names that mean something in an object with the given members. -/
def Role.names (ms : List (String × Json)) : Role → List String
  | record inside => "kind" :: ((Kind.ofMembers? inside ms).map Kind.fields).getD []
  | property => propertyNames
  | records | properties => []

/-- What stands around a value of the second role, in one of the first in which it counts. -/
inductive Place : Role → Role → (Json → Json) → Prop where
  | here (role : Role) : Place role role id
  | member {inside : Bool} {inner role : Role} {kind : Kind} {name : String}
      {ms ms' : List (String × Json)} {C : Json → Json}
      (hkind : Kind.ofMembers? inside (ms ++ ms') = some kind)
      (hinner : kind.inner? = some (name, inner)) (h : Place inner role C) :
      Place (.record inside) role fun j => .object (ms ++ (name, C j) :: ms')
  | item {inside : Bool} {inner role : Role} {kind : Kind} {name : String} {k : Json}
      {js js' : List Json} {C : Json → Json} (hkind : Kind.said? inside k = some kind)
      (hinner : kind.inner? = some (name, inner)) (hindex : js.length = kind.fields.idxOf name)
      (h : Place inner role C) :
      Place (.record inside) role fun j => .array (k :: (js ++ C j :: js'))
  | value {role : Role} {ms ms' : List (String × Json)} {C : Json → Json}
      (h : Place (.record true) role C) :
      Place .property role fun j => .object (ms ++ ("value", C j) :: ms')
  | valueItem {role : Role} {name : Json} {js : List Json} {C : Json → Json}
      (h : Place (.record true) role C) : Place .property role fun j => .array (name :: C j :: js)
  | records {role : Role} {js js' : List Json} {C : Json → Json} (h : Place (.record true) role C) :
      Place .records role fun j => .array (js ++ C j :: js')
  | properties {role : Role} {js js' : List Json} {C : Json → Json} (h : Place .property role C) :
      Place .properties role fun j => .array (js ++ C j :: js')

section
variable {ms ms' : List (String × Json)} {sub : Json → Option Record} {kind : Kind}

/-- Of an object's members only those of the kind's names count. -/
theorem ofBody?_members (h : (Body.members ms).arguments? kind.fields =
    (Body.members ms').arguments? kind.fields) :
    ofBody? sub kind (.members ms) = ofBody? sub kind (.members ms') := by
  cases kind with
  | null => rfl
  | string | bool | int | float | dateTime | guid =>
    rw [Kind.fields] at h
    simp only [ofBody?, ofBody?.one?, h]
  | enum | collection | object =>
    rw [Kind.fields] at h
    simp only [ofBody?, h]

theorem ofBody?_of_arguments? {body : Body} (hkind : kind.fields ≠ [])
    (h : body.arguments? kind.fields = none) : ofBody? sub kind body = none := by
  cases kind with
  | null => exact absurd rfl hkind
  | string | bool | int | float | dateTime | guid =>
    rw [Kind.fields] at h
    simp [ofBody?, ofBody?.one?, h]
  | enum | collection | object =>
    rw [Kind.fields] at h
    simp [ofBody?, h]

end

section
variable {inside : Bool} {name other : String} {ms ms' : List (String × Json)} {role : Role}

theorem read_record (inside : Bool) (j : Json) : (Role.record inside).read j =
    (splitKind? j).bind fun p =>
      (Kind.said? inside p.1).bind fun kind => ofBody? ofJson? kind p.2 := by
  cases inside with
  | false => exact ofNamedJson?_eq j
  | true => exact ofJson?_eq j

theorem read_object (inside : Bool) (ms : List (String × Json)) :
    (Role.record inside).read (.object ms) = (Kind.ofMembers? inside ms).bind fun kind =>
      ofBody? ofJson? kind (.members (ms.filter (·.1 != "kind"))) := by
  rw [read_record, splitKind?, Kind.ofMembers?]
  rcases single? "kind" ms with _ | _ | k
  · rfl
  · rfl
  · rfl

theorem read_array (inside : Bool) (k : Json) (js : List Json) :
    (Role.record inside).read (.array (k :: js)) =
      (Kind.said? inside k).bind fun kind => ofBody? ofJson? kind (.items js) :=
  read_record inside _

theorem ofMembers?_insert_other (h : other ≠ "kind") (v : Json) (ms ms' : List (String × Json)) :
    Kind.ofMembers? inside (ms ++ (other, v) :: ms') = Kind.ofMembers? inside (ms ++ ms') := by
  rw [Kind.ofMembers?, Kind.ofMembers?, single?_insert_other h]

theorem filter_insert (h : other ≠ "kind") (v : Json) (ms ms' : List (String × Json)) :
    (ms ++ (other, v) :: ms').filter (·.1 != "kind") =
      ms.filter (·.1 != "kind") ++ (other, v) :: ms'.filter (·.1 != "kind") := by
  rw [List.filter_append]
  exact congrArg _ (List.filter_cons_of_pos (by simpa using h))

theorem kind_not_mem_kindFields (kind : Kind) : "kind" ∉ kind.fields := by
  cases kind <;> decide

/-- A member that is not known does not matter. -/
theorem read_insert_other (h : other ∉ role.names (ms ++ ms')) (v : Json) :
    role.read (.object (ms ++ (other, v) :: ms')) = role.read (.object (ms ++ ms')) := by
  cases role with
  | records | properties => rfl
  | property =>
    rw [Role.names, propertyNames] at h
    simp only [Role.read, propertyOf?, Body.ofJson?, Option.bind_eq_bind, Option.bind_some,
      arguments?_insert_other h]
  | record inside =>
    obtain ⟨hkind, hfields⟩ := not_or.mp (mt List.mem_cons.mpr h)
    rw [read_object, read_object, ofMembers?_insert_other hkind, filter_insert hkind,
      List.filter_append]
    cases hsaid : Kind.ofMembers? inside (ms ++ ms') with
    | none => rfl
    | some kind =>
      rw [hsaid] at hfields
      exact ofBody?_members (arguments?_insert_other hfields v _ _)

/-- A known member that stands there twice is a fault. -/
theorem read_twice (hname : name ∈ role.names ms) (h : 2 ≤ ms.countP (·.1 == name)) :
    role.read (.object ms) = none := by
  cases role with
  | records | properties => cases hname
  | property =>
    rw [Role.names, propertyNames] at hname
    simp [Role.read, propertyOf?, Body.ofJson?, arguments?_twice hname h]
  | record inside =>
    rw [read_object]
    rcases List.mem_cons.mp hname with rfl | hfields
    · rw [Kind.ofMembers?, single?_twice h]
      rfl
    · cases hsaid : Kind.ofMembers? inside ms with
      | none => rfl
      | some kind =>
        rw [hsaid] at hfields
        have hne : name ≠ "kind" := by
          rintro rfl
          exact kind_not_mem_kindFields kind hfields
        refine ofBody?_of_arguments? (List.ne_nil_of_mem hfields) (arguments?_twice hfields ?_)
        rw [List.countP_filter]
        refine Nat.le_trans h (List.countP_mono_left fun m _ hm => ?_)
        obtain rfl : m.1 = name := by simpa using hm
        simpa using hne

end

/-- A place among the fields: what is read at the names does not depend on the value there. -/
def Slot (names : List String) (n : Nat) (body : Json → Body) : Prop :=
  ∃ o : Option (List (Option Json)), (∀ values ∈ o, values.length = names.length) ∧
    ∀ v, (body v).arguments? names = o.map (·.set n (some v))

/-- What is read around a value depends on what is read there alone, and cannot do without it. -/
def Strict (role role' : Role) (C : Json → Json) : Prop :=
  ∃ f : role'.Result → Option role.Result, ∀ v, v ≠ .null → role.read (C v) = (role'.read v).bind f

section
variable {name : String} {names : List String} {n : Nat} {body : Json → Body}
variable {ms ms' : List (String × Json)} {sub : Json → Option Record}

theorem slot_member (hnames : names.Nodup) (hname : name ∈ names) (ms ms' : List (String × Json)) :
    Slot names (names.idxOf name) fun v => .members (ms ++ (name, v) :: ms') := by
  by_cases habsent : single? name (ms ++ ms') = some none
  · exact ⟨_, fun _ => length_of_arguments?, arguments?_insert hnames hname habsent⟩
  · refine ⟨none, by simp, fun v => mapM_eq_none hname ?_⟩
    rw [single?_insert]
    rcases hfound : single? name (ms ++ ms') with _ | _ | j
    · rfl
    · exact absurd hfound habsent
    · rfl

theorem slot_item (names : List String) (js js' : List Json) :
    Slot names js.length fun v => .items (js ++ v :: js') := by
  refine ⟨(Body.items (js ++ .null :: js')).arguments? names, fun _ => length_of_arguments?,
    fun v => ?_⟩
  simp only [Body.arguments?, List.length_append, List.length_cons]
  split
  · simp only [Option.map_some, Option.some.injEq]
    refine List.ext_getElem (by simp) fun i hi hi' => ?_
    rw [List.getElem_set, List.getElem_map, List.getElem_map, List.getElem_range]
    split
    · simp [*]
    · rename_i hne
      rcases Nat.lt_or_gt_of_ne hne with hlt | hlt
      · obtain ⟨k, rfl⟩ := Nat.exists_eq_add_of_lt hlt
        simp [List.getElem?_append_right, Nat.add_assoc]
      · rw [List.getElem?_append_left hlt, List.getElem?_append_left hlt]
  · rfl

theorem strict_collection (h : Slot ["items"] 0 body) :
    ∃ f : List Record → Option Record, ∀ v,
      ofBody? sub .collection (body v) = (list? sub v).bind f := by
  obtain ⟨o, hlength, ho⟩ := h
  cases o with
  | none => exact ⟨fun _ => none, fun v => by simp [ofBody?, ho]⟩
  | some values =>
    obtain ⟨items, rfl⟩ := List.length_eq_one_iff.mp (hlength values rfl)
    exact ⟨fun l => some (.collection l), fun v => by simp [ofBody?, ho, default?]⟩

theorem strict_object (h : Slot ["text", "typeNames", "properties"] 2 body) :
    ∃ f : List (Property Record) → Option Record, ∀ v,
      ofBody? sub .object (body v) = (list? (propertyOf? sub) v).bind f := by
  obtain ⟨o, hlength, ho⟩ := h
  cases o with
  | none => exact ⟨fun _ => none, fun v => by simp [ofBody?, ho]⟩
  | some values =>
    obtain ⟨text, typeNames, properties, rfl⟩ := List.length_eq_three.mp (hlength values rfl)
    refine ⟨fun ps => (default? "" Json.string? text).bind fun t =>
      (default? [] (list? Json.string?) typeNames).map fun ns => .object t ns ps, fun v => ?_⟩
    have hproperties : default? [] (list? (propertyOf? sub)) (some v) = list? (propertyOf? sub) v :=
      rfl
    cases htext : default? "" Json.string? text <;>
      cases hnames : default? [] (list? Json.string?) typeNames <;>
      cases hps : list? (propertyOf? sub) v <;>
      simp [ofBody?, ho, htext, hnames, hproperties, hps]

theorem strict_property {C : Json → Json} (hC : ∀ v, Body.ofJson? (C v) = some (body v))
    (h : Slot propertyNames 1 body) : ∃ f : Record → Option (Property Record),
      ∀ v, v ≠ .null → propertyOf? sub (C v) = (sub v).bind f := by
  rw [propertyNames] at h
  obtain ⟨o, hlength, ho⟩ := h
  cases o with
  | none => exact ⟨fun _ => none, fun v _ => by simp [propertyOf?, hC, ho]⟩
  | some values =>
    obtain ⟨name, value, error, rfl⟩ := List.length_eq_three.mp (hlength values rfl)
    refine ⟨fun r => (required? Json.string? name).bind fun name =>
      (optional? Json.string? error).map fun error => ⟨name, some r, error⟩, fun v hv => ?_⟩
    have hvalue : optional? sub (some v) = (sub v).map some := by
      cases v with
      | null => exact absurd rfl hv
      | _ => rfl
    cases hname : required? Json.string? name <;>
      cases herror : optional? Json.string? error <;>
      cases hr : sub v <;> simp [propertyOf?, hC, ho, hname, herror, hvalue, hr]

theorem strict_list {α : Type} (f : Json → Option α) (js js' : List Json) :
    ∃ g : α → Option (List α), ∀ v, v ≠ .null →
      list? f (.array (js ++ v :: js')) = (f v).bind g := by
  refine ⟨fun a => (js.mapM f).bind fun as => (js'.mapM f).map fun as' => as ++ a :: as',
    fun v _ => ?_⟩
  cases hjs : js.mapM f <;> cases hv : f v <;> cases hjs' : js'.mapM f <;>
    simp [list?, List.mapM_append, List.mapM_cons, hjs, hv, hjs']

theorem strict_body {kind : Kind} {inner : Role} (hinner : kind.inner? = some (name, inner))
    (h : Slot kind.fields (kind.fields.idxOf name) body) : ∃ f : inner.Result → Option Record,
      ∀ v, ofBody? ofJson? kind (body v) = (inner.read v).bind f := by
  cases kind with
  | collection =>
    cases hinner
    exact strict_collection h
  | object =>
    cases hinner
    exact strict_object h
  | _ => cases hinner

theorem inner?_mem {kind : Kind} {inner : Role} (hinner : kind.inner? = some (name, inner)) :
    name ∈ kind.fields ∧ kind.fields.Nodup := by
  cases kind <;> cases hinner <;> decide

theorem strict_member {inside : Bool} {kind : Kind} {inner : Role}
    (hkind : Kind.ofMembers? inside (ms ++ ms') = some kind)
    (hinner : kind.inner? = some (name, inner)) :
    Strict (.record inside) inner fun v => .object (ms ++ (name, v) :: ms') := by
  obtain ⟨hmem, hnodup⟩ := inner?_mem hinner
  have hne : name ≠ "kind" := by
    rintro rfl
    exact kind_not_mem_kindFields kind hmem
  obtain ⟨f, hf⟩ := strict_body hinner (slot_member hnodup hmem (ms.filter (·.1 != "kind"))
    (ms'.filter (·.1 != "kind")))
  refine ⟨f, fun v _ => ?_⟩
  rw [read_object, ofMembers?_insert_other hne, hkind, Option.bind_some, filter_insert hne, hf]

theorem strict_item {inside : Bool} {kind : Kind} {inner : Role} {k : Json} {js js' : List Json}
    (hkind : Kind.said? inside k = some kind) (hinner : kind.inner? = some (name, inner))
    (hindex : js.length = kind.fields.idxOf name) :
    Strict (.record inside) inner fun v => .array (k :: (js ++ v :: js')) := by
  obtain ⟨f, hf⟩ := strict_body hinner (hindex ▸ slot_item kind.fields js js')
  refine ⟨f, fun v _ => ?_⟩
  rw [read_array, hkind, Option.bind_some, hf]

theorem strict_value (ms ms' : List (String × Json)) :
    Strict .property (.record true) fun v => .object (ms ++ ("value", v) :: ms') :=
  strict_property (fun _ => rfl) (slot_member (by decide) (by decide) ms ms')

theorem strict_valueItem (name : Json) (js : List Json) :
    Strict .property (.record true) fun v => .array (name :: v :: js) :=
  strict_property (fun _ => rfl) (slot_item propertyNames [name] js)

end

variable {role role' : Role} {C : Json → Json}

theorem Place.ne_null (h : Place role role' C) {v : Json} (hv : v ≠ .null) : C v ≠ .null := by
  cases h with
  | here => exact hv
  | _ => simp

theorem Strict.comp {inner : Role} {D : Json → Json} (hD : Strict role inner D)
    (hnull : ∀ v, v ≠ .null → C v ≠ .null) (hC : Strict inner role' C) :
    Strict role role' fun v => D (C v) := by
  obtain ⟨g, hg⟩ := hD
  obtain ⟨f, hf⟩ := hC
  refine ⟨fun r => (f r).bind g, fun v hv => ?_⟩
  rw [hg (C v) (hnull v hv), hf v hv, Option.bind_assoc]

theorem Place.strict (h : Place role role' C) : Strict role role' C := by
  induction h with
  | here role => exact ⟨some, fun v _ => (Option.bind_fun_some _).symm⟩
  | member hkind hinner h ih => exact (strict_member hkind hinner).comp (fun _ => h.ne_null) ih
  | item hkind hinner hindex h ih =>
    exact (strict_item hkind hinner hindex).comp (fun _ => h.ne_null) ih
  | value h ih => exact (strict_value _ _).comp (fun _ => h.ne_null) ih
  | valueItem h ih => exact (strict_valueItem _ _).comp (fun _ => h.ne_null) ih
  | @records role js js' C h ih =>
    have hlist : Strict .records (.record true) fun v => .array (js ++ v :: js') :=
      strict_list ofJson? js js'
    exact hlist.comp (fun _ => h.ne_null) ih
  | @properties role js js' C h ih =>
    have hlist : Strict .properties .property fun v => .array (js ++ v :: js') :=
      strict_list (propertyOf? ofJson?) js js'
    exact hlist.comp (fun _ => h.ne_null) ih

/-- Neither the order of the members nor one that is not known matters, in a value or in the text of
one, and one that is known stands there once. -/
theorem members_in_any_order :
    (∀ j k, Permuted j k → ofNamedJson? j = ofNamedJson? k ∧ ofJson? j = ofJson? k) ∧
    (∀ text, (parse text).toOption = (Json.parse text).toOption.bind ofNamedJson?) ∧
    (∀ text text' j k, Json.parse text = .ok j → Json.parse text' = .ok k → Permuted j k →
      (parse text).toOption = (parse text').toOption) ∧
    ∀ role role' C, Place role role' C →
      (∀ ms ms' name v, name ∉ role'.names (ms ++ ms') →
        role.read (C (.object (ms ++ (name, v) :: ms'))) = role.read (C (.object (ms ++ ms')))) ∧
      ∀ ms name, name ∈ role'.names ms → 2 ≤ ms.countP (·.1 == name) →
        role.read (C (.object ms)) = none := by
  refine ⟨fun j k h => ⟨ofNamedJson?_permuted h, ofJson?_permuted h⟩, parse_eq,
    fun text text' j k hj hk h => ?_, fun role role' C h => ?_⟩
  · rw [parse_eq, parse_eq, hj, hk]
    exact ofNamedJson?_permuted h
  · obtain ⟨f, hf⟩ := h.strict
    refine ⟨fun ms ms' name v hname => ?_, fun ms name hname htwice => ?_⟩
    · rw [hf _ Json.noConfusion, hf _ Json.noConfusion, read_insert_other hname]
    · rw [hf _ Json.noConfusion, read_twice hname htwice]
      rfl

def boolItem : Json := .object [("value", .bool true), ("kind", .string "bool")]

/-- A collection of one item, whose kind comes last. -/
def collected (item : Json) : Json :=
  .object [("items", .array [item]), ("kind", .string "collection")]

def boolItemReversed : Json := .object [("kind", .string "bool"), ("value", .bool true)]

def collectedReversed (item : Json) : Json :=
  .object [("kind", .string "collection"), ("items", .array [item])]

def kindsLast : String :=
  "\x7b\"items\":[\x7b\"value\":true,\"kind\":\"bool\"\x7d],\"kind\":\"collection\"\x7d"

def kindsFirst : String :=
  "\x7b\"kind\":\"collection\",\"items\":[\x7b\"kind\":\"bool\",\"value\":true\x7d]\x7d"

theorem permuted_collected :
    Permuted (collected boolItem) (collectedReversed boolItemReversed) := by
  have hitem : Permuted boolItem boolItemReversed :=
    .parts (.object (Json.forall₂_memberRel_same fun m _ => .refl m.2) (.swap _ _ _))
  have hitems : Permuted (.array [boolItem]) (.array [boolItemReversed]) :=
    .parts (.array (.cons hitem .nil))
  exact .parts (.object (.cons (.mk hitems) (.cons (.mk (.refl _)) .nil)) (.swap _ _ _))

theorem place_collected : Place (.record false) (.record true) collected := by
  have hitems : Place .records (.record true) fun item => .array ([] ++ item :: []) :=
    .records (.here _)
  exact @Place.member _ _ _ _ _ [] _ _ rfl rfl hitems

/-- A truth value has no items, so they do not matter; a second value does. -/
theorem members_in_any_order_collected :
    ofNamedJson? (collected boolItem) = ofNamedJson? (collectedReversed boolItemReversed) ∧
    (parse kindsLast).toOption = some (.collection [.bool true]) ∧
    (parse kindsLast).toOption = (parse kindsFirst).toOption ∧
    ofNamedJson? (collected (.object
      [("value", .bool true), ("items", .null), ("kind", .string "bool")])) =
      some (.collection [.bool true]) ∧
    ofNamedJson? (collected (.object
      [("value", .bool true), ("kind", .string "bool"), ("value", .bool true)])) = none := by
  obtain ⟨hvalue, hparse, htext, hplace⟩ := members_in_any_order
  obtain ⟨hother, htwice⟩ := hplace _ _ _ place_collected
  have hlast : Json.parse kindsLast = .ok (collected boolItem) := rfl
  have hfirst : Json.parse kindsFirst = .ok (collectedReversed boolItemReversed) := rfl
  have hplain : ofNamedJson? (collected boolItem) = some (.collection [.bool true]) := rfl
  have hnames : "items" ∉ Role.names [("value", .bool true), ("kind", .string "bool")]
      (.record true) := by decide
  refine ⟨(hvalue _ _ permuted_collected).1, ?_, htext _ _ _ _ hlast hfirst permuted_collected,
    ?_, ?_⟩
  · rw [hparse, hlast]
    exact hplain
  · refine Eq.trans ?_ hplain
    exact hother [("value", .bool true)] [("kind", .string "bool")] "items" .null hnames
  · exact htwice _ "value" (by decide) (by decide)

end CommandBridge.Record
