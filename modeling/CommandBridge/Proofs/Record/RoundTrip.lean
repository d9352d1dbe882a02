import CommandBridge.Proofs.Record.Finite

/-! Records are read back from their JSON text. -/
namespace CommandBridge.Record

open Json (Body)

theorem leaves_typeNames (names : List String) :
    ∀ m ∈ typeNamesField names, m.2.Leaves Json.Rereads := by
  cases names with
  | nil => exact List.forall_mem_nil _
  | cons n ns =>
    refine List.forall_mem_singleton.mpr (Json.itemLeaves_iff.mpr ?_)
    exact List.forall_mem_map.mpr fun s _ => Json.rereads_string s

theorem leaves_propertyJson {p : Property Record}
    (h : ∀ r, p.value = some r → r.toJson.Leaves Json.Rereads) :
    (propertyJson p).Leaves Json.Rereads := by
  rw [propertyJson_eq]
  refine Json.memberLeaves_iff.mpr (List.forall_mem_cons.mpr ⟨Json.rereads_string p.name, ?_⟩)
  refine List.forall_mem_append.mpr ⟨List.forall_mem_map.mpr fun r hr => ?_, ?_⟩
  · exact h r (Option.mem_toList.mp hr)
  · exact List.forall_mem_map.mpr fun e _ => Json.rereads_string e

theorem leaves_toJson {r : Record}
    (hfloats : ∀ x, float x ∈ r.atoms → (Json.float x).Rereads) :
    r.toJson.Leaves Json.Rereads := by
  induction r using parts_induction with
  | h r ih =>
    have hparts : ∀ p ∈ r.parts, p.toJson.Leaves Json.Rereads :=
      fun p hp => ih p hp fun x hx => hfloats x (mem_atoms_of_mem_parts hp hx)
    have hint : ∀ n : Int64, (Json.int n.toInt).Rereads := fun n => by
      have hlow := n.le_toInt
      have hhigh := n.toInt_lt
      exact Json.rereads_int ⟨by omega, by omega⟩
    rw [toJson_eq]
    refine Json.memberLeaves_iff.mpr (List.forall_mem_cons.mpr ⟨Json.rereads_string _, ?_⟩)
    cases r with
    | null => exact List.forall_mem_nil _
    | string s => exact List.forall_mem_singleton.mpr (Json.rereads_string s)
    | bool b => exact List.forall_mem_singleton.mpr (Json.rereads_bool b)
    | int n => exact List.forall_mem_singleton.mpr (hint n)
    | float x => exact List.forall_mem_singleton.mpr (hfloats x (List.mem_singleton_self _))
    | moment t => exact List.forall_mem_singleton.mpr (Json.rereads_string _)
    | guid g => exact List.forall_mem_singleton.mpr (Json.rereads_string _)
    | enum name value =>
      cases value with
      | none => exact List.forall_mem_singleton.mpr (Json.rereads_string name)
      | some n =>
        exact List.forall_mem_cons.mpr
          ⟨Json.rereads_string name, List.forall_mem_singleton.mpr (hint n)⟩
    | collection items =>
      refine List.forall_mem_singleton.mpr (Json.itemLeaves_iff.mpr ?_)
      exact List.forall_mem_map.mpr hparts
    | object text typeNames ps =>
      refine List.forall_mem_cons.mpr ⟨Json.rereads_string text, ?_⟩
      refine List.forall_mem_append.mpr ⟨leaves_typeNames typeNames, ?_⟩
      refine List.forall_mem_singleton.mpr (Json.itemLeaves_iff.mpr ?_)
      exact List.forall_mem_map.mpr fun p hp => leaves_propertyJson fun r hr =>
        hparts r (List.mem_filterMap.mpr ⟨p, hp, hr⟩)

theorem readMember_others {depth : Nat} {k : Kind} (others : List (String × Json))
    {ms : List (String × Json)}
    (hread : ∀ m ∈ ms, m.2.ReadsOff depth) (hkind : ∀ m ∈ ms, m.1 ≠ "kind") :
    Json.FoldsMembers (readMember depth) ⟨some k, others⟩ ms ⟨some k, ms.reverse ++ others⟩ := by
  induction ms generalizing others with
  | nil => rfl
  | cons m ms ih =>
    obtain ⟨hm, hms⟩ := List.forall_mem_cons.mp hread
    obtain ⟨hne, hkind⟩ := List.forall_mem_cons.mp hkind
    refine ⟨⟨some k, m :: others⟩, fun rest hrest => ?_, ?_⟩
    · rw [readMember, if_neg hne, Json.consMember_print (hm _ hrest) others m.1]
      rfl
    · rw [List.reverse_cons, List.append_assoc, List.singleton_append]
      exact ih (m :: others) hms hkind

theorem readMember_kind {depth : Nat} (k : Kind) (rest : List Char) :
    readMember depth ⟨none, []⟩ "kind" (':' :: ((Json.string k.name).print ++ rest)) =
      .ok (⟨some k, []⟩, rest) := by
  have hkind : readKind ((Json.string k.name).print ++ rest) = .ok (k, rest) := by
    rw [Json.print, Json.printString_append, readKind, Json.skipSpace_cons rfl]
    simp only [Json.stringRest_printed, ofName?_name]
  have hcolon : Json.colon (':' :: ((Json.string k.name).print ++ rest)) =
      .ok ((), (Json.string k.name).print ++ rest) := rfl
  rw [readMember, if_pos rfl, if_neg (by decide), hcolon]
  show (readKind _).bind _ = _
  rw [hkind]
  rfl

theorem reader_object (depth : Nat) (s : List Char) :
    reader (depth + 1) ('\x7b' :: s) =
      (Json.members (readMember depth) (s.length + 1) true ⟨none, []⟩ s).bind fun p =>
        finish p.1.kind (.members p.1.others.reverse) (Json.membersHeight p.1.others) p.2 := rfl

theorem reader_print {depth : Nat} {r : Record}
    (hmoments : ∀ t, moment t ∈ r.atoms → Moment.read? t.text = some t)
    (hleaves : r.toJson.Leaves Json.Rereads) (hheight : r.toJson.height ≤ depth) :
    reader depth r.toJson.print = .ok (r, []) := by
  rw [height_toJson] at hheight
  obtain ⟨depth, rfl⟩ := Nat.exists_eq_add_one.mpr (Nat.lt_of_lt_of_le (Nat.succ_pos _) hheight)
  rw [toJson_eq] at hleaves ⊢
  have hleaves := Json.memberLeaves_iff.mp hleaves.2
  have hreads : ∀ m ∈ r.fields, m.2.ReadsOff depth := fun m hm =>
    Json.readsOff m.2 (hleaves m hm)
      (Nat.le_trans (Json.height_le_membersHeight hm) (Nat.le_of_succ_le_succ hheight))
  have hfolds : Json.FoldsMembers (readMember depth) ⟨none, []⟩
      (("kind", .string r.kind.name) :: r.fields) ⟨some r.kind, r.fields.reverse⟩ :=
    ⟨⟨some r.kind, []⟩, fun rest _ => readMember_kind r.kind rest, by
      simpa using readMember_others [] (k := r.kind) hreads (kind_not_mem_fields r)⟩
  have hread := Json.members_print hfolds
    (Nat.lt_succ_of_le (Json.length_le_printMembers _)) []
  have hbody : ofBody? (ofJsonWithin? (Json.membersHeight r.fields.reverse)) r.kind
      (.members r.fields) = some r := by
    refine ofBody?_fields (fun t ht => hmoments t ?_) fun p hp => ofJsonWithin?_toJson ?_ ?_
    · rw [ht]
      exact List.mem_singleton_self _
    · exact fun t ht => hmoments t (mem_atoms_of_mem_parts hp ht)
    · have hpart := height_lt_of_mem_parts hp
      rw [height_toJson r] at hpart
      refine Nat.le_trans (Nat.le_of_lt_succ hpart) (Json.membersHeight_le fun m hm => ?_)
      exact Json.height_le_membersHeight (List.mem_reverse.mpr hm)
  rw [List.append_nil] at hread
  rw [Json.print, reader_object, hread]
  show finish (some r.kind) (.members r.fields.reverse.reverse) _ [] = _
  rw [List.reverse_reverse, finish, Option.bind_some, hbody]

/-- The floats and moments in a record are read back from their own texts. -/
structure Faithful (r : Record) : Prop where
  float : ∀ x, float x ∈ r.atoms → x.isFinite = true →
    Json.parse (Json.compact (.float x)) = .ok (.float x)
  moment : ∀ t, moment t ∈ r.atoms → Moment.read? t.text = some t

theorem parse_print {r : Record} (hfinite : ∀ x, Record.float x ∈ r.atoms → x.isFinite = true)
    (hfaithful : r.Faithful) (hheight : r.toJson.height ≤ Json.maxDepth) :
    parse r.toJson.compact = .ok r := by
  have hleaves := leaves_toJson fun x hx => hfaithful.float x hx (hfinite x hx)
  rw [parse, Json.compact, String.toList_ofList]
  exact Json.complete_eq_ok.mpr ⟨[], reader_print hfaithful.moment hleaves hheight, rfl⟩

theorem finite_of_parse {text : String} {r : Record} (h : parse text = .ok r)
    {x : Decimal.Binary64} (hx : Record.float x ∈ r.atoms) : x.isFinite = true := by
  obtain ⟨rest, hread, -⟩ := Json.complete_eq_ok.mp h
  exact finite_of_reader hread hx

theorem ofNamedJson?_toJson {r : Record}
    (hmoments : ∀ t, Record.moment t ∈ r.atoms → Moment.read? t.text = some t) :
    ofNamedJson? r.toJson = some r := by
  rw [ofNamedJson?, splitKind?_toJson, Option.bind_eq_bind, Option.bind_some]
  exact ofJsonWithin?_toJson hmoments (Nat.le_refl _)

/-- Nothing of a record is lost in its text or in its JSON, and a text that was accepted in any
other form comes back from its record. -/
theorem parse_compact_toJson :
    (∀ r : Record, (∀ x, Record.float x ∈ r.atoms → x.isFinite = true) → r.Faithful →
      r.toJson.height ≤ Json.maxDepth → parse r.toJson.compact = .ok r) ∧
    (∀ (text : String) (r : Record), parse text = .ok r → r.Faithful →
      r.toJson.height ≤ Json.maxDepth → parse r.toJson.compact = .ok r) ∧
    (∀ r : Record, (∀ t, Record.moment t ∈ r.atoms → Moment.read? t.text = some t) →
      ofNamedJson? r.toJson = some r) :=
  ⟨fun _ hfinite => parse_print hfinite,
    fun _ _ h => parse_print fun _ hx => finite_of_parse h hx,
    fun _ => ofNamedJson?_toJson⟩

def oneAndAHalf : Decimal.Binary64 := ⟨false, ⟨1023, by decide⟩, ⟨0x8000000000000, by decide⟩⟩

/-- Records of every kind, in properties of every form. -/
def assortment : Record :=
  .object "@\x7bName=\"a\"\x7d" ["Deserialized.Mailbox"]
    [⟨"Name", some (.string "a\nb"), none⟩, ⟨"Manager", some .null, none⟩, ⟨"Absent", none, none⟩,
      ⟨"Quota", none, some "getter failed"⟩, ⟨"Size", some (.float oneAndAHalf), some "stale"⟩,
      ⟨"Parts", some (.collection [.bool true, .int Int64.minValue, .guid ⟨0x6f1c3d58#128⟩,
        .moment ⟨19782, ⟨3661, by decide⟩, ⟨500000000, by decide⟩⟩, .enum "Shared" none,
        .enum "User" (some 1), .collection [], .object "" [] []]), none⟩]

theorem rereads_oneAndAHalf : (Json.float oneAndAHalf).Rereads := by
  have htext : (Json.float oneAndAHalf).compact = "1.5" := by decide +kernel
  have hdigits : Json.value Json.maxDepth "1.5".toList = Json.scaledNumber false 15 (-1) [] := rfl
  have hscaled : Json.scaled? false 15 (-1) = some oneAndAHalf := by
    rw [Json.scaled?, if_pos (by decide), Json.shrink, if_pos (by decide)]
    decide +kernel
  rw [Json.Rereads, htext, Json.parse, Json.complete, hdigits, Json.scaledNumber, hscaled]
  rfl

theorem atoms_assortment :
    assortment.atoms = [.string "a\nb", .null, .float oneAndAHalf, .bool true,
      .int Int64.minValue, .guid ⟨0x6f1c3d58#128⟩, .moment ⟨19782, 3661, 500000000⟩,
      .enum "Shared" none, .enum "User" (some 1)] := rfl

theorem faithful_assortment : assortment.Faithful := by
  constructor
  · intro x hx _
    obtain rfl : x = oneAndAHalf := by simpa [atoms_assortment] using hx
    exact rereads_oneAndAHalf
  · intro t ht
    obtain rfl : t = ⟨19782, 3661, 500000000⟩ := by simpa [atoms_assortment] using ht
    rfl

/-- The second text has its members in another order, and a null that stands for no value. -/
theorem parse_compact_toJson_assortment :
    assortment.toJson.height = 7 ∧ parse assortment.toJson.compact = .ok assortment ∧
      parse "\x7b\"value\":null,\"name\":\"b\",\"kind\":\"enum\"\x7d" = .ok (.enum "b" none) ∧
      parse (enum "b" none).toJson.compact = .ok (.enum "b" none) ∧
      ofNamedJson? assortment.toJson = some assortment := by
  obtain ⟨hprinted, haccepted, hinside⟩ := parse_compact_toJson
  have hfinite : ∀ x, Record.float x ∈ assortment.atoms → x.isFinite = true := by
    intro x hx
    obtain rfl : x = oneAndAHalf := by simpa [atoms_assortment] using hx
    rfl
  have henum : (enum "b" none).Faithful := by
    constructor <;> simp [atoms]
  have hother : parse "\x7b\"value\":null,\"name\":\"b\",\"kind\":\"enum\"\x7d" =
      .ok (.enum "b" none) := rfl
  exact ⟨rfl, hprinted assortment hfinite faithful_assortment (by decide), hother,
    haccepted _ _ hother henum (by decide), hinside assortment faithful_assortment.moment⟩

end CommandBridge.Record
