import CommandBridge.Proofs.Json.Fields
import CommandBridge.Proofs.Json.Following
import CommandBridge.Proofs.Record.Order

/-! Reading a record off text gives the record of the value that the text stands for. -/
namespace CommandBridge.Record

open Json (Body BodyMatches Reader consItem consMember members_follows elements_follows single?
  single?_cons single?_cons_other skipSpace stringRest through through_consItem through_consMember
  through_eq_none through_map toOption_return value)

/-- The kind that a name gives. -/
def namedKind? (j : Json) : Option Kind := j.string?.bind Kind.ofName?

theorem ofNamedJson?_eq (j : Json) : ofNamedJson? j =
    (splitKind? j).bind fun p => (namedKind? p.1).bind fun kind => ofBody? ofJson? kind p.2 := by
  rw [ofNamedJson?]
  cases h : splitKind? j with
  | none => rfl
  | some p =>
    have hrecord : ofJson? j = (Kind.ofJson? p.1).bind fun kind => ofBody? ofJson? kind p.2 := by
      rw [ofJson?_eq, ofLevel?, h, Option.bind_some]
    obtain ⟨k, body⟩ := p
    cases k with
    | string s => exact hrecord
    | _ => rfl

theorem namedKind?_of_string? {j : Json} (h : j.string? = none) : namedKind? j = none := by
  rw [namedKind?, h]
  rfl

/-- A name is looked at as soon as it is read; other values give no kind in the end. -/
theorem readKind_eq (depth : Nat) (s : List Char) :
    (readKind s).toOption = through namedKind? (value depth s) := by
  have hother (hs : ∀ t, skipSpace s ≠ '"' :: t) : none = through namedKind? (value depth s) :=
    (through_eq_none fun j rest h => namedKind?_of_string? (Json.string?_of_value hs h)).symm
  rw [readKind]
  split
  · rename_i t hs
    rw [Json.value_scalar (by simp [hs]) (by simp [hs]), hs, Json.scalar]
    cases hname : stringRest t with
    | error e => rfl
    | ok p =>
      cases hkind : Kind.ofName? p.1 with
      | none => simp [through, namedKind?, Json.string?, Except.toOption, hkind]
      | some k => simp [through, namedKind?, Json.string?, Except.toOption, hkind]
  · exact hother (by simp [*])
  · exact hother (by simp [*])
  · rename_i hquote _ _
    rw [← hother hquote]
    split <;> rfl

/-- What the members read so far say of a record, newest first. -/
def membersDraft? (ms : List (String × Json)) : Option (Draft (String × Json)) :=
  (single? "kind" ms).bind fun
    | none => some ⟨none, ms.filter (·.1 != "kind")⟩
    | some j => (namedKind? j).map (⟨some ·, ms.filter (·.1 != "kind")⟩)

/-- What the items read so far say of a record, newest first. -/
def itemsDraft? : List Json → Option (Draft Json)
  | [] => some ⟨none, []⟩
  | j :: js => (itemsDraft? js).bind fun acc =>
    match acc.kind with
    | none => (namedKind? j).map (⟨some ·, []⟩)
    | some k => some ⟨some k, j :: acc.others⟩

theorem membersDraft?_other {name : String} (hname : name ≠ "kind") (j : Json)
    (ms : List (String × Json)) : membersDraft? ((name, j) :: ms) =
      (membersDraft? ms).map fun acc => ⟨acc.kind, (name, j) :: acc.others⟩ := by
  rw [membersDraft?, membersDraft?, single?_cons_other hname,
    List.filter_cons_of_pos (by simpa using hname)]
  rcases single? "kind" ms with _ | _ | k
  · rfl
  · rfl
  · cases hk : namedKind? k <;> simp [hk]

theorem membersDraft?_kind (j : Json) (ms : List (String × Json)) :
    membersDraft? (("kind", j) :: ms) = (membersDraft? ms).bind fun acc =>
      if acc.kind.isSome then none else (namedKind? j).map (⟨some ·, acc.others⟩) := by
  rw [membersDraft?, membersDraft?, single?_cons, List.filter_cons_of_neg (by simp)]
  rcases single? "kind" ms with _ | _ | k
  · rfl
  · rfl
  · cases hk : namedKind? k <;> simp [hk]

section
variable {depth : Nat} {name : String} {s rest : List Char}

theorem readKind_draft {α : Type} (depth : Nat) (others : List α) (s : List Char) :
    (readKind s >>= fun p => return (Draft.mk (some p.1) others, p.2)).toOption =
      through (fun j => (namedKind? j).map (⟨some ·, others⟩)) (value depth s) := by
  rw [← through_map (f := fun kind => Draft.mk (some kind) others), ← readKind_eq]
  cases readKind s <;> rfl

theorem readMember_follows {acc : Draft (String × Json)} {ms : List (String × Json)}
    (h : membersDraft? ms = some acc) : (readMember depth acc name s).toOption =
      through membersDraft? (consMember (value depth) ms name s) := by
  rw [readMember, through_consMember]
  by_cases hname : name = "kind"
  · subst hname
    simp only [membersDraft?_kind, h, Option.bind_some, if_true]
    cases Json.colon s with
    | error e => split <;> rfl
    | ok p =>
      split
      · exact (through_eq_none fun _ _ _ => rfl).symm
      · exact readKind_draft depth acc.others p.2
  · rw [if_neg hname]
    refine (toOption_return (Draft.mk acc.kind) _).trans ?_
    simp only [through_consMember, membersDraft?_other hname, h, Option.map_some]

theorem readItem_follows {acc : Draft Json} {js : List Json} (h : itemsDraft? js = some acc) :
    (readItem depth acc s).toOption = through itemsDraft? (consItem (value depth) js s) := by
  rw [readItem, through_consItem]
  simp only [itemsDraft?, h, Option.bind_some]
  cases acc.kind with
  | none => exact readKind_draft depth [] s
  | some k =>
    refine (toOption_return (Draft.mk (some k)) _).trans ?_
    rw [through_consItem]

theorem membersDraft?_stuck {ms ms' : List (String × Json)} (h : membersDraft? ms = none)
    (hread : consMember (value depth) ms name s = .ok (ms', rest)) : membersDraft? ms' = none := by
  rw [consMember] at hread
  split at hread
  · cases hread
  · split at hread
    · cases hread
      by_cases hname : name = "kind"
      · rw [hname, membersDraft?_kind, h]
        rfl
      · rw [membersDraft?_other hname, h]
        rfl
    · cases hread

theorem itemsDraft?_stuck {js js' : List Json} (h : itemsDraft? js = none)
    (hread : consItem (value depth) js s = .ok (js', rest)) : itemsDraft? js' = none := by
  rw [consItem] at hread
  split at hread
  · cases hread
    rw [itemsDraft?, h]
    rfl
  · cases hread

theorem itemsDraft?_concat (js : List Json) (k : Json) :
    itemsDraft? (js ++ [k]) = (namedKind? k).map (⟨some ·, js⟩) := by
  induction js with
  | nil => rfl
  | cons j js ih =>
    rw [List.cons_append, itemsDraft?, ih]
    cases namedKind? k <;> rfl

/-- The record of a kind that may be missing. -/
def ofKind? (sub : Json → Option Record) (kind : Option Kind) (body : Body) : Option Record :=
  kind.bind fun k => ofBody? sub k body

theorem finish_eq (kind : Option Kind) (body : Body) (height : Nat) (rest : List Char) :
    (finish kind body height rest).toOption =
      (ofKind? (ofJsonWithin? height) kind body).map (·, rest) := by
  rw [finish, ofKind?]
  cases kind.bind fun k => ofBody? (ofJsonWithin? height) k body <;> rfl

theorem splitKind?_of_height_eq_zero {j : Json} (h : j.height = 0) : splitKind? j = none := by
  cases j with
  | array | object => cases h
  | _ => rfl

theorem ofNamedJson?_object (ms : List (String × Json)) : ofNamedJson? (.object ms.reverse) =
    (membersDraft? ms).bind fun acc => ofKind? (ofJsonWithin? (Json.membersHeight acc.others))
      acc.kind (.members acc.others.reverse) := by
  have hbody (others : List (String × Json)) (k : Kind) :
      ofBody? (ofJsonWithin? (Json.membersHeight others)) k (.members others.reverse) =
        ofBody? ofJson? k (.members others) := by
    refine ofBody?_eq low_matches ofJsonWithin?_low (.members ?_ others.reverse_perm) k
    refine Json.forall₂_memberRel_same fun m hm => ⟨rfl, ?_⟩
    exact Json.height_le_membersHeight (List.mem_reverse.mp hm)
  have hreverse : Json.Permuted (.object ms.reverse) (.object ms) :=
    .parts (.object (Json.forall₂_memberRel_same fun m _ => .refl m.2) ms.reverse_perm)
  rw [ofNamedJson?_permuted hreverse, ofNamedJson?_eq, splitKind?, membersDraft?]
  rcases single? "kind" ms with _ | _ | k
  · rfl
  · rfl
  · cases hk : namedKind? k with
    | none => simp [hk]
    | some kind => simp [hk, ofKind?, hbody]

theorem ofNamedJson?_array (js : List Json) : ofNamedJson? (.array js.reverse) =
    (itemsDraft? js).bind fun acc => ofKind? (ofJsonWithin? (Json.itemsHeight acc.others))
      acc.kind (.items acc.others.reverse) := by
  have hbody (others : List Json) (k : Kind) :
      ofBody? (ofJsonWithin? (Json.itemsHeight others)) k (.items others.reverse) =
        ofBody? ofJson? k (.items others.reverse) := by
    refine ofBody?_low (.items (List.forall₂_same.mpr fun j hj => ⟨rfl, ?_⟩)) k
    exact Json.height_le_itemsHeight (List.mem_reverse.mp hj)
  rcases List.eq_nil_or_concat js with rfl | ⟨js, k, rfl⟩
  · rfl
  · rw [List.concat_eq_append, List.reverse_append, itemsDraft?_concat, ofNamedJson?_eq]
    cases hk : namedKind? k with
    | none => simp [splitKind?, hk]
    | some kind => simp [splitKind?, hk, ofKind?, hbody]

/-- A container and the record that is made of what was read of it. -/
theorem finish_follows {α : Type} {x : Except Json.Fault (Draft α × List Char)}
    {y : Except Json.Fault (List α × List Char)} {ψ : List α → Option (Draft α)}
    {body : List α → Body} {height : List α → Nat} {container : List α → Json}
    (h : x.toOption = through ψ y)
    (hrecord : ∀ as, ofNamedJson? (container as.reverse) = (ψ as).bind fun acc =>
      ofKind? (ofJsonWithin? (height acc.others)) acc.kind (body acc.others.reverse)) :
    (x >>= fun p => finish p.1.kind (body p.1.others.reverse) (height p.1.others) p.2).toOption =
      through ofNamedJson? (y.map fun p => (container p.1.reverse, p.2)) := by
  obtain ⟨acc, as, rest, rfl, rfl, hacc⟩ | ⟨⟨e, rfl⟩, hy⟩ := Json.through_cases h
  · simp only [Except.map, Json.through_ok, hrecord, hacc, Option.bind_some]
    exact finish_eq _ _ _ _
  · cases y with
    | error => rfl
    | ok p =>
      simp only [Except.map, Json.through_ok, hrecord, hy p.1 p.2 rfl]
      rfl

theorem members_draft (depth : Nat) (s : List Char) :
    (Json.members (readMember depth) (s.length + 1) true ⟨none, []⟩ s).toOption =
      through membersDraft? (Json.members (consMember (value depth)) (s.length + 1) true [] s) := by
  apply members_follows (f := readMember depth) (g := consMember (value depth))
  · exact readMember_follows
  · exact membersDraft?_stuck
  · rfl

theorem items_draft (depth : Nat) (s : List Char) :
    (Json.elements (readItem depth) (s.length + 1) true ⟨none, []⟩ s).toOption =
      through itemsDraft? (Json.elements (consItem (value depth)) (s.length + 1) true [] s) := by
  apply elements_follows (f := readItem depth) (g := consItem (value depth))
  · exact readItem_follows
  · exact itemsDraft?_stuck
  · rfl

theorem reader_eq (depth : Nat) (s : List Char) :
    (reader depth s).toOption = through ofNamedJson? (value depth s) := by
  rw [reader]
  split
  · rename_i t hs
    cases depth with
    | zero =>
      rw [value, hs]
      rfl
    | succ depth =>
      rw [Json.value_object hs]
      refine (congrArg Except.toOption (if_neg (Nat.succ_ne_zero depth))).trans ?_
      exact finish_follows (members_draft depth t) ofNamedJson?_object
  · rename_i t hs
    cases depth with
    | zero =>
      rw [value, hs]
      rfl
    | succ depth =>
      rw [Json.value_array hs]
      refine (congrArg Except.toOption (if_neg (Nat.succ_ne_zero depth))).trans ?_
      exact finish_follows (items_draft depth t) ofNamedJson?_array
  · rename_i hbrace hbracket
    rw [Json.value_scalar hbracket hbrace]
    refine Eq.trans ?_ (through_eq_none fun j rest h => ?_).symm
    · split <;> rfl
    · rw [ofNamedJson?, splitKind?_of_height_eq_zero (Json.height_of_scalar h)]
      rfl

/-- A text gives the record that its value gives. -/
theorem parse_eq (text : String) :
    (parse text).toOption = (Json.parse text).toOption.bind ofNamedJson? :=
  Json.complete_eq (reader_eq _ _)

end

end CommandBridge.Record
