import PartitionRouting.Proofs.Json.Values

/-!
# Records in a document

A record is written as an object or as an array.  Of an object only the members with the
names of the fields count, each name once; so it may be changed in many ways without a change
of what it stands for.

## Main definitions

* `Json.RecordForm` — a record written out, as an object or as an array.
* `Json.fieldOf?` — what a field is read as among the members of an object.
* `Json.RecordChange` — changes of the members of an object that do not matter.
* `Json.Faulty` — a field that occurs twice, or has no value.

## Main results

* `Json.RecordForm.fields?` — the fields of a record are found in what is written out for it.
* `Json.memberFields?_three` — the fields of an object are the only values of their names.
* `Json.RecordChange.fieldOf?_eq` — **changes that do not matter keep what is read.**
* `Json.Faulty.null_mem` — a faulty record gives no fields, or one that is null.
-/

namespace PartitionRouting
namespace Json

/-- **A record written out**: an object with a member for each field, by name, or an array with
an item for each field, in order. -/
inductive RecordForm (fields : List (String × (Value → Prop))) : Value → Prop
  /-- An object. -/
  | object {members : List (Spelling × Value)}
    (h : fields.Forall₂ (fun f m => m.1.Spells f.1.toList ∧ f.2 m.2) members) :
    RecordForm fields (.object members)
  /-- An array. -/
  | array {items : List Value} (h : fields.Forall₂ (fun f v => f.2 v) items) :
    RecordForm fields (.array items)

/-! ### The values of a name -/

/-- The values of the members with a name, in order. -/
def valuesOf (name : String) (members : List (Spelling × Value)) : List Value :=
  (members.filter fun m => m.1.text? = some name).map (·.2)

/-- The only value of a list, where it may have none.  Several are refused. -/
def sole? : List Value → Option (Option Value)
  | [] => some none
  | [v] => some (some v)
  | _ => none

/-- Every key is a text. -/
def Keyed (members : List (Spelling × Value)) : Prop := ∀ m ∈ members, m.1.text?.isSome

theorem valuesOf_cons_of_eq {name : String} {m : Spelling × Value} (h : m.1.text? = some name)
    (ms : List (Spelling × Value)) : valuesOf name (m :: ms) = m.2 :: valuesOf name ms := by
  simp [valuesOf, h]

theorem valuesOf_cons_of_ne {name : String} {m : Spelling × Value} (h : m.1.text? ≠ some name)
    (ms : List (Spelling × Value)) : valuesOf name (m :: ms) = valuesOf name ms := by
  simp [valuesOf, h]

theorem valuesOf_append (name : String) (ms ms' : List (Spelling × Value)) :
    valuesOf name (ms ++ ms') = valuesOf name ms ++ valuesOf name ms' := by
  simp [valuesOf]

theorem valuesOf_eq_nil {name : String} {ms : List (Spelling × Value)}
    (h : ∀ m ∈ ms, ¬m.1.Spells name.toList) : valuesOf name ms = [] := by
  rw [valuesOf, List.map_eq_nil_iff, List.filter_eq_nil_iff]
  intro m hm
  simpa [Spelling.text?_eq_some_iff] using h m hm

theorem mem_valuesOf {name : String} {ms : List (Spelling × Value)} {m : Spelling × Value}
    (hm : m ∈ ms) (hname : m.1.Spells name.toList) : m.2 ∈ valuesOf name ms :=
  List.mem_map.mpr ⟨m, List.mem_filter.mpr
    ⟨hm, decide_eq_true (Spelling.text?_eq_some_iff.mpr hname)⟩, rfl⟩

/-- A name has a value for each of its members. -/
theorem valuesOf_sublist {name : String} {ms ms' : List (Spelling × Value)} (h : ms'.Sublist ms)
    (hname : ∀ m ∈ ms', m.1.Spells name.toList) : (ms'.map (·.2)).Sublist (valuesOf name ms) := by
  have hall : ms'.filter (fun m => m.1.text? = some name) = ms' :=
    List.filter_eq_self.mpr fun m hm =>
      decide_eq_true (Spelling.text?_eq_some_iff.mpr (hname m hm))
  have hfilter := h.filter fun m => decide (m.1.text? = some name)
  rw [hall] at hfilter
  exact hfilter.map _

/-- What is the only value of a list is all that there is. -/
theorem eq_toList_of_sole? {vs : List Value} {x : Option Value} (h : sole? vs = some x) :
    vs = x.toList := by
  match vs with
  | [] =>
    obtain rfl : none = x := Option.some.inj h
    rfl
  | [v] =>
    obtain rfl : some v = x := Option.some.inj h
    rfl

theorem sole?_perm {vs vs' : List Value} (h : vs.Perm vs') : sole? vs = sole? vs' := by
  match vs, vs' with
  | [], _ => rw [h.nil_eq]
  | [v], _ => rw [h.singleton_eq]
  | _ :: _ :: _, vs' =>
    match vs' with
    | [] => exact absurd h.length_eq (by simp)
    | [_] => exact absurd h.length_eq (by simp)
    | _ :: _ :: _ => rfl

/-! ### The fields of an object -/

/-- The members with their keys as texts. -/
def keyed? (members : List (Spelling × Value)) : Option (List (String × Value)) :=
  members.mapM fun m => (m.1.text?).map fun key => (key, m.2)

theorem keyed?_cons (m : Spelling × Value) (ms : List (Spelling × Value)) :
    keyed? (m :: ms) = m.1.text?.bind fun key => (keyed? ms).map ((key, m.2) :: ·) := by
  rw [keyed?, List.mapM_cons]
  cases m.1.text? with
  | none => rfl
  | some key =>
    show ((keyed? ms).bind fun rest => some ((key, m.2) :: rest)) = _
    cases keyed? ms <;> rfl

theorem isSome_keyed? {ms : List (Spelling × Value)} : (keyed? ms).isSome ↔ Keyed ms := by
  induction ms with
  | nil => simp [keyed?, Keyed]
  | cons m ms ih =>
    rw [keyed?_cons, Keyed, List.forall_mem_cons]
    cases m.1.text? with
    | none => simp
    | some key => simpa [Keyed] using ih

/-- Once the keys are texts, the values of a name are found by them. -/
theorem filter_of_keyed? {ms : List (Spelling × Value)} {l : List (String × Value)}
    (h : keyed? ms = some l) (name : String) :
    (l.filter (·.1 = name)).map (·.2) = valuesOf name ms := by
  induction ms generalizing l with
  | nil =>
    obtain rfl : [] = l := Option.some.inj h
    rfl
  | cons m ms ih =>
    rw [keyed?_cons] at h
    obtain ⟨key, hkey, h⟩ := Option.bind_eq_some_iff.mp h
    obtain ⟨rest, hrest, rfl⟩ := Option.map_eq_some_iff.mp h
    -- the head is kept on both sides or on neither
    by_cases hname : key = name
    · rw [valuesOf_cons_of_eq (hname ▸ hkey), ← ih hrest]
      simp [hname]
    · have hne : m.1.text? ≠ some name := by simpa [hkey] using hname
      rw [valuesOf_cons_of_ne hne, ← ih hrest]
      simp [hname]

theorem memberFields?_eq (names : List String) (ms : List (Spelling × Value)) :
    memberFields? names ms =
      (keyed? ms).bind fun _ => names.mapM fun name => sole? (valuesOf name ms) := by
  show ((keyed? ms).bind fun _ => names.mapM _) = _
  cases h : keyed? ms with
  | none => rfl
  | some l =>
    rw [Option.bind_some, Option.bind_some]
    congr 1
    funext name
    rw [← filter_of_keyed? h]
    generalize l.filter (·.1 = name) = found
    rcases found with - | ⟨m, - | ⟨m', found⟩⟩ <;> rfl

/-- **The fields of an object are the only values of their names.** -/
theorem memberFields?_three {a b c : String} {ms : List (Spelling × Value)}
    {x y z : Option Value} :
    memberFields? [a, b, c] ms = some [x, y, z] ↔
      Keyed ms ∧ sole? (valuesOf a ms) = some x ∧ sole? (valuesOf b ms) = some y ∧
        sole? (valuesOf c ms) = some z := by
  rw [memberFields?_eq, ← isSome_keyed?]
  cases keyed? ms with
  | none => simp
  | some l => simp [List.mapM_cons, Option.bind_eq_some_iff]

/-- **The fields of a record are found in what is written out for it.** -/
theorem RecordForm.fields? {a b c : String} {p q r : Value → Prop} (hnames : [a, b, c].Nodup)
    {v : Value} (h : RecordForm [(a, p), (b, q), (c, r)] v) :
    ∃ x y z, v.fields? [a, b, c] = some [some x, some y, some z] ∧ p x ∧ q y ∧ r z := by
  cases h with
  | @array items h =>
    simp only [List.forall₂_cons_left_iff, List.forall₂_nil_left_iff] at h
    obtain ⟨x, _, hx, ⟨y, _, hy, ⟨z, _, hz, rfl, rfl⟩, rfl⟩, rfl⟩ := h
    exact ⟨x, y, z, rfl, hx, hy, hz⟩
  | @object members h =>
    simp only [List.forall₂_cons_left_iff, List.forall₂_nil_left_iff,
      ← Spelling.text?_eq_some_iff] at h
    obtain ⟨x, _, ⟨ha, hx⟩, ⟨y, _, ⟨hb, hy⟩, ⟨z, _, ⟨hc, hz⟩, rfl, rfl⟩, rfl⟩, rfl⟩ := h
    -- as the names differ, each of them picks out one member
    refine ⟨x.2, y.2, z.2, memberFields?_three.mpr ?_, hx, hy, hz⟩
    simp only [List.nodup_cons, List.mem_cons, List.not_mem_nil, or_false, not_or] at hnames
    obtain ⟨⟨hab, hac⟩, hbc, -⟩ := hnames
    simp [Keyed, valuesOf, ha, hb, hc, hab, hac, hbc, Ne.symm hab, Ne.symm hac, Ne.symm hbc, sole?]

/-! ### What a field is read as -/

section Reading

variable {α : Type} {absent : Option α} {decode : Value → Option α} {name : String}

/-- What a field is read as among the members of an object. -/
def fieldOf? (absent : Option α) (decode : Value → Option α) (name : String)
    (members : List (Spelling × Value)) : Option α :=
  (sole? (valuesOf name members)).bind (field? absent decode)

/-- **Three fields of an object are read each by itself.** -/
theorem exists_memberFields?_three {β γ : Type} {absent' : Option β} {absent'' : Option γ}
    {decode' : Value → Option β} {decode'' : Value → Option γ} {a b c : String}
    {ms : List (Spelling × Value)} {x : α} {y : β} {z : γ} :
    (∃ u v w, memberFields? [a, b, c] ms = some [u, v, w] ∧ field? absent decode u = some x ∧
      field? absent' decode' v = some y ∧ field? absent'' decode'' w = some z) ↔
    Keyed ms ∧ fieldOf? absent decode a ms = some x ∧ fieldOf? absent' decode' b ms = some y ∧
      fieldOf? absent'' decode'' c ms = some z := by
  simp only [fieldOf?, Option.bind_eq_some_iff]
  constructor
  · rintro ⟨u, v, w, hfields, hx, hy, hz⟩
    obtain ⟨hkeyed, hu, hv, hw⟩ := memberFields?_three.mp hfields
    exact ⟨hkeyed, ⟨u, hu, hx⟩, ⟨v, hv, hy⟩, ⟨w, hw, hz⟩⟩
  · rintro ⟨hkeyed, ⟨u, hu, hx⟩, ⟨v, hv, hy⟩, ⟨w, hw, hz⟩⟩
    exact ⟨u, v, w, memberFields?_three.mpr ⟨hkeyed, hu, hv, hw⟩, hx, hy, hz⟩

/-- A field is read as its values say. -/
theorem fieldOf?_congr {ms ms' : List (Spelling × Value)}
    (h : (valuesOf name ms).map decode = (valuesOf name ms').map decode) :
    fieldOf? absent decode name ms = fieldOf? absent decode name ms' := by
  rw [fieldOf?, fieldOf?]
  generalize valuesOf name ms = vs at h
  generalize valuesOf name ms' = vs' at h
  have hlength : vs.length = vs'.length := by simpa using congrArg List.length h
  match vs, vs' with
  | [], [] => rfl
  | [v], [v'] => simpa [sole?, field?] using h
  | _ :: _ :: _, _ :: _ :: _ => rfl

theorem fieldOf?_of_eq_nil {ms : List (Spelling × Value)} (h : valuesOf name ms = []) :
    fieldOf? absent decode name ms = absent := by
  rw [fieldOf?, h]
  rfl

theorem fieldOf?_of_eq_singleton {ms : List (Spelling × Value)} {v : Value}
    (h : valuesOf name ms = [v]) : fieldOf? absent decode name ms = decode v := by
  rw [fieldOf?, h]
  rfl

/-- A member may be replaced by one with the same key that is read alike, if it is read. -/
theorem fieldOf?_replace {l r : List (Spelling × Value)} {key : Spelling} {v v' : Value}
    (h : key.text? = some name → decode v = decode v') :
    fieldOf? absent decode name (l ++ (key, v) :: r) =
      fieldOf? absent decode name (l ++ (key, v') :: r) := by
  apply fieldOf?_congr
  rw [valuesOf_append, valuesOf_append]
  by_cases hkey : key.text? = some name
  · rw [valuesOf_cons_of_eq hkey, valuesOf_cons_of_eq hkey]
    simp [h hkey]
  · rw [valuesOf_cons_of_ne hkey, valuesOf_cons_of_ne hkey]

/-- A field that is read is read from every member with its name. -/
theorem decode_of_fieldOf? {ms : List (Spelling × Value)} {a : α}
    (h : fieldOf? absent decode name ms = some a) {m : Spelling × Value} (hm : m ∈ ms)
    (hname : m.1.Spells name.toList) : decode m.2 = some a := by
  obtain ⟨x, hx, hread⟩ := Option.bind_eq_some_iff.mp h
  have hvalue := mem_valuesOf hm hname
  rw [eq_toList_of_sole? hx, Option.mem_toList] at hvalue
  obtain rfl : x = some m.2 := hvalue
  exact hread

end Reading

/-! ### Changes that do not matter -/

/-- **Changes of the members of an object that do not matter** to a record with the fields
`names`, where `Usual n v` says that `v` is what a field `n` is without a value. -/
inductive RecordChange (names : List String) (Usual : String → Value → Prop) :
    List (Spelling × Value) → List (Spelling × Value) → Prop
  /-- The members come in another order. -/
  | reorder {ms ms' : List (Spelling × Value)} (h : ms.Perm ms') :
    RecordChange names Usual ms ms'
  /-- There is another member, which is no field. -/
  | unknown {l r : List (Spelling × Value)} {key : Spelling} {n : String} {v : Value}
    (hkey : key.Spells n.toList) (hn : n ∉ names) :
    RecordChange names Usual (l ++ r) (l ++ (key, v) :: r)
  /-- A field that did not occur is written out. -/
  | usual {l r : List (Spelling × Value)} {key : Spelling} {n : String} {v : Value}
    (hkey : key.Spells n.toList) (habsent : ∀ m ∈ l ++ r, ¬m.1.Spells n.toList)
    (hv : Usual n v) : RecordChange names Usual (l ++ r) (l ++ (key, v) :: r)

section Changes

variable {names : List String} {Usual : String → Value → Prop} {ms ms' : List (Spelling × Value)}

theorem keyed_insert {l r : List (Spelling × Value)} {key : Spelling} {n : String} {v : Value}
    (hkey : key.Spells n.toList) : Keyed (l ++ r) ↔ Keyed (l ++ (key, v) :: r) := by
  simp [Keyed, or_imp, forall_and, Spelling.text?_eq_some_iff.mpr hkey]

/-- A member with another name does not change the values of a name. -/
theorem valuesOf_insert_of_ne {l r : List (Spelling × Value)} {key : Spelling} {n name : String}
    (hkey : key.Spells n.toList) (hne : n ≠ name) (v : Value) :
    valuesOf name (l ++ (key, v) :: r) = valuesOf name (l ++ r) := by
  have htext : key.text? ≠ some name := by
    rw [Spelling.text?_eq_some_iff.mpr hkey]
    simpa using hne
  rw [valuesOf_append, valuesOf_append, valuesOf_cons_of_ne htext]

theorem keyed_replace {l r : List (Spelling × Value)} {key : Spelling} {v v' : Value} :
    Keyed (l ++ (key, v) :: r) ↔ Keyed (l ++ (key, v') :: r) := by
  simp [Keyed, or_imp, forall_and]

theorem RecordChange.keyed_iff (h : RecordChange names Usual ms ms') : Keyed ms ↔ Keyed ms' := by
  cases h with
  | reorder h => exact forall_congr' fun m => by rw [h.mem_iff]
  | unknown hkey _ => exact keyed_insert hkey
  | usual hkey _ _ => exact keyed_insert hkey

/-- **Changes that do not matter keep what is read.** -/
theorem RecordChange.fieldOf?_eq {α : Type} {absent : Option α} {decode : Value → Option α}
    {name : String} (hname : name ∈ names) (husual : ∀ v, Usual name v → decode v = absent)
    (h : RecordChange names Usual ms ms') :
    fieldOf? absent decode name ms = fieldOf? absent decode name ms' := by
  cases h with
  | reorder h =>
    have hvalues : (valuesOf name ms).Perm (valuesOf name ms') := (h.filter _).map _
    rw [fieldOf?, fieldOf?, sole?_perm hvalues]
  | @unknown l r key n v hkey hn =>
    have hne : n ≠ name := fun heq => hn (heq ▸ hname)
    rw [fieldOf?, fieldOf?, valuesOf_insert_of_ne hkey hne]
  | @usual l r key n v hkey habsent hv =>
    by_cases hne : n = name
    · subst hne
      -- the usual value stands where there was none, so both readings use it
      have hnone : valuesOf n (l ++ r) = [] := valuesOf_eq_nil habsent
      have hone : valuesOf n (l ++ (key, v) :: r) = [v] := by
        rw [valuesOf_append, List.append_eq_nil_iff] at hnone
        rw [valuesOf_append, valuesOf_cons_of_eq (Spelling.text?_eq_some_iff.mpr hkey),
          hnone.1, hnone.2]
        rfl
      rw [fieldOf?_of_eq_nil hnone, fieldOf?_of_eq_singleton hone, husual v hv]
    · rw [fieldOf?, fieldOf?, valuesOf_insert_of_ne hkey hne]

end Changes

/-! ### Faults -/

/-- **A fault of a record**: a field that occurs twice, or that is null. -/
inductive Faulty (names : List String) : Value → Prop
  /-- Two members have the name of a field. -/
  | twice {members : List (Spelling × Value)} {m m' : Spelling × Value} {name : String}
    (hname : name ∈ names) (h : [m, m'].Sublist members) (hm : m.1.Spells name.toList)
    (hm' : m'.1.Spells name.toList) : Faulty names (.object members)
  /-- The value of a field is null. -/
  | null {members : List (Spelling × Value)} {m : Spelling × Value} {name : String}
    (hname : name ∈ names) (h : m ∈ members) (hm : m.1.Spells name.toList)
    (hv : m.2 = .null) : Faulty names (.object members)
  /-- One of the items is null. -/
  | item {items : List Value} (h : .null ∈ items) : Faulty names (.array items)

theorem exists_mem_of_mapM {α β : Type} {f : α → Option β} {as : List α} {bs : List β}
    (h : as.mapM f = some bs) {a : α} (ha : a ∈ as) : ∃ b ∈ bs, f a = some b := by
  induction as generalizing bs with
  | nil => simp at ha
  | cons a' as ih =>
    rw [List.mapM_cons] at h
    simp only [Option.bind_eq_bind, Option.bind_eq_some_iff, Option.pure_def,
      Option.some.injEq] at h
    obtain ⟨b', hb', rest, hrest, rfl⟩ := h
    rcases List.mem_cons.mp ha with rfl | ha
    · exact ⟨b', List.mem_cons_self, hb'⟩
    · obtain ⟨b, hb, hab⟩ := ih hrest ha
      exact ⟨b, List.mem_cons_of_mem b' hb, hab⟩

/-- Each field of an object is all that its name has. -/
theorem exists_valuesOf_eq {names : List String} {members : List (Spelling × Value)}
    {fields : List (Option Value)} (h : memberFields? names members = some fields)
    {name : String} (hname : name ∈ names) : ∃ x ∈ fields, valuesOf name members = x.toList := by
  rw [memberFields?_eq] at h
  obtain ⟨_, -, h⟩ := Option.bind_eq_some_iff.mp h
  obtain ⟨x, hx, hsole⟩ := exists_mem_of_mapM h hname
  exact ⟨x, hx, eq_toList_of_sole? hsole⟩

/-- **A faulty record gives no fields, or one that is null.** -/
theorem Faulty.null_mem {names : List String} {v : Value} (h : Faulty names v)
    {fields : List (Option Value)} (hfields : v.fields? names = some fields) :
    some .null ∈ fields := by
  cases h with
  | @twice members m m' name hname h hm hm' =>
    obtain ⟨x, -, hx⟩ := exists_valuesOf_eq hfields hname
    -- a field that was read has one value, and this one would have two
    have hboth : ∀ n ∈ [m, m'], n.1.Spells name.toList := by simp [hm, hm']
    have hsub := valuesOf_sublist h hboth
    have htwo : 2 ≤ x.toList.length := by simpa [hx] using hsub.length_le
    have hone : x.toList.length ≤ 1 := Option.length_toList_le
    omega
  | @null members m name hname h hm hv =>
    obtain ⟨x, hmem, hx⟩ := exists_valuesOf_eq hfields hname
    have hvalue := mem_valuesOf h hm
    rw [hx, hv, Option.mem_toList] at hvalue
    exact hvalue ▸ hmem
  | @item items h =>
    by_cases hlength : items.length ≤ names.length
    · obtain rfl := Option.some.inj ((if_pos hlength).symm.trans hfields)
      simp [h]
    · exact absurd ((if_neg hlength).symm.trans hfields) (by simp)

end Json
end PartitionRouting
