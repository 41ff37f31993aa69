import ApiScaffold.Proofs.Json.Ordered
import ApiScaffold.Proofs.Keyed
/-!
# What becomes of YAML values

Conversion goes through at every depth or fails, so the only entries it can lose are those of
mappings. There the name of a member is the text of a key, whatever kind of value the key is: a
number and a text that spells it become one name, and only the later of the two entries is kept.
-/
namespace ApiScaffold.Yaml

/-! ## Values inside of values -/

mutual

def Value.nodes : Value → List Value
  | .sequence items => .sequence items :: itemNodes items
  | .mapping pairs => .mapping pairs :: pairNodes pairs
  | .tagged tag value => .tagged tag value :: value.nodes
  | value => [value]

def itemNodes : List Value → List Value
  | [] => []
  | item :: items => item.nodes ++ itemNodes items

def pairNodes : List (Value × Value) → List Value
  | [] => []
  | (_, value) :: pairs => value.nodes ++ pairNodes pairs

end

/-- Numbers have to be finite, and keys have to be texts, numbers or truth values. -/
def Value.Representable : Value → Prop
  | .number (.infinite _) | .number .undefined => False
  | .mapping pairs => ∀ pair ∈ pairs, ∃ name, pair.1.memberName = .ok name
  | _ => True

def memberNames (pairs : List (Value × Value)) : List String :=
  pairs.filterMap fun pair => pair.1.memberName.toOption

/-- No two keys of a mapping become one name. -/
def Value.NamesApart : Value → Prop
  | .mapping pairs => (memberNames pairs).Nodup
  | _ => True

instance : DecidablePred Value.NamesApart
  | .mapping pairs => inferInstanceAs (Decidable (memberNames pairs).Nodup)
  | .null | .bool _ | .number _ | .text _ | .sequence _ | .tagged _ _ => .isTrue trivial

mutual

/-- Nothing of a value is lost in its JSON form: a sequence is an array of its items in order, and
the object for a mapping has one member for each entry, with the name of its key. -/
inductive Value.KeptIn : Value → Json → Prop
  | null : Value.KeptIn .null .null
  | bool (b : Bool) : Value.KeptIn (.bool b) (.bool b)
  | int (i : Int) : Value.KeptIn (.number (.int i)) (.number (.int i))
  | real (x : Binary64) : Value.KeptIn (.number (.real x)) (.number (.real x))
  | text (s : String) : Value.KeptIn (.text s) (.string s)
  | sequence {items : List Value} {values : List Json} :
      ItemsKeptIn items values → Value.KeptIn (.sequence items) (.array values)
  | mapping {pairs : List (Value × Value)} {own members : Keyed Json} :
      EntriesKeptIn pairs own → members.Perm own → (Keyed.keys members).Nodup →
        Value.KeptIn (.mapping pairs) (.object members)
  | tagged {tag : String} {value : Value} {j : Json} :
      Value.KeptIn value j → Value.KeptIn (.tagged tag value) j

inductive ItemsKeptIn : List Value → List Json → Prop
  | nil : ItemsKeptIn [] []
  | cons {item : Value} {items : List Value} {j : Json} {values : List Json} :
      Value.KeptIn item j → ItemsKeptIn items values → ItemsKeptIn (item :: items) (j :: values)

inductive EntriesKeptIn : List (Value × Value) → Keyed Json → Prop
  | nil : EntriesKeptIn [] []
  | cons {key value : Value} {pairs : List (Value × Value)} {name : String} {j : Json}
      {own : Keyed Json} :
      key.memberName = .ok name → Value.KeptIn value j → EntriesKeptIn pairs own →
        EntriesKeptIn ((key, value) :: pairs) ((name, j) :: own)

end

/-! ## What is kept has names apart -/

private theorem memberNames_cons {key value : Value} {name : String} {pairs : List (Value × Value)}
    (named : key.memberName = .ok name) :
    memberNames ((key, value) :: pairs) = name :: memberNames pairs := by
  simp [memberNames, named, Except.toOption]

private theorem EntriesKeptIn.names {pairs : List (Value × Value)} {own : Keyed Json}
    (h : EntriesKeptIn pairs own) : memberNames pairs = Keyed.keys own := by
  induction pairs generalizing own with
  | nil =>
    cases h
    rfl
  | cons pair pairs ih =>
    cases h with
    | cons named _ rest =>
      rw [memberNames_cons named, ih rest]
      rfl

mutual

private theorem Value.KeptIn.namesApart : ∀ {value : Value} {j : Json}, value.KeptIn j →
    ∀ node ∈ value.nodes, node.NamesApart
  | _, _, .null | _, _, .bool _ | _, _, .int _ | _, _, .real _ | _, _, .text _ => by
    simp [Value.nodes, Value.NamesApart]
  | _, _, .sequence items => List.forall_mem_cons.mpr ⟨trivial, items.namesApart⟩
  | _, _, .mapping entries same nodup => by
    refine List.forall_mem_cons.mpr ⟨?_, entries.namesApart⟩
    rw [Value.NamesApart, entries.names]
    exact (same.map Prod.fst).nodup_iff.mp nodup
  | _, _, .tagged kept => List.forall_mem_cons.mpr ⟨trivial, kept.namesApart⟩

theorem ItemsKeptIn.namesApart : ∀ {items : List Value} {values : List Json},
    ItemsKeptIn items values → ∀ node ∈ itemNodes items, node.NamesApart
  | _, _, .nil => List.forall_mem_nil _
  | _, _, .cons first rest => List.forall_mem_append.mpr ⟨first.namesApart, rest.namesApart⟩

theorem EntriesKeptIn.namesApart : ∀ {pairs : List (Value × Value)} {own : Keyed Json},
    EntriesKeptIn pairs own → ∀ node ∈ pairNodes pairs, node.NamesApart
  | _, _, .nil => List.forall_mem_nil _
  | _, _, .cons _ first rest =>
    List.forall_mem_append.mpr ⟨first.namesApart, rest.namesApart⟩

end

/-! ## What conversion makes of the parts -/

/-- An entry becomes a member with the name of its key. -/
def Becomes (pair : Value × Value) (member : String × Json) : Prop :=
  pair.1.memberName = .ok member.1 ∧ pair.2.toJson = .ok member.2

/-- Of the members that entries become, the last one with a name is kept. -/
theorem pairsToJson_eq_ok {pairs : List (Value × Value)} {done members : Keyed Json} :
    pairsToJson done pairs = .ok members ↔ ∃ own, List.Forall₂ Becomes pairs own ∧
      own.foldl (fun table (key, value) => Keyed.insert key value table) done = members := by
  induction pairs generalizing done with
  | nil =>
    constructor
    · intro h
      cases h
      exact ⟨[], .nil, rfl⟩
    · rintro ⟨_, ⟨⟩, rfl⟩
      rfl
  | cons pair pairs ih =>
    constructor
    · intro h
      obtain ⟨name, named, h⟩ := Outcome.bind_eq_ok.mp h
      obtain ⟨j, converted, h⟩ := Outcome.bind_eq_ok.mp h
      obtain ⟨own, rest, rfl⟩ := ih.mp h
      exact ⟨(name, j) :: own, .cons ⟨named, converted⟩ rest, rfl⟩
    · rintro ⟨_, becomes, rfl⟩
      cases becomes with
      | cons first rest =>
        have later := ih.mpr ⟨_, rest, rfl⟩
        exact Outcome.bind_eq_ok.mpr ⟨_, first.1, Outcome.bind_eq_ok.mpr ⟨_, first.2, later⟩⟩

private theorem toJson_mapping_eq_ok {pairs : List (Value × Value)} {j : Json} :
    (Value.mapping pairs).toJson = .ok j ↔
      ∃ own, List.Forall₂ Becomes pairs own ∧ j = .object (Keyed.ofList own) := by
  rw [Value.toJson, Outcome.map_eq_ok]
  constructor
  · rintro ⟨members, converted, rfl⟩
    obtain ⟨own, becomes, rfl⟩ := pairsToJson_eq_ok.mp converted
    exact ⟨own, becomes, rfl⟩
  · rintro ⟨own, becomes, rfl⟩
    exact ⟨_, pairsToJson_eq_ok.mpr ⟨own, becomes, rfl⟩, rfl⟩

/-! ## What can be converted -/

private theorem exists_becomes_iff (pairs : List (Value × Value)) :
    (∃ own, List.Forall₂ Becomes pairs own) ↔
      (∀ pair ∈ pairs, ∃ name, pair.1.memberName = .ok name) ∧
        ∀ pair ∈ pairs, ∃ j, pair.2.toJson = .ok j := by
  constructor
  · rintro ⟨own, becomes⟩
    constructor
    · intro pair member
      obtain ⟨member, -, named, -⟩ := Outcome.right_of_mem becomes member
      exact ⟨_, named⟩
    · intro pair member
      obtain ⟨member, -, -, converted⟩ := Outcome.right_of_mem becomes member
      exact ⟨_, converted⟩
  · rintro ⟨names, values⟩
    refine Outcome.exists_forall₂ fun pair member => ?_
    obtain ⟨name, named⟩ := names pair member
    obtain ⟨j, converted⟩ := values pair member
    exact ⟨(name, j), named, converted⟩

mutual

private theorem exists_toJson_iff : ∀ value : Value,
    (∃ j, value.toJson = .ok j) ↔ ∀ node ∈ value.nodes, node.Representable
  | .null | .bool _ | .text _ => by
    simp [Value.toJson, Value.nodes, Value.Representable]
  | .number n => by
    cases n <;> simp [Value.toJson, Number.toJson, Value.nodes, Value.Representable]
  | .sequence items => by
    have all := exists_itemsToJson_iff items
    simp only [Value.toJson, Outcome.map_eq_ok, Value.nodes, List.forall_mem_cons, ← all]
    simp [Value.Representable]
  | .mapping pairs => by
    have all := forall_values_iff pairs
    have parts : (∃ j, (Value.mapping pairs).toJson = .ok j) ↔
        ∃ own, List.Forall₂ Becomes pairs own := by
      simp only [toJson_mapping_eq_ok]
      constructor
      · rintro ⟨_, own, becomes, -⟩
        exact ⟨own, becomes⟩
      · rintro ⟨own, becomes⟩
        exact ⟨_, own, becomes, rfl⟩
    rw [parts, exists_becomes_iff, all, Value.nodes, List.forall_mem_cons]
    rfl
  | .tagged tag value => by
    have inner := exists_toJson_iff value
    rw [Value.nodes, List.forall_mem_cons, ← inner, Value.toJson]
    simp [Value.Representable]

theorem exists_itemsToJson_iff : ∀ items : List Value,
    (∃ values, itemsToJson items = .ok values) ↔ ∀ node ∈ itemNodes items, node.Representable
  | [] => by simp [itemsToJson, itemNodes]
  | item :: items => by
    have first := exists_toJson_iff item
    have rest := exists_itemsToJson_iff items
    rw [itemNodes, List.forall_mem_append, ← first, ← rest]
    constructor
    · rintro ⟨values, h⟩
      obtain ⟨j, converted, h⟩ := Outcome.bind_eq_ok.mp h
      obtain ⟨values, others, -⟩ := Outcome.bind_eq_ok.mp h
      exact ⟨⟨j, converted⟩, values, others⟩
    · rintro ⟨⟨j, converted⟩, values, others⟩
      exact ⟨j :: values, Outcome.bind_eq_ok.mpr ⟨j, converted,
        Outcome.bind_eq_ok.mpr ⟨values, others, rfl⟩⟩⟩

theorem forall_values_iff : ∀ pairs : List (Value × Value),
    (∀ pair ∈ pairs, ∃ j, pair.2.toJson = .ok j) ↔ ∀ node ∈ pairNodes pairs, node.Representable
  | [] => by simp [pairNodes]
  | (key, value) :: pairs => by
    have first := exists_toJson_iff value
    have rest := forall_values_iff pairs
    rw [pairNodes, List.forall_mem_append, List.forall_mem_cons, first, rest]

end

/-! ## What is kept -/

mutual

private theorem keptIn_of_toJson : ∀ {value : Value} {j : Json}, value.toJson = .ok j →
    (∀ node ∈ value.nodes, node.NamesApart) → value.KeptIn j
  | .null, _, h, _ => by
    cases h
    exact .null
  | .bool b, _, h, _ => by
    cases h
    exact .bool b
  | .number n, _, h, _ => by
    cases n <;> cases h
    · exact .int _
    · exact .real _
  | .text s, _, h, _ => by
    cases h
    exact .text s
  | .sequence items, _, h, apart => by
    obtain ⟨values, converted, rfl⟩ := Outcome.map_eq_ok.mp h
    exact .sequence (keptIn_of_itemsToJson converted (List.forall_mem_cons.mp apart).2)
  | .mapping pairs, _, h, apart => by
    obtain ⟨own, becomes, rfl⟩ := toJson_mapping_eq_ok.mp h
    obtain ⟨first, inside⟩ := List.forall_mem_cons.mp apart
    have entries := keptIn_of_becomes becomes inside
    rw [Value.NamesApart, entries.names] at first
    have increasing := Keyed.increasing_ofList own
    exact .mapping entries (Keyed.ofList_perm first) (increasing.imp ne_of_lt)
  | .tagged _ value, _, h, apart => by
    rw [Value.toJson] at h
    exact .tagged (keptIn_of_toJson h (List.forall_mem_cons.mp apart).2)

theorem keptIn_of_itemsToJson : ∀ {items : List Value} {values : List Json},
    itemsToJson items = .ok values → (∀ node ∈ itemNodes items, node.NamesApart) →
      ItemsKeptIn items values
  | [], _, h, _ => by
    cases h
    exact .nil
  | item :: items, _, h, apart => by
    obtain ⟨j, first, h⟩ := Outcome.bind_eq_ok.mp h
    obtain ⟨values, rest, h⟩ := Outcome.bind_eq_ok.mp h
    obtain ⟨apart, others⟩ := List.forall_mem_append.mp apart
    cases h
    exact .cons (keptIn_of_toJson first apart) (keptIn_of_itemsToJson rest others)

theorem keptIn_of_becomes : ∀ {pairs : List (Value × Value)} {own : Keyed Json},
    List.Forall₂ Becomes pairs own → (∀ node ∈ pairNodes pairs, node.NamesApart) →
      EntriesKeptIn pairs own
  | [], _, h, _ => by
    cases h
    exact .nil
  | (key, value) :: pairs, _, h, apart => by
    obtain ⟨apart, others⟩ := List.forall_mem_append.mp apart
    cases h with
    | cons first rest =>
      exact .cons first.1 (keptIn_of_toJson first.2 apart) (keptIn_of_becomes rest others)

end

/-- A value has a JSON form exactly if all that stands in it can be represented, and then nothing
of it is lost exactly if nowhere in it two keys of one mapping become the same name. -/
theorem Value.toJson_keeps_iff (value : Value) :
    ((∃ j, value.toJson = .ok j) ↔ ∀ node ∈ value.nodes, node.Representable) ∧
      ∀ j, value.toJson = .ok j → (value.KeptIn j ↔ ∀ node ∈ value.nodes, node.NamesApart) :=
  ⟨exists_toJson_iff value, fun _ converted => ⟨fun kept => kept.namesApart,
    fun apart => keptIn_of_toJson converted apart⟩⟩

def statuses : Value :=
  .mapping [(.number (.int 200), .mapping [(.text "description", .text "ok")]),
    (.text "default", .sequence [.bool true, .tagged "note" .null])]

theorem toJson_keeps_iff_statuses :
    statuses.toJson = .ok (.object [("200", .object [("description", .string "ok")]),
        ("default", .array [.bool true, .null])]) ∧
      statuses.KeptIn (.object [("200", .object [("description", .string "ok")]),
        ("default", .array [.bool true, .null])]) := by
  have converted : statuses.toJson = .ok (.object [("200", .object [("description", .string "ok")]),
      ("default", .array [.bool true, .null])]) := rfl
  exact ⟨converted, ((Value.toJson_keeps_iff statuses).2 _ converted).mpr (by decide)⟩

/-- The status of an answer, once as a number and once as a text. -/
def sharedStatus : Value :=
  .mapping [(.number (.int 200), .text "a"), (.text "200", .text "b")]

/-- A text that holds both is read, and one of them is gone. -/
theorem not_keptIn_sharedStatus :
    (Value.read? "200: a\n\"200\": b\n").map sharedStatus.same = some true ∧
      sharedStatus.toJson = .ok (.object [("200", .string "b")]) ∧
        ¬ sharedStatus.KeptIn (.object [("200", .string "b")]) := by
  refine ⟨by decide +kernel, rfl, fun kept => ?_⟩
  exact absurd (kept.namesApart sharedStatus List.mem_cons_self) (by decide)

end ApiScaffold.Yaml
