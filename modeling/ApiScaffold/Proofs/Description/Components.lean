import ApiScaffold.Proofs.Description.Assembly
import ApiScaffold.Proofs.Description.Declarations
import ApiScaffold.Proofs.Description.SchemaTermination
import ApiScaffold.Proofs.Resolution.Shapes
import ApiScaffold.Proofs.Text.Lines
/-!
# References to components

A reference to a component is a name, which is looked up among the components as it is written.
Any other reference is a pointer, which has steps and escapes. The two ways to read one reference
come to the same where the name is a single step without escapes, and only there.
-/
namespace ApiScaffold.Description

variable {root node target : Json} {d : Document} {name reference : String}

private theorem componentName?_eq_some_iff :
    componentName? reference = some name ↔ reference = componentRoot ++ name := by
  unfold componentName?
  dsimp only
  constructor
  · intro h
    split at h
    next starts =>
      obtain ⟨rest, spelled⟩ := List.isPrefixOf_iff_prefix.mp starts
      rw [← spelled, List.drop_left] at h
      rw [← Option.some.inj h, ← String.toList_inj, ← spelled]
      simp
    next => cases h
  · intro h
    subst h
    simp

/-- A reference that names a component stays symbolic, wherever it stands. -/
theorem Source.position_of_componentName? {src : Source} (some : reference? node = some reference)
    (names : componentName? reference = .some name) :
    src.position node = .ok (.reference name) := by
  unfold Source.position readPosition
  rw [some]
  simp only [names]

/-! ## The name among the components -/

def componentTable? (root : Json) : Option Json := (root.get? "components").bind (·.get? "schemas")

def component? (root : Json) (name : String) : Option Json :=
  (componentTable? root).bind (·.get? name)

private theorem get?_mapMembers {α : Type} {reader : Json → Except Failure α} {members : Keyed Json}
    {table : Keyed α} (h : mapMembers reader members = .ok table) (key : String) :
    (∀ node, Keyed.get? key members = some node →
      ∃ value, Keyed.get? key table = some value ∧ reader node = .ok value) ∧
    (Keyed.get? key members = none → Keyed.get? key table = none) := by
  have corresponding := Outcome.mapM_eq_ok.mp h
  clear h
  induction corresponding with
  | nil => simp [Keyed.get?]
  | @cons entry read _ _ first _ ih =>
    obtain ⟨other, node⟩ := entry
    obtain ⟨value, good, rfl⟩ := Outcome.map_eq_ok.mp first
    simp only [Keyed.get?]
    split
    · refine ⟨fun _ same => ?_, fun absent => ?_⟩
      · cases same
        exact ⟨value, rfl, good⟩
      · cases absent
    · exact ih

section

variable (h : read root = .ok d)

include h

private theorem schema?_of_component? (found : component? root name = some node) :
    ∃ schema, d.schema? name = some schema ∧ (Source.of root).component node = .ok schema := by
  have read := schemas_of_read h
  obtain ⟨table, inRoot, found⟩ := Option.bind_eq_some_iff.mp found
  cases table with
  | object members =>
    have isTable : ((Source.of root).root.get? "components").bind (·.get? "schemas") =
      some (.object members) := inRoot
    simp only [Source.schemas, isTable] at read
    exact (get?_mapMembers read name).1 node found
  | _ => cases found

private theorem schema?_of_component?_eq_none (absent : component? root name = none) :
    d.schema? name = none := by
  have read := schemas_of_read h
  unfold Source.schemas at read
  split at read
  next members inRoot =>
    have isTable : componentTable? root = some (.object members) := inRoot
    rw [component?, isTable] at absent
    exact (get?_mapMembers read name).2 absent
  next =>
    have empty := Except.ok.inj read
    rw [Document.schema?, ← empty]
    rfl

end

def aliasSchema (name : String) : Schema := { Schema.empty with allOf := [.reference name] }

theorem schema?_of_alias {other : String} (h : read root = .ok d)
    (declared : component? root name = some node)
    (refers : reference? node = some (componentRoot ++ other)) :
    d.schema? name = some (aliasSchema other) := by
  obtain ⟨schema, entry, good⟩ := schema?_of_component? h declared
  rw [Source.component, Source.position_of_componentName? refers
    (componentName?_eq_some_iff.mpr rfl)] at good
  cases good
  exact entry

/-- A reference to a component resolves to the schema that stands where its pointer leads, and it
is unresolvable only where that is nowhere. -/
structure Honours (root : Json) (d : Document) (name : String) : Prop where
  target {members : Keyed Json} : hop root (componentRoot ++ name) = .ok (.object members) →
    ∃ schema, d.resolve (.reference name) = .ok schema ∧
      (Source.of root).component (.object members) = .ok schema
  unresolvable {failure : Failure} {target : Json} :
    d.resolve (.reference name) = .error failure → hop root (componentRoot ++ name) ≠ .ok target

private theorem honours_iff (h : read root = .ok d) :
    Honours root d name ↔ ∀ target, hop root (componentRoot ++ name) = .ok target →
      ∃ node, component? root name = some node ∧ ∀ members, target = .object members →
        (Source.of root).component node = (Source.of root).component target := by
  constructor
  · intro honours target leads
    cases found : component? root name with
    | none =>
      have absent := schema?_of_component?_eq_none h found
      have fails : d.resolve (.reference name) = .error (.unresolvable name .noSuchSchema) := by
        simp only [Document.resolve, absent]
      exact (honours.unresolvable fails leads).elim
    | some node =>
      refine ⟨node, rfl, fun members isObject => ?_⟩
      subst isObject
      obtain ⟨schema, entry, good⟩ := schema?_of_component? h found
      obtain ⟨other, resolved, good'⟩ := honours.target leads
      cases (Document.resolve_of_schema? entry).symm.trans resolved
      rw [good, good']
  · intro all
    constructor
    · intro members leads
      obtain ⟨node, found, same⟩ := all _ leads
      obtain ⟨schema, entry, good⟩ := schema?_of_component? h found
      exact ⟨schema, Document.resolve_of_schema? entry, (same members rfl).symm.trans good⟩
    · intro failure target fails leads
      obtain ⟨node, found, -⟩ := all target leads
      obtain ⟨schema, entry, -⟩ := schema?_of_component? h found
      cases fails.symm.trans (Document.resolve_of_schema? entry)

/-! ## The name as steps of a pointer -/

/-- The steps behind those that lead to the components. -/
def nameSteps (name : String) : List (List Char) :=
  (Text.splitBy (· = '/') name.toList).map Json.unescapeStep

/-- The name is one step of a pointer, which stands for itself. -/
def Plain (name : String) : Prop :=
  '/' ∉ name.toList ∧ Json.unescapeStep name.toList = name.toList

instance (name : String) : Decidable (Plain name) :=
  inferInstanceAs (Decidable (_ ∧ _))

private theorem nameSteps_ne_nil (name : String) : nameSteps name ≠ [] :=
  mt List.map_eq_nil_iff.mp (Text.splitBy_ne_nil _)

private theorem Plain.steps (h : Plain name) : nameSteps name = [name.toList] := by
  have whole : ∀ c ∈ name.toList, ¬ decide (c = '/') = true := by
    intro c member
    rw [decide_eq_true_eq]
    rintro rfl
    exact h.1 member
  rw [nameSteps, Text.splitBy_of_forall_not whole, List.map_singleton, h.2]

private theorem pointerSteps?_component (name : String) :
    Json.pointerSteps? ("/components/schemas/".toList ++ name.toList) =
      some ("components".toList :: "schemas".toList :: nameSteps name) := by
  have spelled : "/components/schemas/".toList ++ name.toList =
    '/' :: ("components".toList ++ '/' :: ("schemas".toList ++ '/' :: name.toList)) := rfl
  rw [spelled, Json.pointerSteps?, Text.splitBy_append_cons (by decide),
    Text.splitBy_append_cons (by decide), List.map_append, List.map_append]
  rfl

private theorem hop_eq_ok_iff {pointer : List Char} (spelled : reference.toList = '#' :: pointer) :
    hop root reference = .ok target ↔ root.pointer? pointer = some target := by
  cases pointed : root.pointer? pointer <;> simp [hop, spelled, pointed]

private theorem hop_component_eq_ok : hop root (componentRoot ++ name) = .ok target ↔
    ∃ table, componentTable? root = some table ∧
      (nameSteps name).foldlM Json.step? table = some target := by
  have spelled : (componentRoot ++ name).toList =
    '#' :: ("/components/schemas/".toList ++ name.toList) := String.toList_append
  have first : root.step? "components".toList = root.get? "components" :=
    Json.step?_of_position? (by decide)
  have second (node : Json) : node.step? "schemas".toList = node.get? "schemas" :=
    Json.step?_of_position? (by decide)
  have found : root.pointer? ("/components/schemas/".toList ++ name.toList) =
      (componentTable? root).bind fun table => (nameSteps name).foldlM Json.step? table := by
    unfold Json.pointer?
    rw [pointerSteps?_component, Option.bind_some, List.foldlM_cons, first]
    simp only [List.foldlM_cons, second, componentTable?, Option.bind_assoc, bind]
  rw [hop_eq_ok_iff spelled, found, Option.bind_eq_some_iff]

/-- The components are not listed in an array, of which an item is a position. -/
def KeyedComponents (root : Json) : Prop := ∀ items, componentTable? root ≠ some (.array items)

private theorem hop_of_plain (keyed : KeyedComponents root) (plain : Plain name) :
    hop root (componentRoot ++ name) = .ok target ↔ component? root name = some target := by
  rw [hop_component_eq_ok, component?, Option.bind_eq_some_iff, plain.steps]
  refine exists_congr fun table => and_congr_right fun isTable => ?_
  cases table with
  | array items => exact (keyed items isTable).elim
  | _ => simp [Json.step?, Json.get?]

private theorem honours_of_plain (h : read root = .ok d) (keyed : KeyedComponents root)
    (plain : Plain name) : Honours root d name := by
  rw [honours_iff h]
  intro target leads
  exact ⟨target, (hop_of_plain keyed plain).mp leads, fun _ _ => rfl⟩

/-! ## Names of several steps -/

/-- Objects inside one another, with one member at each step. -/
def nested : List (List Char) → Keyed Json
  | [] => []
  | step :: steps => [(String.ofList step, .object (nested steps))]

private theorem foldlM_nested (steps : List (List Char)) :
    steps.foldlM Json.step? (.object (nested steps)) = some (.object []) := by
  induction steps with
  | nil => rfl
  | cons step steps ih =>
    have first : Json.step? (.object (nested (step :: steps))) step =
        some (.object (nested steps)) := by
      simp [nested, Json.step?, Keyed.get?]
    rw [List.foldlM_cons, first]
    exact ih

private theorem length_memberNodes_nested (steps : List (List Char)) :
    (Json.memberNodes (nested steps)).length = steps.length := by
  induction steps with
  | nil => rfl
  | cons step steps ih => simp [nested, Json.nodes, Json.memberNodes, ih]

private theorem eq_nested_of_mem_positions {steps : List (List Char)}
    (h : node ∈ positions (nested steps)) :
    ∃ rest, node = .object (nested rest) ∧ rest.length < steps.length := by
  have lookup {key : String} {value : Json} (found : Keyed.get? key (nested steps) = some value) :
      ∃ rest, value = .object (nested rest) ∧ rest.length < steps.length := by
    cases steps with
    | nil => cases found
    | cons step steps =>
      obtain ⟨-, rfl⟩ := Prod.mk.inj (List.mem_singleton.mp (Keyed.mem_of_get? found))
      exact ⟨steps, rfl, Nat.lt_succ_self _⟩
  simp only [positions, List.mem_append, Option.mem_toList] at h
  rcases h with h | h | h | h
  · unfold membersAt at h
    cases found : Keyed.get? "properties" (nested steps) with
    | none => simp [found, Keyed.values] at h
    | some value =>
      obtain ⟨rest, rfl, less⟩ := lookup found
      rw [found] at h
      cases rest with
      | nil => cases h
      | cons step rest =>
        exact ⟨rest, List.mem_singleton.mp h, Nat.lt_of_succ_lt less⟩
  · exact lookup h
  · obtain ⟨inner, isObject, rfl⟩ := Option.map_eq_some_iff.mp h
    obtain ⟨value, found, isObject⟩ := Option.bind_eq_some_iff.mp isObject
    obtain ⟨rest, rfl, less⟩ := lookup found
    cases isObject
    exact ⟨rest, rfl, less⟩
  · unfold listAt at h
    cases found : Keyed.get? "allOf" (nested steps) with
    | none => simp [found] at h
    | some value =>
      obtain ⟨rest, rfl, -⟩ := lookup found
      simp [found, Json.asArray?] at h

private theorem reference?_nested (steps : List (List Char)) :
    reference? (.object (nested steps)) = none := by
  cases steps with
  | nil => rfl
  | cons step steps =>
    simp only [reference?, Json.text?, Json.get?, nested, Keyed.get?]
    split <;> rfl

private theorem readSchema_nested {room : Nat} {steps : List (List Char)}
    (h : steps.length < room) :
    ∃ schema, readSchema root room (.object (nested steps)) = .ok schema := by
  induction room generalizing steps with
  | zero => cases h
  | succ room ih =>
    refine (covers_readSchema (nested steps)).exists_ok fun node member => ?_
    obtain ⟨rest, rfl, less⟩ := eq_nested_of_mem_positions member
    obtain ⟨schema, good⟩ := ih (Nat.lt_of_lt_of_le less (Nat.le_of_lt_succ h))
    refine ⟨.inline schema, ?_⟩
    simp only [readPosition, reference?_nested, good, Except.map]

private theorem Source.component_of_readSchema {src : Source} {schema : Schema}
    (whole : reference? node = none) (good : readSchema src.root src.room node = .ok schema) :
    src.component node = .ok schema := by
  have read : readPosition src.root (readSchema src.root src.room) node = .ok (.inline schema) := by
    simp only [readPosition, whole, good, Except.map]
  unfold component position
  rw [read]
  rfl

def referring (name : String) : Json :=
  .object [
    ("in", .string "query"), ("name", .string "id"), ("schema", referenceTo name)]

def referringParameter (name : String) : Parameter :=
  ⟨"id", .query, false, some (.reference name), none⟩

def sharing (name : String) : Json := .object [("parameters", .array [referring name])]

def nestedDescription (name : String) : Json :=
  assemble (nested (nameSteps name)) [("/tickets", sharing name)] []

private theorem Source.parameter_referring (src : Source) (name : String) :
    src.parameter (referring name) = .ok (referringParameter name) := by
  have under : src.schemaUnder (referring name) = .ok (some (.reference name)) :=
    congrArg (Except.map some)
      (position_of_componentName? rfl (componentName?_eq_some_iff.mpr rfl))
  unfold parameter
  rw [show follow src.root (referring name) = .ok (referring name) from rfl]
  simp only [bind, Except.bind, under]
  rfl

private theorem Source.pathItem_sharing (src : Source) (path name : String) :
    src.pathItem path (sharing name) = .ok ⟨[referringParameter name], []⟩ := by
  have parameters : src.parameters (sharing name) = [referring name].mapM src.parameter := rfl
  unfold pathItem
  rw [show follow src.root (sharing name) = .ok (sharing name) from rfl]
  simp only [bind, Except.bind, parameters, List.mapM_cons, parameter_referring]
  rfl

private theorem Source.paths_nestedDescription (name : String) :
    (Source.of (nestedDescription name)).paths =
      .ok [("/tickets", ⟨[referringParameter name], []⟩)] := by
  have found : (Source.of (nestedDescription name)).root.get? "paths" =
      some (.object [("/tickets", sharing name)]) := rfl
  unfold paths
  rw [found]
  simp only [List.mapM_cons, pathItem_sharing]
  rfl

private theorem Source.exists_schemas_nestedDescription (name : String) :
    ∃ table, (Source.of (nestedDescription name)).schemas = .ok table := by
  obtain ⟨first, rest, steps⟩ := List.exists_cons_of_ne_nil (nameSteps_ne_nil name)
  have room : rest.length < (nestedDescription name).nodes.length := by
    simp [nestedDescription, assemble, Json.nodes, Json.memberNodes, length_memberNodes_nested,
      steps]
    omega
  obtain ⟨schema, good⟩ : ∃ schema, readSchema (nestedDescription name)
      (nestedDescription name).nodes.length (.object (nested rest)) = .ok schema :=
    readSchema_nested room
  have read : (Source.of (nestedDescription name)).component (.object (nested rest)) = .ok schema :=
    component_of_readSchema (reference?_nested rest) good
  have table : (Source.of (nestedDescription name)).schemas =
      mapMembers (Source.of (nestedDescription name)).component (nested (nameSteps name)) := rfl
  refine ⟨[(String.ofList first, schema)], ?_⟩
  rw [table, steps]
  simp only [nested, mapMembers, List.mapM_cons, read]
  rfl

def Refers (d : Document) (name : String) : Prop :=
  ∃ path item parameter, (path, item) ∈ d.paths ∧ parameter ∈ item.parameters ∧
    parameter.schema = some (.reference name)

private theorem exists_read_nestedDescription (name : String) :
    ∃ d, read (nestedDescription name) = .ok d ∧ Refers d name := by
  obtain ⟨table, schemas⟩ := Source.exists_schemas_nestedDescription name
  exact ⟨_, read_assemble (Source.paths_nestedDescription name) schemas, "/tickets", _,
    referringParameter name, List.mem_cons_self, List.mem_cons_self, rfl⟩

private theorem hop_nestedDescription (name : String) :
    hop (nestedDescription name) (componentRoot ++ name) = .ok (.object []) :=
  hop_component_eq_ok.mpr ⟨_, rfl, foldlM_nested _⟩

private theorem Plain.of_nameSteps {rest : List (List Char)}
    (h : nameSteps name = name.toList :: rest) :
    Plain name := by
  obtain ⟨piece, others, pieces⟩ :=
    List.exists_cons_of_ne_nil (Text.splitBy_ne_nil (p := (· = '/')) name.toList)
  rw [nameSteps, pieces, List.map_cons] at h
  obtain ⟨unescaped, -⟩ := List.cons.inj h
  have start : piece <+: name.toList := Text.prefix_of_splitBy pieces
  have whole : piece = name.toList := by
    refine start.eq_of_length (Nat.le_antisymm start.length_le ?_)
    rw [← unescaped]
    exact Json.length_unescapeStep_le piece
  refine ⟨fun member => ?_, whole ▸ unescaped⟩
  have own := Text.not_of_mem_splitBy (pieces ▸ List.mem_cons_self : piece ∈ _)
  exact own '/' (whole ▸ member) (by decide)

private theorem not_honours_nestedDescription (h : read (nestedDescription name) = .ok d)
    (special : ¬ Plain name) : ¬ Honours (nestedDescription name) d name := by
  intro honours
  obtain ⟨first, rest, steps⟩ := List.exists_cons_of_ne_nil (nameSteps_ne_nil name)
  obtain ⟨node, found, -⟩ := (honours_iff h).mp honours _ (hop_nestedDescription name)
  have lookup : Keyed.get? name (nested (nameSteps name)) = some node := found
  rw [steps] at lookup
  have same : name = String.ofList first :=
    (Prod.mk.inj (List.mem_singleton.mp (Keyed.mem_of_get? lookup))).1
  have spelled : nameSteps name = name.toList :: rest := by
    rw [steps, same, String.toList_ofList]
  exact special (.of_nameSteps spelled)

/-- A reference to a component becomes its name, wherever it stands. It is honoured in a description
exactly if whatever the pointer leads to is declared alike under the name, and in all descriptions
without a list in the place of the components exactly if the name is one step of a pointer without
escapes. -/
theorem honours_iff_plain (name : String) :
    (∀ (src : Source) (node : Json), reference? node = some (componentRoot ++ name) →
      src.position node = .ok (.reference name)) ∧
    (∀ root d, read root = .ok d → (Honours root d name ↔
      ∀ target, hop root (componentRoot ++ name) = .ok target →
        ∃ node, component? root name = some node ∧ ∀ members, target = .object members →
          (Source.of root).component node = (Source.of root).component target)) ∧
    (Plain name → ∀ root d, read root = .ok d → KeyedComponents root → Honours root d name) ∧
    (¬ Plain name → ∃ root d, read root = .ok d ∧ KeyedComponents root ∧ Refers d name ∧
      ¬ Honours root d name) := by
  refine ⟨?symbolic, fun root d h => honours_iff h, ?plain, ?special⟩
  case symbolic =>
    intro src node refers
    exact src.position_of_componentName? refers (componentName?_eq_some_iff.mpr rfl)
  case plain => exact fun plain root d h keyed => honours_of_plain h keyed plain
  case special =>
    intro special
    obtain ⟨d, h, refers⟩ := exists_read_nestedDescription name
    exact ⟨nestedDescription name, d, h, nofun, refers, not_honours_nestedDescription h special⟩

def deskDescription (name : String) : Json :=
  assemble [
    ("Desk", .object [
      ("properties", .object [("state", referenceTo name)]), ("type", .string "object")]),
    ("Ticket", .object [
      ("properties", .object [("state", .object [
        ("enum", .array [.string "OPEN", .string "DONE"]), ("type", .string "string")])]),
      ("type", .string "object")])] [] []

theorem honours_iff_plain_desk :
    (Source.of (deskDescription "Ticket")).position
        (referenceTo "Ticket") = .ok (.reference "Ticket") ∧
      (∃ d, read (deskDescription "Ticket") = .ok d ∧
        Honours (deskDescription "Ticket") d "Ticket") ∧
      ∃ root d, read root = .ok d ∧ Refers d "Ticket/properties/state" ∧
        ¬ Honours root d "Ticket/properties/state" := by
  obtain ⟨symbolic, -, plain, -⟩ := honours_iff_plain "Ticket"
  obtain ⟨-, -, -, special⟩ := honours_iff_plain "Ticket/properties/state"
  obtain ⟨root, d, h, -, refers, fails⟩ := special (by decide)
  exact ⟨symbolic _ _ rfl, ⟨_, rfl, plain (by decide) _ _ rfl nofun⟩, root, d, h, refers, fails⟩

/-- A property of a component is there and is not found. -/
theorem not_honours_desk :
    ¬ ∀ d, read (deskDescription "Ticket/properties/state") = .ok d →
      Honours (deskDescription "Ticket/properties/state") d "Ticket/properties/state" := by
  intro claim
  have honours := claim _ rfl
  have leads : hop (deskDescription "Ticket/properties/state")
      (componentRoot ++ "Ticket/properties/state") =
      .ok (.object [
        ("enum", .array [.string "OPEN", .string "DONE"]), ("type", .string "string")]) := rfl
  exact honours.unresolvable rfl leads

end ApiScaffold.Description
