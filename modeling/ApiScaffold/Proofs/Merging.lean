import ApiScaffold.Proofs.Description.Declarations
import ApiScaffold.Proofs.Description.SchemaTermination
import ApiScaffold.Proofs.Fields
/-!
# Merging of declarations

A record has one field for each name that its schema declares. The field stands where the name is
declared first, and is what the last declaration of the name gives. All declarations have to give
a field, also those that a later one takes the place of.
-/
namespace ApiScaffold

/-! ## The order of properties -/

namespace Description

variable {root : Json}

private theorem increasing_membersAt {key : String} {members : Keyed Json}
    (ordered : (Json.object members).Ordered) : Keyed.Increasing (membersAt key members) := by
  unfold membersAt
  cases found : Keyed.get? key members with
  | none => exact List.Pairwise.nil
  | some value =>
    cases value with
    | object inner => exact (ordered.of_mem (Json.mem_nodes_of_lookup found)).increasing
    | _ => exact List.Pairwise.nil

private theorem exists_members_of_readSchema {room : Nat} {node : Json} {schema : Schema}
    (h : readSchema root room node = .ok schema) :
    ∃ less members, node = .object members ∧
      mapMembers (readPosition root (readSchema root less)) (membersAt "properties" members) =
        .ok schema.properties ∧
      (listAt "allOf" members).mapM (readPosition root (readSchema root less)) =
        .ok schema.allOf := by
  cases room with
  | zero => cases h
  | succ room =>
    cases node with
    | object members =>
      unfold readSchema at h
      obtain ⟨properties, readProperties, h⟩ := Outcome.bind_eq_ok.mp h
      obtain ⟨_, -, h⟩ := Outcome.bind_eq_ok.mp h
      obtain ⟨_, -, h⟩ := Outcome.bind_eq_ok.mp h
      obtain ⟨allOf, readParts, h⟩ := Outcome.bind_eq_ok.mp h
      cases h
      exact ⟨room, members, rfl, readProperties, readParts⟩
    | _ => cases h

private theorem increasing_properties_of_readSchema {room : Nat} {node : Json} {schema : Schema}
    (ordered : node.Ordered) (h : readSchema root room node = .ok schema) :
    Keyed.Increasing schema.properties := by
  obtain ⟨less, members, rfl, read, -⟩ := exists_members_of_readSchema h
  have increasing : Keyed.Increasing (membersAt "properties" members) :=
    increasing_membersAt ordered
  rwa [Keyed.Increasing, keys_of_mapMembers read] at increasing

private theorem exists_node_of_readPosition {reader : Json → Except Failure Schema} {node : Json}
    {schema : Schema} (inside : node ∈ root.nodes)
    (h : readPosition root reader node = .ok (.inline schema)) :
    ∃ place ∈ root.nodes, reader place = .ok schema := by
  unfold readPosition at h
  split at h
  · obtain ⟨_, read, same⟩ := Outcome.map_eq_ok.mp h
    cases same
    exact ⟨node, inside, read⟩
  · split at h
    · cases h
    · obtain ⟨place, followed, h⟩ := Outcome.bind_eq_ok.mp h
      obtain ⟨_, read, same⟩ := Outcome.bind_eq_ok.mp h
      cases same
      exact ⟨place, mem_nodes_of_follow inside followed, read⟩

def PropertiesIncreasing (schema : Schema) : Prop :=
  Keyed.Increasing schema.properties ∧
    ∀ part, .inline part ∈ schema.allOf → Keyed.Increasing part.properties

private theorem propertiesIncreasing_of_readSchema {room : Nat} {node : Json} {schema : Schema}
    (ordered : root.Ordered) (inside : node ∈ root.nodes)
    (h : readSchema root room node = .ok schema) : PropertiesIncreasing schema := by
  refine ⟨increasing_properties_of_readSchema (ordered.of_mem inside) h, ?_⟩
  intro part inPlace
  obtain ⟨less, members, rfl, -, read⟩ := exists_members_of_readSchema h
  obtain ⟨node, listed, read⟩ := Outcome.left_of_mem (Outcome.mapM_eq_ok.mp read) inPlace
  have inRoot : node ∈ root.nodes := Json.nodes_subset inside (mem_nodes_of_listAt listed)
  obtain ⟨place, inRoot, read⟩ := exists_node_of_readPosition inRoot read
  exact increasing_properties_of_readSchema (ordered.of_mem inRoot) read

private theorem propertiesIncreasing_of_read {d : Document} {name : String} {schema : Schema}
    (ordered : root.Ordered) (h : read root = .ok d) (member : (name, schema) ∈ d.schemas) :
    PropertiesIncreasing schema := by
  have all := schemas_of_read h
  unfold Source.schemas at all
  split at all
  next schemas found =>
    obtain ⟨components, inRoot, found⟩ := Option.bind_eq_some_iff.mp found
    obtain ⟨⟨_, node⟩, listed, read⟩ := Outcome.left_of_mem (Outcome.mapM_eq_ok.mp all) member
    obtain ⟨_, read, same⟩ := Outcome.map_eq_ok.mp read
    cases same
    have inside : node ∈ root.nodes :=
      Json.nodes_subset (Json.nodes_subset (Json.mem_nodes_of_get? inRoot)
        (Json.mem_nodes_of_get? found)) (Json.mem_nodes_of_values (List.mem_map_of_mem listed))
    obtain ⟨position, read, h⟩ := Outcome.bind_eq_ok.mp read
    unfold Source.position at read
    cases position with
    | reference target =>
      cases h
      exact ⟨List.Pairwise.nil, fun part inPlace => by cases List.mem_singleton.mp inPlace⟩
    | inline _ =>
      cases h
      split at read
      · cases read
      · obtain ⟨place, inRoot, read⟩ := exists_node_of_readPosition inside read
        exact propertiesIncreasing_of_readSchema ordered inRoot read
  next =>
    rw [← Except.ok.inj all] at member
    cases member

end Description

namespace Record

variable {d : Document} {owner : String} {xmlBound : Bool}

/-! ## The last declaration of each name -/

/-- The fields that declarations come to: one for each of their names, in the order in which these
are first declared, and each as the last declaration of its name gives it. -/
structure Merges (d : Document) (owner : String) (xmlBound : Bool)
    (declarations : List Declaration) (fields : List Field) : Prop where
  once : (fields.map (·.name)).Nodup
  names : fields.map (·.name) = (declarations.map (·.name)).eraseDups
  last : ∀ f ∈ fields, ∃ before declaration after,
    declarations = before ++ declaration :: after ∧ declaration.name = f.name ∧
      (∀ later ∈ after, later.name ≠ f.name) ∧
      (declaredField d owner xmlBound declaration).result = .ok f

private theorem merges_nil : Merges d owner xmlBound [] [] where
  once := List.nodup_nil
  names := rfl
  last := List.forall_mem_nil _

private theorem eraseDups_concat (names : List String) (name : String) :
    (names ++ [name]).eraseDups =
      if name ∈ names then names.eraseDups else names.eraseDups ++ [name] := by
  rw [List.eraseDups_append]
  by_cases member : name ∈ names
  · simp [List.removeAll, member]
  · simp [List.removeAll, member, List.eraseDups_cons]

/-- A further declaration takes the place of the one before it of its name. -/
theorem Merges.put {done : List Declaration} {fields : List Field} {declaration : Declaration}
    {field : Field} (h : Merges d owner xmlBound done fields)
    (declared : (declaredField d owner xmlBound declaration).result = .ok field) :
    Merges d owner xmlBound (done ++ [declaration]) (putField field fields) where
  once := nodup_putField h.once
  names := by
    have name := (declaredField_eq_ok declared).1
    rw [names_putField, h.names, List.map_append, List.map_singleton, eraseDups_concat, ← name]
    simp only [List.mem_eraseDups]
  last := by
    intro f member
    rcases (mem_putField h.once).mp member with rfl | ⟨member, different⟩
    · exact ⟨done, declaration, [], rfl, (declaredField_eq_ok declared).1.symm,
        List.forall_mem_nil _, declared⟩
    · obtain ⟨before, earlier, after, rfl, named, later, gives⟩ := h.last f member
      refine ⟨before, earlier, after ++ [declaration], by simp, named, ?_, gives⟩
      intro other inside
      rcases List.mem_append.mp inside with inside | inside
      · exact later other inside
      · rw [List.mem_singleton.mp inside, ← (declaredField_eq_ok declared).1]
        exact Ne.symm different

theorem merges_of_putDeclared {declarations : List Declaration} {fields : List Field}
    (h : (putDeclared d owner xmlBound [] declarations).result = .ok fields) :
    Merges d owner xmlBound declarations fields :=
  putDeclared_induction (fun _ _ _ _ _ declared before => before.put declared) merges_nil h

/-! ## Declarations that give a field -/

def RulesFormed (schema : Schema) : Prop :=
  ∀ value, Keyed.get? "x-validate" schema.extensions = some value →
    value = .null ∨ (∃ raw, value = .string raw) ∨
      ∃ tokens, value = .array tokens ∧ ∀ token ∈ tokens, ∃ raw, token = .string raw

/-- A declaration gives a field: the component that is composed into the record is there, or the
property has a type, and its rules are well formed if it is written in place. -/
def Buildable (d : Document) : Declaration → Prop
  | .component name => (d.schema? name).isSome = true
  | .property holder name position =>
    (∃ type, (Resolution.resolve d position (holder.isRequired name)).result = .ok type) ∧
      ∀ schema, position = .inline schema → RulesFormed schema

private theorem exists_token_iff {token : Json} :
    (∃ rule, Extension.token owner token = .ok rule) ↔ ∃ raw, token = .string raw := by
  cases token <;> simp [Extension.token]

private theorem exists_validationTokens_iff (owner : String) {schema : Schema} :
    (∃ rules, Extension.validationTokens owner schema = .ok rules) ↔ RulesFormed schema := by
  unfold Extension.validationTokens RulesFormed
  cases Keyed.get? "x-validate" schema.extensions with
  | none => simp [pure, Except.pure, bind, Except.bind]
  | some value =>
    cases value with
    | array tokens =>
      have texts := Outcome.exists_mapM_iff (f := Extension.token owner) (l := tokens)
      simp only [exists_token_iff] at texts
      simp [Outcome.bind_eq_ok, pure, Except.pure, ← texts]
    | _ => simp [pure, Except.pure, bind, Except.bind]

private theorem exists_declaredRules_iff (owner property : String) {position : SchemaRef} :
    (∃ rules, declaredRules owner property position = .ok rules) ↔
      ∀ schema, position = .inline schema → RulesFormed schema := by
  cases position with
  | reference target => exact iff_of_true ⟨[], rfl⟩ nofun
  | inline schema => simp [declaredRules, exists_validationTokens_iff]

private theorem exists_declaredField_iff (owner : String) (xmlBound : Bool)
    {declaration : Declaration} :
    (∃ field, (declaredField d owner xmlBound declaration).result = .ok field) ↔
      Buildable d declaration := by
  cases declaration with
  | component name =>
    simp only [declaredField_component_eq_ok_iff, exists_and_left, exists_eq, and_true, Buildable]
  | property holder name position =>
    rw [Buildable, ← exists_declaredRules_iff owner name]
    constructor
    · intro h
      obtain ⟨field, h⟩ := h
      obtain ⟨type, rules, resolved, given, -⟩ := field_eq_ok_iff.mp h
      exact ⟨⟨type, resolved⟩, rules, given⟩
    · intro h
      obtain ⟨⟨type, resolved⟩, rules, given⟩ := h
      exact ⟨_, field_eq_ok_iff.mpr ⟨type, rules, resolved, given, rfl⟩⟩

private theorem exists_putDeclared_iff (owner : String) (xmlBound : Bool) (fields : List Field)
    {declarations : List Declaration} :
    (∃ last, (putDeclared d owner xmlBound fields declarations).result = .ok last) ↔
      ∀ declaration ∈ declarations, Buildable d declaration := by
  induction declarations generalizing fields with
  | nil => exact iff_of_true ⟨fields, rfl⟩ (List.forall_mem_nil _)
  | cons declaration rest ih =>
    rw [List.forall_mem_cons, ← exists_declaredField_iff owner xmlBound]
    constructor
    · intro h
      obtain ⟨last, h⟩ := h
      obtain ⟨field, declared, h⟩ := Diagnosed.bind_result_eq_ok.mp h
      exact ⟨⟨field, declared⟩, (ih _).mp ⟨last, h⟩⟩
    · intro h
      obtain ⟨⟨field, declared⟩, others⟩ := h
      obtain ⟨last, h⟩ := (ih _).mpr others
      exact ⟨last, Diagnosed.bind_result_eq_ok.mpr ⟨field, declared, h⟩⟩

private theorem exists_ofSchema_iff {name : String} {schema : Schema} :
    (∃ r, (ofSchema d name schema).result = .ok r) ↔
      (isAlias schema = true →
        ∃ type, (Resolution.resolve d (.inline schema) true).result = .ok type) ∧
      ∀ declaration ∈ declarations schema, Buildable d declaration := by
  rw [← exists_putDeclared_iff name schema.xml.isSome []]
  simp only [ofSchema_eq_ok_iff]
  constructor
  · intro h
    obtain ⟨r, aliasOf, fields, found, declared, -⟩ := h
    refine ⟨?_, fields, declared⟩
    intro named
    rw [if_pos named] at found
    obtain ⟨type, resolved, -⟩ := found
    exact ⟨type, resolved⟩
  · intro h
    obtain ⟨found, fields, declared⟩ := h
    by_cases named : isAlias schema = true
    · obtain ⟨type, resolved⟩ := found named
      exact ⟨_, some type, fields, by simp [named, resolved], declared, rfl⟩
    · exact ⟨_, none, fields, by simp [named], declared, rfl⟩

/-- The fields of a record are those that its declarations merge into: components first, then the
properties of the parts that are written in place, then the schema's own, those of each holder in
the order of their names if the schema was read from a description. A record is not made exactly
if its schema is another name for a list or a map whose type is not found, or if some declaration
does not give a field, whether or not a later one would take its place. A type that has no end
counts as one that is not found. -/
theorem fields_merge_declarations (d : Document) (name : String) (schema : Schema) :
    (∀ r, (ofSchema d name schema).result = .ok r →
      Merges d name schema.xml.isSome (declarations schema) r.fields) ∧
    (∀ root : Json, root.Ordered → Description.read root = .ok d → (name, schema) ∈ d.schemas →
      Description.PropertiesIncreasing schema) ∧
    ((∃ failure, (ofSchema d name schema).result = .error failure) ↔
      (isAlias schema = true ∧
        ∃ failure, (Resolution.resolve d (.inline schema) true).result = .error failure) ∨
      ∃ declaration ∈ declarations schema, ¬ Buildable d declaration) := by
  refine ⟨?fields, ?order, ?failure⟩
  case fields =>
    intro r h
    obtain ⟨_, fields, -, declared, rfl⟩ := ofSchema_eq_ok_iff.mp h
    exact merges_of_putDeclared declared
  case order =>
    intro root ordered read member
    exact Description.propertiesIncreasing_of_read ordered read member
  case failure =>
    rw [Outcome.exists_error_iff, Outcome.exists_error_iff, exists_ofSchema_iff]
    simp only [Classical.not_and_iff_not_or_not, Classical.not_imp, not_forall]

def mergedSchema : Schema :=
  let given (type : String) : SchemaRef := .inline { Schema.empty with type := some type }
  { Schema.empty with
    allOf := [.reference "Base", .inline { Schema.empty with
      properties := [("Base", given "string"), ("size", given "string")] }]
    properties := [("name", given "string"), ("size", given "boolean")] }

def mergedDocument : Document :=
  ⟨"3.0.3", ⟨"Merged", "1.0.0", none⟩, [], [("Base", Schema.empty)], []⟩

example :
    ((ofSchema mergedDocument "Merged" mergedSchema).result.toOption.map fun r =>
      r.fields.map fun f => (f.name, f.type.shape)) =
    some [("Base", .primitive .string), ("size", .primitive .boolean),
      ("name", .primitive .string)] := by
  decide +kernel

end Record

end ApiScaffold
