import ApiScaffold.Proofs.Fields
import ApiScaffold.Proofs.Go.DataImports
import ApiScaffold.Proofs.Service.Validation
/-!
# Names of data types in Go

All records share the scope of one package with the types for dates and times, and the members and
getters of a struct share one more. The names of components are taken as they are, and those of
properties are exported, which drops separators, so names that differ need not stay apart.
-/
namespace ApiScaffold.Go

/-! ## Names of declarations -/

def TypeExpr.ident : TypeExpr → String
  | name _ ident => ident
  | pointer target => target.ident
  | list element => element.ident
  | map element => element.ident

/-- An embedded type goes by its name. -/
def Member.name : Member → String
  | embedded type => type.ident
  | named ident _ _ => ident

namespace Declaration

/-- The name of a type. A getter belongs to its record. -/
def scopeName? : Declaration → Option String
  | renamed name _ => some name
  | struct name _ => some name
  | getter .. => none

def selectors : Declaration → List String
  | renamed .. => []
  | struct _ members => members.map Member.name
  | getter _ _ ident _ _ => ["Get" ++ ident]

private theorem scopeNames_ofRecord (r : Record) :
    (ofRecord r).filterMap scopeName? = [r.name] := by
  unfold ofRecord
  cases r.aliasOf with
  | some type => rfl
  | none =>
    have getters :
        ((r.fields.filter (!·.embedded)).map (getterOf r)).filterMap scopeName? = [] := by
      rw [List.filterMap_eq_nil_iff]
      intro declaration member
      obtain ⟨f, -, rfl⟩ := List.mem_map.mp member
      rfl
    exact congrArg (r.name :: ·) getters

end Declaration

/-! ## Names of the time types -/

def nameAfter? (word line : List Char) : Option String :=
  if word.isPrefixOf line then
    match (line.drop word.length).takeWhile Char.isAlphanum with
    | [] => none
    | name => some (String.ofList name)
  else none

/-- The names that the lines of a source declare for its package: constants, each on a line of
their list, types, and functions without a receiver. -/
def scopeNames (inConstants : Bool) : List (List Char) → List String
  | [] => []
  | line :: rest =>
    if inConstants then
      if line = ")".toList then scopeNames false rest
      else (nameAfter? "\t".toList line).toList ++ scopeNames true rest
    else if line = "const (".toList then scopeNames true rest
    else (nameAfter? "type ".toList line).toList ++ (nameAfter? "func ".toList line).toList ++
      scopeNames false rest

def timeTypesNames : List String := scopeNames false (timeTypesLines.map String.toList)

private theorem map_toList_eq {lines : List String} {spelled : List (List Char)}
    (h : List.Forall₂ (fun line chars => String.toList line = chars) lines spelled) :
    lines.map String.toList = spelled := by
  induction h with
  | nil => rfl
  | cons first _ ih => rw [List.map_cons, first, ih]

private theorem timeTypesNames_eq : timeTypesNames = [
    "timeOnly", "dateOnly", "dateTimeWithoutZone", "LocalTime", "LocalDate", "LocalDateTime",
    "parseJSON", "parseXML"] := by
  -- the lines are spelled out before they are read: reading them in place takes much longer
  have spelled : ∃ lines, timeTypesLines.map String.toList = lines ∧ scopeNames false lines = [
      "timeOnly", "dateOnly", "dateTimeWithoutZone", "LocalTime", "LocalDate", "LocalDateTime",
      "parseJSON", "parseXML"] := by
    apply Exists.intro
    apply And.intro
    · apply map_toList_eq
      simp only [timeTypesLines]
      repeat
        apply List.Forall₂.cons
        · exact String.toList_ofList
      exact .nil
    · decide +kernel
  obtain ⟨lines, same, names⟩ := spelled
  rw [timeTypesNames, same, names]

end ApiScaffold.Go

namespace ApiScaffold

open ApiScaffold.Go

/-! ## Names in a struct -/

def Record.selectors (r : Record) : List String :=
  (Declaration.ofRecord r).flatMap Declaration.selectors

def Schema.NamesRoot (s : Schema) (component : String) : Prop :=
  ∃ xml ∈ s.xml, qualifiedXmlName xml.nsPrefix (xml.name.getD component) ≠ ""

/-- Nothing in the struct of a component that is made of its properties, of what other components
lend it, and perhaps of the name of a root element, has the name of anything else in it. -/
structure Schema.KeepsApart (s : Schema) (component : String) : Prop where
  properties : ∀ p ∈ s.propertyNames, ∀ q ∈ s.propertyNames,
    Naming.exported p = Naming.exported q → p = q
  lent : ∀ p ∈ s.propertyNames, Naming.exported p ∉ s.lentNames
  getters : ∀ p ∈ s.propertyNames,
    "Get" ++ Naming.exported p ∉ s.lentNames ++ s.propertyNames.map Naming.exported
  root : s.NamesRoot component →
    "XMLName" ∉ s.lentNames ++ s.propertyNames.map Naming.exported

namespace Record

variable {d : Document} {name : String} {schema : Schema} {r : Record}

private theorem xmlRoot_of_ofSchema (h : (ofSchema d name schema).result = .ok r) :
    r.xmlRoot = schema.xml.map fun xml => ⟨xml.name.getD name, xml.nsPrefix⟩ := by
  simp only [ofSchema] at h
  split at h
  all_goals
    obtain ⟨_, -, h⟩ := Diagnosed.bind_result_eq_ok.mp h
    obtain ⟨_, -, h⟩ := Diagnosed.bind_result_eq_ok.mp h
    cases h
    rfl

def fieldName (f : Field) : String := if f.embedded then f.name else Naming.exported f.name

private theorem name_ofField {f : Field} (named : FieldNamed f) (xmlBound : Bool) :
    (Member.ofField xmlBound f).name = fieldName f := by
  rw [Member.ofField, fieldName]
  split
  next lends =>
    rw [(named.lent lends).2]
    rfl
  next own => exact named.own (Bool.eq_false_iff.mpr own)

def rootNames (r : Record) : List String := (r.xmlRoot.bind Member.ofXmlRoot).toList.map Member.name

private theorem mem_rootNames (h : (ofSchema d name schema).result = .ok r) {member : String} :
    member ∈ r.rootNames ↔ member = "XMLName" ∧ schema.NamesRoot name := by
  rw [rootNames, xmlRoot_of_ofSchema h, Schema.NamesRoot]
  cases schema.xml with
  | none => simp
  | some xml =>
    by_cases unnamed : qualifiedXmlName xml.nsPrefix (xml.name.getD name) = ""
    · simp [Member.ofXmlRoot, unnamed]
    · simp [Member.ofXmlRoot, unnamed, Member.name]

private theorem nodup_rootNames (r : Record) : r.rootNames.Nodup := by
  rw [rootNames]
  cases r.xmlRoot.bind Member.ofXmlRoot with
  | none => exact List.nodup_nil
  | some m => exact List.nodup_singleton _

section

variable (h : (ofSchema d name schema).result = .ok r)

include h

private theorem selectors_eq (own : r.aliasOf = none) :
    r.selectors = r.rootNames ++ (r.fields.map fieldName ++
      (r.fields.filter (!·.embedded)).map fun f => "Get" ++ Naming.exported f.name) := by
  have named := (fielded_of_ofSchema h).named
  have members : (r.fields.map (Member.ofField r.xmlRoot.isSome)).map Member.name =
      r.fields.map fieldName := by
    rw [List.map_map]
    exact List.map_congr_left fun f member => name_ofField (named f member) _
  have getters : ((r.fields.filter (!·.embedded)).map (Declaration.getterOf r)).flatMap
      Declaration.selectors =
        (r.fields.filter (!·.embedded)).map fun f => "Get" ++ Naming.exported f.name := by
    rw [List.flatMap_map, List.map_eq_flatMap]
    refine List.flatMap_congr fun f member => ?_
    obtain ⟨inside, kept⟩ := List.mem_filter.mp member
    rw [← (named f inside).own (by simpa using kept)]
    rfl
  rw [selectors, Declaration.ofRecord, own]
  simp only [List.flatMap_cons, getters, Declaration.selectors, List.map_append, members,
    rootNames, List.append_assoc]

private theorem mem_fieldNames {member : String} :
    member ∈ r.fields.map fieldName ↔
      member ∈ schema.lentNames ++ schema.propertyNames.map Naming.exported := by
  have fielded := fielded_of_ofSchema h
  rw [List.mem_append, Schema.mem_lentNames, ← fielded.lent, List.mem_map, List.mem_map]
  simp only [← fielded.own]
  constructor
  · rintro ⟨f, inside, rfl⟩
    cases kind : f.embedded with
    | true => exact .inl ⟨f, inside, kind, by simp [fieldName, kind]⟩
    | false => exact .inr ⟨f.name, ⟨f, inside, kind, rfl⟩, by simp [fieldName, kind]⟩
  · rintro (⟨f, inside, kind, rfl⟩ | ⟨_, ⟨f, inside, kind, rfl⟩, rfl⟩)
    · exact ⟨f, inside, by simp [fieldName, kind]⟩
    · exact ⟨f, inside, by simp [fieldName, kind]⟩

private theorem mem_getterNames {member : String} :
    (member ∈ (r.fields.filter (!·.embedded)).map fun f => "Get" ++ Naming.exported f.name) ↔
      ∃ p ∈ schema.propertyNames, member = "Get" ++ Naming.exported p := by
  have fielded := fielded_of_ofSchema h
  simp only [← fielded.own, List.mem_map, List.mem_filter, Bool.not_eq_true']
  constructor
  · rintro ⟨f, ⟨inside, kind⟩, rfl⟩
    exact ⟨f.name, ⟨f, inside, kind, rfl⟩, rfl⟩
  · rintro ⟨_, ⟨f, inside, kind, rfl⟩, rfl⟩
    exact ⟨f, ⟨inside, kind⟩, rfl⟩

private theorem nodup_fieldNames_iff :
    (r.fields.map fieldName).Nodup ↔
      (∀ p ∈ schema.propertyNames, ∀ q ∈ schema.propertyNames,
        Naming.exported p = Naming.exported q → p = q) ∧
      ∀ p ∈ schema.propertyNames, Naming.exported p ∉ schema.lentNames := by
  have fielded := fielded_of_ofSchema h
  constructor
  · intro distinct
    constructor
    · intro p hp q hq same
      obtain ⟨f, inside, kind, rfl⟩ := (fielded.own p).mpr hp
      obtain ⟨g, inside', kind', rfl⟩ := (fielded.own q).mpr hq
      have names : fieldName f = fieldName g := by simpa [fieldName, kind, kind'] using same
      rw [List.inj_on_of_nodup_map distinct inside inside' names]
    · intro p hp lent
      obtain ⟨f, inside, kind, rfl⟩ := (fielded.own p).mpr hp
      obtain ⟨g, inside', kind', named⟩ := (fielded.lent _).mpr (Schema.mem_lentNames.mp lent)
      have names : fieldName f = fieldName g := by simp [fieldName, kind, kind', named]
      rw [List.inj_on_of_nodup_map distinct inside inside' names, kind'] at kind
      cases kind
  · rintro ⟨properties, lent⟩
    have lentApart {f g : Field} (hf : f ∈ r.fields) (hg : g ∈ r.fields)
        (kind : f.embedded = true) (kind' : g.embedded = false) :
        f.name ≠ Naming.exported g.name := by
      intro same
      have inside := Schema.mem_lentNames.mpr ((fielded.lent _).mp ⟨f, hf, kind, rfl⟩)
      rw [same] at inside
      exact lent _ ((fielded.own _).mp ⟨g, hg, kind', rfl⟩) inside
    refine fielded.nodup.of_map.map_on ?_
    intro f hf g hg same
    -- two components, or two properties, differ by their names; no property has a component's name
    cases kind : f.embedded <;> cases kind' : g.embedded <;>
      simp only [fieldName, kind, kind', if_true, Bool.false_eq_true, if_false] at same
    case false.false =>
      have names := properties _ ((fielded.own _).mp ⟨f, hf, kind, rfl⟩) _
        ((fielded.own _).mp ⟨g, hg, kind', rfl⟩) same
      exact List.inj_on_of_nodup_map fielded.nodup hf hg names
    case false.true => exact absurd same.symm (lentApart hg hf kind' kind)
    case true.false => exact absurd same (lentApart hf hg kind kind')
    case true.true => exact List.inj_on_of_nodup_map fielded.nodup hf hg same

omit h in
private theorem nodup_getterNames (distinct : (r.fields.map fieldName).Nodup) :
    ((r.fields.filter (!·.embedded)).map fun f => "Get" ++ Naming.exported f.name).Nodup := by
  refine (distinct.of_map.filter _).map_on ?_
  intro f hf g hg same
  obtain ⟨hf, kind⟩ := List.mem_filter.mp hf
  obtain ⟨hg, kind'⟩ := List.mem_filter.mp hg
  have exported : Naming.exported f.name = Naming.exported g.name :=
    (String.append_right_inj _).mp same
  have names : fieldName f = fieldName g := by
    rw [Bool.not_eq_true'] at kind kind'
    simpa [fieldName, kind, kind'] using exported
  exact List.inj_on_of_nodup_map distinct hf hg names

omit h in
private theorem getter_ne_root (ident : String) : "Get" ++ ident ≠ "XMLName" := by
  intro same
  have letters := congrArg String.toList same
  rw [String.toList_append] at letters
  cases letters

private theorem nodup_selectors_iff (own : r.aliasOf = none) :
    r.selectors.Nodup ↔ schema.KeepsApart name := by
  rw [selectors_eq h own]
  constructor
  · intro distinct
    obtain ⟨-, others, rootApart⟩ := List.nodup_append.mp distinct
    obtain ⟨members, -, gettersApart⟩ := List.nodup_append.mp others
    obtain ⟨properties, lent⟩ := (nodup_fieldNames_iff h).mp members
    refine ⟨properties, lent, ?_, ?_⟩
    · intro p hp member
      have getter := (mem_getterNames h).mpr ⟨p, hp, rfl⟩
      exact gettersApart _ ((mem_fieldNames h).mpr member) _ getter rfl
    · intro root member
      have first := (mem_rootNames h).mpr ⟨rfl, root⟩
      exact rootApart _ first _ (List.mem_append_left _ ((mem_fieldNames h).mpr member)) rfl
  · intro apart
    have members := (nodup_fieldNames_iff h).mpr ⟨apart.properties, apart.lent⟩
    refine List.nodup_append.mpr ⟨nodup_rootNames r,
      List.nodup_append.mpr ⟨members, nodup_getterNames members, ?_⟩, ?_⟩
    · intro member among getter got same
      obtain ⟨p, hp, rfl⟩ := (mem_getterNames h).mp got
      rw [same, mem_fieldNames h] at among
      exact apart.getters p hp among
    · intro member first other among same
      obtain ⟨rfl, root⟩ := (mem_rootNames h).mp first
      rw [← same] at among
      rcases List.mem_append.mp among with among | among
      · exact apart.root root ((mem_fieldNames h).mp among)
      · obtain ⟨p, -, spelled⟩ := (mem_getterNames h).mp among
        exact getter_ne_root _ spelled.symm

end

end Record

/-! ## Names in the package of the data types -/

namespace DataTypes

/-- The names that the sources of all groups declare for the package, and those of the time
types. -/
def scopeNames (types : DataTypes) : List String :=
  types.records.flatMap (fun r => (Declaration.ofRecord r).filterMap Declaration.scopeName?) ++
    timeTypesNames

private theorem scopeNames_eq (types : DataTypes) :
    types.scopeNames = types.records.map (·.name) ++ timeTypesNames := by
  rw [scopeNames, List.map_eq_flatMap]
  simp only [Declaration.scopeNames_ofRecord]

variable {d : Document} {c : Context} {types : DataTypes}
  (ordered : Keyed.Increasing d.schemas) (h : (ofDocument d c).result = .ok types)

include ordered h

private theorem nodup_records : (types.records.map (·.name)).Nodup := by
  have names : types.records.map (·.name) = types.entries.map (·.2.name) := by
    rw [records, entries, List.map_flatMap, List.map_flatMap]
    simp only [List.map_map, Function.comp_def]
  rw [names]
  exact nodup_entries h ordered

private theorem nodup_scopeNames_iff :
    types.scopeNames.Nodup ↔
      ∀ name ∈ timeTypesNames, ¬ (c.isSkipped name = false ∧ d.IsRecord name) := by
  have fixed : timeTypesNames.Nodup := by
    rw [timeTypesNames_eq]
    decide
  rw [scopeNames_eq, List.nodup_append]
  constructor
  · rintro ⟨-, -, apart⟩ name timed becomes
    obtain ⟨r, member, rfl⟩ := (exists_record_iff ordered h).mpr becomes
    exact apart _ (List.mem_map_of_mem member) _ timed rfl
  · intro apart
    refine ⟨nodup_records ordered h, fixed, ?_⟩
    intro name named other timed same
    obtain ⟨r, member, rfl⟩ := List.mem_map.mp named
    exact apart _ (same ▸ timed) ((exists_record_iff ordered h).mp ⟨r, member, rfl⟩)

private theorem nodup_structs_iff :
    (∀ r ∈ types.records, r.selectors.Nodup) ↔
      ∀ name schema, (name, schema) ∈ d.schemas → c.isSkipped name = false → d.IsRecord name →
        Record.isAlias schema = false → schema.KeepsApart name := by
  constructor
  · intro structs name schema inside kept becomes own
    obtain ⟨r, member, rfl, built⟩ := exists_ofSchema ordered h inside kept becomes
    have struct := (Record.aliasOf_eq_none_iff built).mpr own
    exact (Record.nodup_selectors_iff built struct).mp (structs r member)
  · intro apart r member
    obtain ⟨schema, inside, built⟩ := ofSchema_of_mem_records h member
    obtain ⟨kept, becomes⟩ := (exists_record_iff ordered h).mp ⟨r, member, rfl⟩
    cases struct : r.aliasOf with
    | some type =>
      rw [Record.selectors, Declaration.ofRecord, struct]
      exact List.nodup_nil
    | none =>
      have own := (Record.aliasOf_eq_none_iff built).mp struct
      exact (Record.nodup_selectors_iff built struct).mpr
        (apart r.name schema inside kept becomes own)

end DataTypes

namespace Service

/-- The package of the data types declares no name twice, and neither does any of its structs. -/
structure DeclaresOnce (s : Service) : Prop where
  scope : s.types.scopeNames.Nodup
  structs : ∀ r ∈ s.types.records, r.selectors.Nodup

/-- No name is declared twice exactly if no component that becomes a record is called like a
declaration of the time types, and each schema that becomes a struct keeps its names apart. -/
theorem declaresOnce_iff {d : Document} {c : Context} {s : Service}
    (ordered : Keyed.Increasing d.schemas) (h : (Service.ofDocument d c).result = .ok s) :
    s.DeclaresOnce ↔
      (∀ name ∈ timeTypesNames, ¬ (c.isSkipped name = false ∧ d.IsRecord name)) ∧
      ∀ name schema, (name, schema) ∈ d.schemas → c.isSkipped name = false → d.IsRecord name →
        Record.isAlias schema = false → schema.KeepsApart name := by
  have compiled := (compiled_of_ofDocument h).types
  rw [← DataTypes.nodup_scopeNames_iff ordered compiled,
    ← DataTypes.nodup_structs_iff ordered compiled]
  constructor
  · intro once
    exact ⟨once.scope, once.structs⟩
  · rintro ⟨scope, structs⟩
    exact ⟨scope, structs⟩

def slotDescription (name : String) (members : List (String × Json)) : Json :=
  Description.assemble [(name, .object (members ++ [("x-group", .string "slot")]))] [] []

def textProperties (names : List String) : List (String × Json) :=
  [("properties", .object (names.map fun name => (name, .object [("type", .string "string")])))]

/-- The name of a root element is a member besides the properties. -/
theorem declaresOnce_iff_slot :
    ∃ d c s, Description.read (slotDescription "Slot"
        (textProperties ["end", "start"] ++ [("xml", .object [("name", .string "slot")])])) =
          .ok d ∧
      Context.ofDocument d .go (some "example.com/queue") = .ok c ∧
      Keyed.Increasing d.schemas ∧ (Service.ofDocument d c).result = .ok s ∧
      (s.DeclaresOnce ↔
        (∀ name ∈ timeTypesNames, ¬ (c.isSkipped name = false ∧ d.IsRecord name)) ∧
        ∀ name schema, (name, schema) ∈ d.schemas → c.isSkipped name = false → d.IsRecord name →
          Record.isAlias schema = false → schema.KeepsApart name) ∧
      s.DeclaresOnce ∧ s.types.records.map (·.name) = ["Slot"] ∧
      s.types.records.map (·.selectors) =
        [["XMLName", "End", "Start", "GetEnd", "GetStart"]] := by
  have compiles : ∃ d c s, Description.read (slotDescription "Slot"
        (textProperties ["end", "start"] ++ [("xml", .object [("name", .string "slot")])])) =
          .ok d ∧
      Context.ofDocument d .go (some "example.com/queue") = .ok c ∧
      Keyed.Increasing d.schemas ∧ (Service.ofDocument d c).result = .ok s ∧
      (∀ r ∈ s.types.records, r.selectors.Nodup) ∧ s.types.records.map (·.name) = ["Slot"] ∧
      s.types.records.map (·.selectors) =
        [["XMLName", "End", "Start", "GetEnd", "GetStart"]] :=
    ⟨_, _, _, rfl, rfl, by decide, rfl, by decide +kernel⟩
  obtain ⟨d, c, s, read, context, ordered, compiled, structs, names, selectors⟩ := compiles
  have scope : s.types.scopeNames.Nodup := by
    rw [DataTypes.scopeNames_eq, names, timeTypesNames_eq]
    decide
  exact ⟨d, c, s, read, context, ordered, compiled, declaresOnce_iff ordered compiled,
    ⟨scope, structs⟩, names, selectors⟩

/-- Exported properties can meet, and a component can be called like a time type. -/
theorem not_declaresOnce_slot :
    (∃ d c s, Description.read (slotDescription "Slot"
        (textProperties ["content-type", "contentType"])) = .ok d ∧
      Context.ofDocument d .go (some "example.com/queue") = .ok c ∧
      (Service.ofDocument d c).result = .ok s ∧
      s.types.records.map (·.selectors) =
        [["ContentType", "ContentType", "GetContentType", "GetContentType"]] ∧
      ¬ s.DeclaresOnce) ∧
    ∃ d c s, Description.read (slotDescription "LocalDate" (textProperties ["day"])) = .ok d ∧
      Context.ofDocument d .go (some "example.com/queue") = .ok c ∧
      (Service.ofDocument d c).result = .ok s ∧
      s.types.scopeNames = "LocalDate" :: timeTypesNames ∧ ¬ s.DeclaresOnce := by
  have exported : ∃ d c s, Description.read (slotDescription "Slot"
        (textProperties ["content-type", "contentType"])) = .ok d ∧
      Context.ofDocument d .go (some "example.com/queue") = .ok c ∧
      (Service.ofDocument d c).result = .ok s ∧
      s.types.records.map (·.selectors) =
        [["ContentType", "ContentType", "GetContentType", "GetContentType"]] ∧
      ¬ ∀ r ∈ s.types.records, r.selectors.Nodup :=
    ⟨_, _, _, rfl, rfl, rfl, by decide +kernel⟩
  have timed : ∃ d c s,
      Description.read (slotDescription "LocalDate" (textProperties ["day"])) = .ok d ∧
      Context.ofDocument d .go (some "example.com/queue") = .ok c ∧
      (Service.ofDocument d c).result = .ok s ∧
      s.types.records.map (·.name) = ["LocalDate"] := ⟨_, _, _, rfl, rfl, rfl, rfl⟩
  constructor
  · obtain ⟨d, c, s, read, context, compiled, selectors, twice⟩ := exported
    exact ⟨d, c, s, read, context, compiled, selectors, fun once => twice once.structs⟩
  · obtain ⟨d, c, s, read, context, compiled, names⟩ := timed
    have scope : s.types.scopeNames = "LocalDate" :: timeTypesNames := by
      rw [DataTypes.scopeNames_eq, names, List.singleton_append]
    refine ⟨d, c, s, read, context, compiled, scope, fun once => ?_⟩
    have distinct := once.scope
    rw [scope, timeTypesNames_eq] at distinct
    exact absurd distinct (by decide)

end Service

end ApiScaffold
