import ApiScaffold.Proofs.Emission
/-!
# Fields of records

A record has one field for each of its declarations, but a property takes the place of a component
of its name, and of an earlier property. So the fields of a record are the properties of its parts,
and those of the components it is composed of whose names no property has.
-/
namespace ApiScaffold

namespace Schema

def propertyNames (s : Schema) : List String :=
  (s.allOf.filterMap Record.inlineSchema?).flatMap (Keyed.keys ·.properties) ++
    Keyed.keys s.properties

def componentNames (s : Schema) : List String := s.allOf.filterMap (·.reference?)

def lentNames (s : Schema) : List String := s.componentNames.filter (!s.propertyNames.contains ·)

theorem mem_lentNames {s : Schema} {name : String} :
    name ∈ s.lentNames ↔ name ∈ s.componentNames ∧ name ∉ s.propertyNames := by
  simp [lentNames]

end Schema

namespace Record

/-! ## Putting fields -/

structure FieldNamed (f : Field) : Prop where
  lent : f.embedded = true → f.ident = f.name ∧ f.type.shape = .composed f.name
  own : f.embedded = false → f.ident = Naming.exported f.name

theorem names_putField {field : Field} {fields : List Field} :
    (putField field fields).map (·.name) =
      if field.name ∈ fields.map (·.name) then fields.map (·.name)
      else fields.map (·.name) ++ [field.name] := by
  induction fields with
  | nil => rfl
  | cons f rest ih =>
    rw [putField]
    by_cases same : f.name = field.name
    · simp [same]
    · have different : ¬ field.name = f.name := fun h => same h.symm
      simp only [same, if_false, List.map_cons, ih, List.mem_cons, different, false_or]
      split <;> rfl

theorem nodup_putField {field : Field} {fields : List Field}
    (h : (fields.map (·.name)).Nodup) : ((putField field fields).map (·.name)).Nodup := by
  rw [names_putField]
  split
  case isTrue => exact h
  case isFalse fresh =>
    refine List.nodup_append.mpr ⟨h, List.nodup_singleton _, ?_⟩
    intro name member other new same
    rw [same, List.mem_singleton.mp new] at member
    exact fresh member

theorem mem_putField {field f : Field} {fields : List Field} (h : (fields.map (·.name)).Nodup) :
    f ∈ putField field fields ↔ f = field ∨ f ∈ fields ∧ f.name ≠ field.name := by
  induction fields with
  | nil => simp [putField]
  | cons first rest ih =>
    obtain ⟨fresh, tail⟩ := List.nodup_cons.mp h
    rw [putField]
    by_cases same : first.name = field.name
    · rw [if_pos same, List.mem_cons, List.mem_cons]
      refine or_congr_right ⟨fun member => ⟨.inr member, ?_⟩, ?_⟩
      · intro named
        exact fresh (List.mem_map.mpr ⟨f, member, named.trans same.symm⟩)
      · rintro ⟨rfl | member, different⟩
        · exact absurd same different
        · exact member
    · rw [if_neg same, List.mem_cons, List.mem_cons, ih tail]
      constructor
      · rintro (rfl | rfl | ⟨member, different⟩)
        · exact .inr ⟨.inl rfl, same⟩
        · exact .inl rfl
        · exact .inr ⟨.inr member, different⟩
      · rintro (rfl | ⟨rfl | member, different⟩)
        · exact .inr (.inl rfl)
        · exact .inl rfl
        · exact .inr (.inr ⟨member, different⟩)

/-! ## Declarations -/

namespace Declaration

def name : Declaration → String
  | component name => name
  | property _ name _ => name

def lends : Declaration → Bool
  | component _ => true
  | property .. => false

end Declaration

variable {d : Document} {owner : String} {xmlBound : Bool}

theorem declaredField_eq_ok {declaration : Declaration} {f : Field}
    (h : (declaredField d owner xmlBound declaration).result = .ok f) :
    f.name = declaration.name ∧ f.embedded = declaration.lends ∧ FieldNamed f := by
  cases declaration with
  | component name =>
    obtain ⟨-, rfl⟩ := declaredField_component_eq_ok_iff.mp h
    exact ⟨rfl, rfl, ⟨fun _ => ⟨rfl, rfl⟩, fun own => by cases own⟩⟩
  | property holder name position =>
    obtain ⟨type, _, -, -, rfl⟩ := field_eq_ok_iff.mp h
    exact ⟨rfl, rfl, ⟨fun lends => (by cases lends), fun _ => rfl⟩⟩

/-- The fields there are when some components, and then some properties, have been declared. -/
structure Fielded (components properties : List String) (fields : List Field) : Prop where
  nodup : (fields.map (·.name)).Nodup
  named : ∀ f ∈ fields, FieldNamed f
  lent (name : String) : (∃ f ∈ fields, f.embedded = true ∧ f.name = name) ↔
    name ∈ components ∧ name ∉ properties
  own (name : String) : (∃ f ∈ fields, f.embedded = false ∧ f.name = name) ↔ name ∈ properties

private theorem fielded_nil : Fielded [] [] [] where
  nodup := List.nodup_nil
  named := List.forall_mem_nil _
  lent := by simp
  own := by simp

private theorem exists_mem_putField {field : Field} {fields : List Field}
    (h : (fields.map (·.name)).Nodup) (lends : Bool) (name : String) :
    (∃ f ∈ putField field fields, f.embedded = lends ∧ f.name = name) ↔
      field.embedded = lends ∧ field.name = name ∨
        name ≠ field.name ∧ ∃ f ∈ fields, f.embedded = lends ∧ f.name = name := by
  simp only [mem_putField h]
  constructor
  · rintro ⟨f, rfl | ⟨member, different⟩, kind, rfl⟩
    · exact .inl ⟨kind, rfl⟩
    · exact .inr ⟨different, f, member, kind, rfl⟩
  · rintro (⟨kind, rfl⟩ | ⟨different, f, member, kind, rfl⟩)
    · exact ⟨field, .inl rfl, kind, rfl⟩
    · exact ⟨f, .inr ⟨member, different⟩, kind, rfl⟩

namespace Fielded

variable {components properties : List String} {fields : List Field} {field : Field}

private theorem named_putField (h : Fielded components properties fields) (new : FieldNamed field) :
    ∀ f ∈ putField field fields, FieldNamed f := by
  intro f member
  rcases eq_or_mem_of_mem_putField member with rfl | member
  · exact new
  · exact h.named f member

private theorem put_component (h : Fielded components [] fields) (new : FieldNamed field)
    (lends : field.embedded = true) :
    Fielded (components ++ [field.name]) [] (putField field fields) where
  nodup := nodup_putField h.nodup
  named := h.named_putField new
  lent name := by
    rw [exists_mem_putField h.nodup, h.lent]
    by_cases same : field.name = name
    · simp [lends, same]
    · simp [same, Ne.symm same]
  own name := by
    rw [exists_mem_putField h.nodup, h.own]
    simp [lends]

private theorem put_property (h : Fielded components properties fields) (new : FieldNamed field)
    (own : field.embedded = false) :
    Fielded components (properties ++ [field.name]) (putField field fields) where
  nodup := nodup_putField h.nodup
  named := h.named_putField new
  lent name := by
    rw [exists_mem_putField h.nodup, h.lent]
    simp [own, and_left_comm, and_comm]
  own name := by
    rw [exists_mem_putField h.nodup, h.own]
    by_cases same : field.name = name
    · simp [own, same]
    · simp [same, Ne.symm same]

end Fielded

/-! ## Runs of declarations -/

/-- What holds of the declarations so far and the fields there are, and is kept by each further
one, holds in the end of all of them. -/
theorem putDeclared_induction {motive : List Declaration → List Field → Prop}
    {done : List Declaration} {fields last : List Field} {declarations : List Declaration}
    (step : ∀ declaration ∈ declarations, ∀ done fields field,
      (declaredField d owner xmlBound declaration).result = .ok field → motive done fields →
        motive (done ++ [declaration]) (putField field fields))
    (before : motive done fields)
    (h : (putDeclared d owner xmlBound fields declarations).result = .ok last) :
    motive (done ++ declarations) last := by
  induction declarations generalizing done fields with
  | nil =>
    cases h
    simpa using before
  | cons declaration rest ih =>
    obtain ⟨field, declared, h⟩ := Diagnosed.bind_result_eq_ok.mp h
    obtain ⟨first, others⟩ := List.forall_mem_cons.mp step
    have after := first done fields field declared before
    simpa using ih others after h

private theorem putDeclared_append {fields last : List Field} {first second : List Declaration}
    (h : (putDeclared d owner xmlBound fields (first ++ second)).result = .ok last) :
    ∃ between, (putDeclared d owner xmlBound fields first).result = .ok between ∧
      (putDeclared d owner xmlBound between second).result = .ok last := by
  induction first generalizing fields with
  | nil => exact ⟨fields, rfl, h⟩
  | cons declaration rest ih =>
    obtain ⟨field, declared, h⟩ := Diagnosed.bind_result_eq_ok.mp h
    obtain ⟨between, before, after⟩ := ih h
    exact ⟨between, Diagnosed.bind_result_eq_ok.mpr ⟨field, declared, before⟩, after⟩

private theorem names_ownDeclarations (holder : Schema) :
    (ownDeclarations holder).map (·.name) = Keyed.keys holder.properties := by
  rw [ownDeclarations, List.map_map]
  rfl

private theorem lends_of_mem_ownDeclarations {holder : Schema} {declaration : Declaration}
    (h : declaration ∈ ownDeclarations holder) : declaration.lends = false := by
  obtain ⟨property, -, rfl⟩ := List.mem_map.mp h
  rfl

private theorem lends_of_mem_properties {schema : Schema} {declaration : Declaration}
    (h : declaration ∈ (schema.allOf.filterMap inlineSchema?).flatMap ownDeclarations ++
      ownDeclarations schema) : declaration.lends = false := by
  rcases List.mem_append.mp h with member | member
  · obtain ⟨part, -, member⟩ := List.mem_flatMap.mp member
    exact lends_of_mem_ownDeclarations member
  · exact lends_of_mem_ownDeclarations member

theorem lends_of_mem_composed {schema : Schema} {declaration : Declaration}
    (h : declaration ∈ schema.allOf.filterMap (·.reference?.map Declaration.component)) :
    declaration.lends = true := by
  obtain ⟨part, -, found⟩ := List.mem_filterMap.mp h
  obtain ⟨component, -, rfl⟩ := Option.map_eq_some_iff.mp found
  rfl

theorem fielded_of_ofSchema {name : String} {schema : Schema} {r : Record}
    (h : (ofSchema d name schema).result = .ok r) :
    Fielded schema.componentNames schema.propertyNames r.fields := by
  obtain ⟨-, declared, -⟩ := ofSchema_eq_ok h
  rw [declarations, List.append_assoc] at declared
  obtain ⟨between, components, properties⟩ := putDeclared_append declared
  have componentNames : (schema.allOf.filterMap (·.reference?.map Declaration.component)).map
      (·.name) = schema.componentNames := by
    rw [List.map_filterMap, Schema.componentNames]
    congr 1
    funext part
    cases part <;> rfl
  have propertyNames : ((schema.allOf.filterMap inlineSchema?).flatMap ownDeclarations ++
      ownDeclarations schema).map (·.name) = schema.propertyNames := by
    rw [List.map_append, List.map_flatMap, Schema.propertyNames]
    simp only [names_ownDeclarations]
  have none : Fielded (([] : List Declaration).map (·.name)) [] [] := fielded_nil
  have lent := putDeclared_induction
    (motive := fun done fields => Fielded (done.map (·.name)) [] fields)
    (by
      intro declaration member done fields field declared before
      obtain ⟨name, kind, new⟩ := declaredField_eq_ok declared
      rw [lends_of_mem_composed member] at kind
      simpa [name] using before.put_component new kind) none components
  rw [List.nil_append, componentNames] at lent
  have own : Fielded schema.componentNames (([] : List Declaration).map (·.name)) between := lent
  have all := putDeclared_induction
    (motive := fun done fields => Fielded schema.componentNames (done.map (·.name)) fields)
    (by
      intro declaration member done fields field declared before
      obtain ⟨name, kind, new⟩ := declaredField_eq_ok declared
      rw [lends_of_mem_properties member] at kind
      simpa [name] using before.put_property new kind) own properties
  rwa [List.nil_append, propertyNames] at all

end Record

end ApiScaffold
