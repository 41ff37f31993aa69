import Mathlib.Data.List.Nodup
import ApiScaffold.Model.Parameter
import ApiScaffold.Proofs.Outcome
/-!
# Parameters that can be planned

Planning the parameters of an operation checks each of them against those before it. It succeeds
exactly if no two of them have one name or one identifier, those of the path are required, and
nothing that is referred to is missing. The plan then lists them by scope, in their order.
-/
namespace ApiScaffold

namespace Document

def Finds (d : Document) : SchemaRef → Prop
  | .reference name => (d.schema? name).isSome = true
  | .inline _ => True

private theorem exists_resolve_iff {d : Document} {position : SchemaRef} :
    (∃ schema, d.resolve position = .ok schema) ↔ d.Finds position := by
  cases position with
  | inline schema => exact iff_of_true ⟨schema, rfl⟩ trivial
  | reference name =>
    cases found : d.schema? name <;> simp [resolve, Finds, found]

end Document

namespace ValueKind

variable {d : Document}

/-- The references lead to components on which the kind of a parameter depends: that to its schema,
and for an array that to the schema of its items. -/
structure Found (d : Document) (given : Option SchemaRef) : Prop where
  schema : ∀ position ∈ given, d.Finds position
  items : ∀ position ∈ given, ∀ schema, d.resolve position = .ok schema →
    schema.type = some "array" → ∀ items ∈ schema.items, d.Finds items

/-- The items of an array are the only part of a schema that is looked up for its kind. -/
theorem exists_ofResolved_iff {position : SchemaRef} {schema : Schema}
    (resolved : d.resolve position = .ok schema) :
    (∃ kind, ofSchema d (some position) = .ok kind) ↔
      (schema.type = some "array" → ∀ items ∈ schema.items, d.Finds items) := by
  simp only [ofSchema, resolved, bind, Except.bind]
  split
  next untyped => simp [untyped, pure, Except.pure]
  next array none => simp [none, pure, Except.pure]
  next items array some =>
    simp only [array, some, forall_const, Option.mem_some_iff, forall_eq', ← d.exists_resolve_iff]
    cases d.resolve items <;> simp [pure, Except.pure]
  next object => simp [object, pure, Except.pure]
  next type _ typed none some =>
    refine iff_of_true ⟨_, rfl⟩ fun array => ?_
    obtain rfl : type = "array" := Option.some.inj (typed.symm.trans array)
    cases items : schema.items with
    | none => exact (none items rfl).elim
    | some items' => exact (some items' items rfl).elim

private theorem exists_ofSchema_iff {given : Option SchemaRef} :
    (∃ kind, ofSchema d given = .ok kind) ↔ Found d given := by
  cases given with
  | none => exact iff_of_true ⟨_, rfl⟩ ⟨nofun, nofun⟩
  | some position =>
    constructor
    · intro h
      have resolved : ∃ schema, d.resolve position = .ok schema := by
        obtain ⟨_, h⟩ := h
        obtain ⟨schema, resolved, -⟩ := Outcome.bind_eq_ok.mp h
        exact ⟨schema, resolved⟩
      constructor
      · intro position given
        cases given
        exact d.exists_resolve_iff.mp resolved
      · intro position given schema resolved
        cases given
        exact (exists_ofResolved_iff resolved).mp h
    · intro h
      obtain ⟨schema, resolved⟩ := d.exists_resolve_iff.mpr (h.schema position rfl)
      exact (exists_ofResolved_iff resolved).mpr (h.items position rfl schema resolved)

end ValueKind

namespace ParameterPlan

variable {d : Document} {operation path : String} {shared own : List Parameter} {paged : Bool}

/-! ## Parameters that take part -/

/-- Headers and cookies do not take part, and neither does what a paged operation leaves to
paging. -/
def takesPart (paged : Bool) (p : Parameter) : Bool :=
  match p.location with
  | .path => true
  | .query => !(paged && ["page", "size", "sort"].contains p.name)
  | .header | .cookie => false

def taking (paged : Bool) (shared own : List Parameter) : List Parameter :=
  (own ++ shared).filter (takesPart paged)

def scopeOf (p : Parameter) : ParamScope := if p.location = .path then .path else .query

private theorem kept_cons (p : Parameter) (declared : List Parameter) :
    kept paged (p :: declared) =
      if takesPart paged p then (scopeOf p, p) :: kept paged declared else kept paged declared := by
  obtain ⟨name, location, required, schema, description⟩ := p
  cases location with
  | path => cases paged <;> rfl
  | query =>
    cases paged with
    | false => rfl
    | true =>
      have same : pagingNames.contains name = ["page", "size", "sort"].contains name := rfl
      rw [kept, List.filterMap_cons]
      simp only [scope?, takesPart, scopeOf, same, decide_true, Bool.true_and]
      cases ["page", "size", "sort"].contains name <;> rfl
  | header => rfl
  | cookie => rfl

def inScope (paged : Bool) (shared own : List Parameter) : List (ParamScope × Parameter) :=
  (taking paged shared own).map fun p => (scopeOf p, p)

private theorem kept_eq : kept paged (own ++ shared) = inScope paged shared own := by
  rw [inScope, taking]
  induction own ++ shared with
  | nil => rfl
  | cons p declared ih =>
    rw [kept_cons, List.filter_cons, ih]
    split <;> rfl

/-! ## One parameter after another -/

/-- The parameter is taken over, and is required if it belongs to the path. -/
structure Specifies (d : Document) (declared : ParamScope × Parameter) (spec : ParamSpec) :
    Prop where
  name : spec.name = declared.2.name
  ident : spec.ident = Naming.camelCase declared.2.name
  scope : spec.scope = declared.1
  kind : ValueKind.ofSchema d declared.2.schema = .ok spec.kind
  required : spec.required = declared.2.required
  path : spec.scope = .path → spec.required = true

private theorem Specifies.eq {declared : ParamScope × Parameter} {spec : ParamSpec}
    (h : Specifies d declared spec) :
    spec = ⟨declared.2.name, Naming.camelCase declared.2.name, declared.1, spec.kind,
      declared.2.required⟩ := by
  rw [← h.name, ← h.scope, ← h.required, ← h.ident.trans (congrArg _ h.name.symm)]

variable {done specs : List ParamSpec}

private theorem spec_eq_ok_iff {scope : ParamScope} {p : Parameter} {next : ParamSpec} :
    spec d operation done scope p = .ok next ↔
      Specifies d (scope, p) next ∧ next.name ∉ done.map (·.name) ∧
        next.ident ∉ done.map (·.ident) := by
  unfold spec
  dsimp only
  split
  next taken =>
    refine iff_of_false nofun ?_
    rintro ⟨specifies, fresh, -⟩
    rw [specifies.name] at fresh
    simp_all
  next fresh =>
    split
    next optional =>
      refine iff_of_false nofun ?_
      rintro ⟨specifies, -, -⟩
      have required := specifies.path (specifies.scope.trans optional.1)
      rw [specifies.required] at required
      dsimp only at required
      simp [required] at optional
    next required =>
      split
      next first found =>
        refine iff_of_false nofun ?_
        rintro ⟨specifies, -, free⟩
        rw [specifies.ident] at free
        have same := List.find?_some found
        have member := List.mem_of_find?_eq_some found
        simp_all
      next free =>
        rw [Outcome.bind_eq_ok]
        constructor
        · intro h
          obtain ⟨kind, known, h⟩ := h
          cases h
          refine ⟨⟨rfl, rfl, rfl, known, rfl, ?_⟩, ?_, ?_⟩
          · simpa using required
          · simpa using fresh
          · simpa using free
        · intro h
          obtain ⟨specifies, -, -⟩ := h
          refine ⟨next.kind, specifies.kind, ?_⟩
          exact congrArg Except.ok specifies.eq.symm

private theorem nodup_map_concat {f : ParamSpec → String} {next : ParamSpec} :
    ((done ++ [next]).map f).Nodup ↔ (done.map f).Nodup ∧ f next ∉ done.map f := by
  rw [List.map_append, List.map_singleton, ← List.concat_eq_append]
  constructor
  · intro distinct
    rw [List.concat_eq_append, List.nodup_append] at distinct
    refine ⟨distinct.1, fun taken => ?_⟩
    exact distinct.2.2 _ taken _ (List.mem_singleton.mpr rfl) rfl
  · exact fun ⟨distinct, fresh⟩ => distinct.concat fresh

private theorem nodup_map_next {f : ParamSpec → String} {next : ParamSpec} {added : List ParamSpec}
    (h : ((done ++ next :: added).map f).Nodup) : ((done ++ [next]).map f).Nodup := by
  rw [List.append_cons, List.map_append] at h
  exact h.of_append_left

private theorem specsAfter_eq_ok_iff {declared : List (ParamScope × Parameter)}
    (names : (done.map (·.name)).Nodup) (idents : (done.map (·.ident)).Nodup) :
    specsAfter d operation done declared = .ok specs ↔
      ∃ added, specs = done ++ added ∧ List.Forall₂ (Specifies d) declared added ∧
        (specs.map (·.name)).Nodup ∧ (specs.map (·.ident)).Nodup := by
  induction declared generalizing done with
  | nil =>
    rw [specsAfter, Except.ok.injEq]
    constructor
    · rintro rfl
      exact ⟨[], (List.append_nil done).symm, .nil, names, idents⟩
    · rintro ⟨_, rfl, none, -⟩
      cases none
      exact (List.append_nil done).symm
  | cons first rest ih =>
    obtain ⟨scope, p⟩ := first
    rw [specsAfter, Outcome.bind_eq_ok]
    constructor
    · intro h
      obtain ⟨next, planned, h⟩ := h
      obtain ⟨specifies, freshName, freshIdent⟩ := spec_eq_ok_iff.mp planned
      have names' := nodup_map_concat.mpr ⟨names, freshName⟩
      have idents' := nodup_map_concat.mpr ⟨idents, freshIdent⟩
      obtain ⟨added, rfl, all, distinct⟩ := (ih names' idents').mp h
      exact ⟨next :: added, by simp, .cons specifies all, distinct⟩
    · intro h
      obtain ⟨_, rfl, all, names', idents'⟩ := h
      cases all with
      | @cons _ next _ added specifies all =>
        have freshName := nodup_map_concat.mp (nodup_map_next names')
        have freshIdent := nodup_map_concat.mp (nodup_map_next idents')
        refine ⟨next, spec_eq_ok_iff.mpr ⟨specifies, freshName.2, freshIdent.2⟩, ?_⟩
        refine (ih (nodup_map_next names') (nodup_map_next idents')).mpr ?_
        exact ⟨added, by simp, all, names', idents'⟩

/-! ## Plans -/

private theorem coverage_eq_ok_iff {template : List String} {params : List ParamSpec} :
    coverage operation template params = .ok () ↔
      ∀ name ∈ template, ∃ p ∈ params, p.name = name := by
  have covered : coverage operation template params = .ok () ↔
      template.find? (fun name => !params.any (·.name = name)) = none := by
    unfold coverage
    split
    next missing => simp [missing]
    next none => simp [none]
  rw [covered, List.find?_eq_none]
  simp

private theorem warnUnused_result (template : List String) (params : List ParamSpec) :
    (warnUnused operation template params).result = .ok () := by
  induction params with
  | nil => rfl
  | cons p rest ih =>
    rw [warnUnused]
    split
    · exact Diagnosed.bind_result_eq_ok.mpr ⟨(), rfl, ih⟩
    · exact ih

theorem plan_eq_ok_iff {planned : ParameterPlan} :
    (plan d operation path shared own paged).result = .ok planned ↔
      ∃ specs, specsAfter d operation [] (kept paged (own ++ shared)) = .ok specs ∧
        planned = ⟨specs.filter (·.scope = .path), specs.filter (·.scope = .query)⟩ ∧
        ∀ name ∈ placeholders path, ∃ p ∈ planned.path, p.name = name := by
  rw [plan, Diagnosed.bind_result_eq_ok]
  refine exists_congr fun specs => and_congr_right fun _ => ?_
  rw [Diagnosed.bind_result_eq_ok]
  constructor
  · intro h
    obtain ⟨_, covered, h⟩ := h
    obtain ⟨_, -, h⟩ := Diagnosed.bind_result_eq_ok.mp h
    cases h
    exact ⟨rfl, coverage_eq_ok_iff.mp covered⟩
  · rintro ⟨rfl, covered⟩
    refine ⟨(), coverage_eq_ok_iff.mpr covered, ?_⟩
    exact Diagnosed.bind_result_eq_ok.mpr ⟨(), warnUnused_result _ _, rfl⟩

theorem specs_eq_ok_iff {declared : List (ParamScope × Parameter)} :
    specsAfter d operation [] declared = .ok specs ↔
      List.Forall₂ (Specifies d) declared specs ∧
        (specs.map (·.name)).Nodup ∧ (specs.map (·.ident)).Nodup := by
  have empty (f : ParamSpec → String) : (([] : List ParamSpec).map f).Nodup := List.nodup_nil
  rw [specsAfter_eq_ok_iff (empty _) (empty _)]
  simp only [List.nil_append, exists_eq_left']

theorem names_of_specifies {declared : List (ParamScope × Parameter)}
    (all : List.Forall₂ (Specifies d) declared specs) :
    specs.map (·.name) = declared.map (·.2.name) :=
  (Outcome.map_eq_map all fun _ _ h => h.name.symm).symm

private theorem idents_of_specifies {declared : List (ParamScope × Parameter)}
    (all : List.Forall₂ (Specifies d) declared specs) :
    specs.map (·.ident) = declared.map fun q => Naming.camelCase q.2.name :=
  (Outcome.map_eq_map all fun _ _ h => h.ident.symm).symm

private theorem mem_inScope {q : ParamScope × Parameter} :
    q ∈ inScope paged shared own ↔ q.2 ∈ taking paged shared own ∧ scopeOf q.2 = q.1 := by
  obtain ⟨scope, p⟩ := q
  simp [inScope]

private theorem scopeOf_eq_path {p : Parameter} : scopeOf p = .path ↔ p.location = .path := by
  by_cases path : p.location = .path <;> simp [scopeOf, path]

private theorem scopeOf_eq_query {p : Parameter} (h : p ∈ taking paged shared own) :
    scopeOf p = .query ↔ p.location = .query := by
  have takes := (List.mem_filter.mp h).2
  unfold takesPart at takes
  cases location : p.location <;> simp_all [scopeOf]

/-- What has to hold of the parameters that take part. -/
structure Plannable (d : Document) (path : String) (taking : List Parameter) : Prop where
  names : (taking.map (·.name)).Nodup
  required : ∀ p ∈ taking, p.location = .path → p.required = true
  idents : (taking.map fun p => Naming.camelCase p.name).Nodup
  found : ∀ p ∈ taking, ValueKind.Found d p.schema
  covered : ∀ name ∈ placeholders path, ∃ p ∈ taking, p.location = .path ∧ p.name = name

private theorem exists_plan_of_plannable (h : Plannable d path (taking paged shared own)) :
    ∃ planned, (plan d operation path shared own paged).result = .ok planned := by
  have each : ∀ q ∈ inScope paged shared own, ∃ spec, Specifies d q spec := by
    intro q member
    obtain ⟨inside, scope⟩ := mem_inScope.mp member
    obtain ⟨kind, known⟩ := ValueKind.exists_ofSchema_iff.mpr (h.found q.2 inside)
    refine ⟨⟨q.2.name, Naming.camelCase q.2.name, q.1, kind, q.2.required⟩, ?_⟩
    refine ⟨rfl, rfl, rfl, known, rfl, fun path => h.required q.2 inside ?_⟩
    exact scopeOf_eq_path.mp (scope.trans path)
  obtain ⟨specs, all⟩ := Outcome.exists_forall₂ each
  have names : (specs.map (·.name)).Nodup := by
    rw [names_of_specifies all, inScope, List.map_map]
    exact h.names
  have idents : (specs.map (·.ident)).Nodup := by
    rw [idents_of_specifies all, inScope, List.map_map]
    exact h.idents
  refine ⟨_, plan_eq_ok_iff.mpr ⟨specs, ?_, rfl, ?_⟩⟩
  · exact specs_eq_ok_iff.mpr ⟨kept_eq ▸ all, names, idents⟩
  intro name placeholder
  obtain ⟨p, inside, path, named⟩ := h.covered name placeholder
  have member : (ParamScope.path, p) ∈ inScope paged shared own :=
    mem_inScope.mpr ⟨inside, scopeOf_eq_path.mpr path⟩
  obtain ⟨spec, among, specifies⟩ := Outcome.right_of_mem all member
  refine ⟨spec, List.mem_filter.mpr ⟨among, ?_⟩, specifies.name.trans named⟩
  exact decide_eq_true specifies.scope

private theorem plannable_of_plan {planned : ParameterPlan}
    (h : (plan d operation path shared own paged).result = .ok planned) :
    Plannable d path (taking paged shared own) := by
  obtain ⟨specs, found, rfl, covered⟩ := plan_eq_ok_iff.mp h
  rw [kept_eq] at found
  obtain ⟨all, names, idents⟩ := specs_eq_ok_iff.mp found
  have specified (p) (inside : p ∈ taking paged shared own) :
      ∃ spec ∈ specs, Specifies d (scopeOf p, p) spec :=
    Outcome.right_of_mem all (mem_inScope.mpr ⟨inside, rfl⟩)
  constructor
  · rwa [names_of_specifies all, inScope, List.map_map] at names
  · intro p inside path
    obtain ⟨spec, -, specifies⟩ := specified p inside
    rw [← specifies.required]
    exact specifies.path (specifies.scope.trans (scopeOf_eq_path.mpr path))
  · rwa [idents_of_specifies all, inScope, List.map_map] at idents
  · intro p inside
    obtain ⟨spec, -, specifies⟩ := specified p inside
    exact ValueKind.exists_ofSchema_iff.mp ⟨spec.kind, specifies.kind⟩
  · intro name placeholder
    obtain ⟨spec, member, named⟩ := covered name placeholder
    obtain ⟨member, path⟩ := List.mem_filter.mp member
    obtain ⟨q, inside, specifies⟩ := Outcome.left_of_mem all member
    obtain ⟨inside, scope⟩ := mem_inScope.mp inside
    have scope : scopeOf q.2 = .path :=
      scope.trans (specifies.scope.symm.trans (of_decide_eq_true path))
    exact ⟨q.2, inside, scopeOf_eq_path.mp scope, specifies.name.symm.trans named⟩

/-- The parameters are divided by scope, in their order. -/
structure Divides (d : Document) (taking : List Parameter) (planned : ParameterPlan) : Prop where
  path : List.Forall₂ (Specifies d)
    ((taking.filter (·.location = .path)).map (ParamScope.path, ·)) planned.path
  query : List.Forall₂ (Specifies d)
    ((taking.filter (·.location = .query)).map (ParamScope.query, ·)) planned.query

private theorem forall₂_of_scope {scope : ParamScope} {location : ParameterLocation}
    (same : ∀ p ∈ taking paged shared own, scopeOf p = scope ↔ p.location = location)
    (all : List.Forall₂ (Specifies d) (inScope paged shared own) specs) :
    List.Forall₂ (Specifies d)
      (((taking paged shared own).filter (·.location = location)).map (scope, ·))
      (specs.filter (·.scope = scope)) := by
  have divided := List.rel_filter (p := fun q => decide (q.1 = scope))
    (q := fun spec => decide (spec.scope = scope)) (fun _ _ h => by simp [h.scope]) all
  have filtered : (inScope paged shared own).filter (·.1 = scope) =
      ((taking paged shared own).filter (·.location = location)).map (scope, ·) := by
    rw [inScope, List.filter_map]
    have located : (taking paged shared own).filter ((fun q => decide (q.1 = scope)) ∘
        fun p => (scopeOf p, p)) = (taking paged shared own).filter (·.location = location) :=
      List.filter_congr fun p member => decide_eq_decide.mpr (same p member)
    rw [located]
    refine List.map_congr_left fun p member => ?_
    obtain ⟨member, at'⟩ := List.mem_filter.mp member
    rw [(same p member).mpr (of_decide_eq_true at')]
  rwa [filtered] at divided

/-- A plan is made exactly if the parameters that take part can be planned, and it has all of them,
divided by scope in their order. -/
theorem exists_plan_iff (d : Document) (operation path : String) (shared own : List Parameter)
    (paged : Bool) :
    ((∃ planned, (plan d operation path shared own paged).result = .ok planned) ↔
      Plannable d path (taking paged shared own)) ∧
    ∀ planned, (plan d operation path shared own paged).result = .ok planned →
      Divides d (taking paged shared own) planned := by
  refine ⟨⟨fun ⟨_, h⟩ => plannable_of_plan h, exists_plan_of_plannable⟩, ?_⟩
  intro planned h
  obtain ⟨specs, found, rfl, -⟩ := plan_eq_ok_iff.mp h
  rw [kept_eq] at found
  obtain ⟨all, -, -⟩ := specs_eq_ok_iff.mp found
  exact ⟨forall₂_of_scope (fun _ _ => scopeOf_eq_path) all,
    forall₂_of_scope (fun _ member => scopeOf_eq_query member) all⟩

end ParameterPlan

end ApiScaffold
