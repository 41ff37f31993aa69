import ApiScaffold.Proofs.Go.Identifiers
import ApiScaffold.Proofs.Go.Imported
import ApiScaffold.Proofs.Go.Quoting
/-!
# Qualifiers

A function refers to a package by its name and a dot, and what the function calls by that name hides
the package. Receivers of getters and locals of handlers are called what the description has it, and
only some words are kept from locals.
-/
namespace ApiScaffold

open Go Text

/-! ## Qualifiers of functions -/

def Dependency.word : Dependency → String
  | .timestamp => "time"
  | .enum name => lowerText name

/-- The packages that the type of a body depends on. Records are in the package of the data
types. -/
def RequestShape.dependencies : RequestShape → List Dependency
  | .value type => type.imports
  | _ => []

/-- What the function of a handler puts before names of packages. -/
def HandlerPlan.qualifiers (plan : HandlerPlan) : List String :=
  "http." :: ((if plan.usesHelper then ["handler."] else []) ++
    plan.body.toList.flatMap fun body =>
      ["json.", "ngErrors.", (BodyDeclaration.ofDecode body).package.qualifier "dto."])

end ApiScaffold

namespace ApiScaffold.Go

open ApiScaffold.Text

private theorem qualifier_ofDependency (dependency : Dependency) (data : String) :
    (Package.ofDependency dependency).qualifier data = dependency.word ++ "." := by
  cases dependency <;> rfl

private theorem TypeExpr.contains_qualifier (data : String) (type : TypeExpr) :
    Contains (type.text data) (type.package.qualifier data) := by
  induction type with
  | name package ident => exact (Contains.refl _).before ident
  | pointer target ih => exact ih.after "*"
  | list element ih => exact ih.after "[]"
  | map element ih => exact ih.after "map[string]"

private theorem qualifier_ofShape_iff {shape : Shape} {data word : String} :
    (TypeExpr.ofShape shape).package.qualifier data = word ++ "." ↔
      (∃ dependency ∈ shape.imports, dependency.word = word) ∨
        ((TypeExpr.ofShape shape).package = .data ∧ data = word ++ ".") := by
  have dot : word ++ "." ≠ "" := by simp
  constructor
  · intro same
    cases package : (TypeExpr.ofShape shape).package with
    | predeclared =>
      rw [package] at same
      exact absurd same.symm dot
    | data =>
      rw [package] at same
      exact .inr ⟨rfl, same⟩
    | xml => exact absurd package (TypeExpr.package_ofShape_ne_xml shape)
    | time =>
      have spelled : Dependency.timestamp.word ++ "." = word ++ "." := by
        rw [package] at same
        exact same
      exact .inl ⟨_, TypeExpr.package_ofShape_eq_time.mp package,
        (String.append_left_inj _).mp spelled⟩
    | enum name =>
      obtain ⟨component, needed, rfl⟩ := TypeExpr.package_ofShape_eq_enum.mp package
      have spelled : (Dependency.enum component).word ++ "." = word ++ "." := by
        rw [package] at same
        exact same
      exact .inl ⟨_, needed, (String.append_left_inj _).mp spelled⟩
  · rintro (⟨dependency, needed, rfl⟩ | ⟨package, rfl⟩)
    · rw [TypeExpr.package_of_mem_imports needed, qualifier_ofDependency]
    · rw [package]
      rfl

/-! ## Getters -/

/-- The source has the getter of the field. What the getter puts before the name of a type is in its
text, and its receiver is not called like that. -/
structure ResolvesGetter (source : String) (r : Record) (f : Field) : Prop where
  written : Contains source (Declaration.getterOf r f).text
  refers : Contains (Declaration.getterOf r f).text
    ((TypeExpr.ofShape f.type.shape).package.qualifier "")
  apart : (TypeExpr.ofShape f.type.shape).package.qualifier "" ≠
    (RecordView.ofRecord r).receiver ++ "."

private theorem getterOf_mem {r : Record} {f : Field} (member : f ∈ r.writtenFields) :
    Declaration.getterOf r f ∈ Declaration.ofRecord r := by
  rw [Record.writtenFields] at member
  rw [Declaration.ofRecord]
  cases named : r.aliasOf with
  | some type =>
    rw [named] at member
    cases member
  | none =>
    rw [named] at member
    exact List.mem_cons_of_mem _ (List.mem_map_of_mem member)

private theorem contains_getter {root : String} {g : Group} {r : Record} {f : Field}
    (record : r ∈ g.records) (member : f ∈ r.writtenFields) :
    Contains (groupText (.ofGroup root g)) (Declaration.getterOf r f).text := by
  have view : RecordView.ofRecord r ∈ (GroupView.ofGroup root g).records :=
    List.mem_map_of_mem record
  refine (contains_recordText view).trans ?_
  rw [recordText_ofRecord, declaredText]
  exact ((contains_each (getterOf_mem member) Declaration.text).after _).before _

private theorem contains_getterType (r : Record) (f : Field) :
    Contains (Declaration.getterOf r f).text
    ((TypeExpr.ofShape f.type.shape).package.qualifier "") := by
  have type := TypeExpr.contains_qualifier "" (TypeExpr.ofShape f.type.shape)
  unfold Declaration.getterOf Declaration.text
  exact (((type.after _).before _).before _).before _

private theorem resolvesGetter_iff {root : String} {g : Group} {r : Record} {f : Field}
    (record : r ∈ g.records) (member : f ∈ r.writtenFields) :
    ResolvesGetter (groupText (.ofGroup root g)) r f ↔
      ∀ dependency ∈ f.type.imports, dependency.word ≠ (RecordView.ofRecord r).receiver := by
  have qualified : (TypeExpr.ofShape f.type.shape).package.qualifier "" =
        (RecordView.ofRecord r).receiver ++ "." ↔
      ∃ dependency ∈ f.type.imports, dependency.word = (RecordView.ofRecord r).receiver := by
    have dot : "" ≠ (RecordView.ofRecord r).receiver ++ "." := by simp
    rw [qualifier_ofShape_iff]
    exact or_iff_left fun data => dot data.2
  constructor
  · intro resolves dependency needed same
    exact resolves.apart (qualified.mpr ⟨dependency, needed, same⟩)
  · intro apart
    refine ⟨contains_getter record member, contains_getterType r f, fun same => ?_⟩
    obtain ⟨dependency, needed, same⟩ := qualified.mp same
    exact apart dependency needed same

/-! ## Handlers -/

/-- The source has the function of the handler. The function refers to packages with the qualifiers
of the plan, and no local is called like one of them. -/
structure ResolvesHandler (source : String) (plan : HandlerPlan) (view : HandlerView) : Prop where
  written : Contains source (handlerText view)
  refers : ∀ qualifier ∈ plan.qualifiers, Contains (handlerText view) qualifier
  apart : ∀ name ∈ view.locals, name ++ "." ∉ plan.qualifiers

private theorem contains_http (h : HandlerView) : Contains (handlerText h) "http." := by
  unfold handlerText
  iterate 5 refine Contains.before ?_ _
  refine Contains.after (Contains.after ?_ _) _
  exact ⟨"(w ", "ResponseWriter, r *http.Request) \x7b", by decide⟩

private theorem contains_helper {h : HandlerView} (uses : h.UsesHelper) :
    Contains (handlerText h) "handler." := by
  rcases uses with extracts | ⟨body, member, validated⟩ | answer
  · obtain ⟨x, member⟩ := List.exists_mem_of_ne_nil _ extracts
    refine (contains_extractionText member).trans ?_
    rw [extractionText_eq, ExtractionView.opening]
    iterate 4 refine Contains.before ?_ _
    exact Contains.after ⟨" := ", "", by decide⟩ _
  · refine (contains_bodyText member).trans ?_
    unfold bodyText
    refine Contains.after ?_ _
    cases validate : body.validate with
    | none => exact absurd validate validated
    | single =>
      exact Contains.before ⟨"\n\tif err := ", "GetValidator().Struct(req); err != nil \x7b",
        by decide⟩ _
    | each =>
      refine Contains.before (Contains.before (Contains.after ?_ _) _) _
      exact ⟨"\n\t\tif err := ", "GetValidator().Struct(item); err != nil \x7b", by decide⟩
  · refine (contains_answerText h).trans ?_
    unfold answerText
    rcases answer with json | page
    · rw [json]
      refine Contains.after (Contains.before (Contains.before ?_ _) _) _
      exact ⟨"\n\t", "WriteJson(r.Context(), w, ", by decide⟩
    · rw [page]
      refine Contains.after ⟨"", "CreatePage(content, page, size, total, sort))", by decide⟩ _

private theorem contains_failure (tabs failure : String) :
    Contains (handleFailure tabs failure) failure := by
  unfold handleFailure
  exact (((Contains.refl failure).after _).before _).before _

private theorem contains_body {h : HandlerView} {body : BodyDecode}
    (member : BodyView.ofDecode body ∈ h.body) {qualifier : String}
    (among : qualifier ∈
      ["json.", "ngErrors.", (BodyDeclaration.ofDecode body).package.qualifier "dto."]) :
    Contains (handlerText h) qualifier := by
  refine (contains_bodyText member).trans ?_
  unfold bodyText
  simp only [List.mem_cons, List.not_mem_nil, or_false] at among
  rcases among with rfl | rfl | rfl
  · refine Contains.before (Contains.before (Contains.after ?_ _) _) _
    exact ⟨"\n\tif err := ", "NewDecoder(r.Body).Decode(&req); err != nil \x7b", by decide⟩
  · refine Contains.before (Contains.after ((contains_failure _ _).trans ?_) _) _
    exact Contains.before ⟨"", "New(ngErrors.BusinessErrorCode, ", by decide⟩ _
  · iterate 3 refine Contains.before ?_ _
    refine Contains.after ?_ _
    rw [declaration_ofDecode]
    cases BodyDeclaration.ofDecode body with
    | empty type => exact ((type.contains_qualifier "dto.").after _).before _
    | zero type => exact (type.contains_qualifier "dto.").after _

private theorem contains_of_mem_qualifiers {plan : HandlerPlan} {view : HandlerView}
    (h : HandlerView.ofPlan plan = .ok view) :
    ∀ qualifier ∈ plan.qualifiers, Contains (handlerText view) qualifier := by
  have decoded : view.body = plan.body.map BodyView.ofDecode := by
    obtain ⟨_, -, h⟩ := Outcome.bind_eq_ok.mp h
    cases h
    rfl
  intro qualifier member
  rw [HandlerPlan.qualifiers, List.mem_cons, List.mem_append, List.mem_ite_nil_right,
    List.mem_singleton] at member
  rcases member with rfl | ⟨uses, rfl⟩ | member
  · exact contains_http view
  · exact contains_helper ((usesHelper_iff h).mp uses)
  · obtain ⟨body, given, among⟩ := List.mem_flatMap.mp member
    refine contains_body ?_ among
    rw [decoded, Option.mem_toList.mp given]
    rfl

/-- All words but those of the type of the body are kept from locals. -/
theorem mem_qualifiers_iff {plan : HandlerPlan} {word : String}
    (free : word ∉ Naming.reservedLocals) : word ++ "." ∈ plan.qualifiers ↔
      ∃ body ∈ plan.body,
        (BodyDeclaration.ofDecode body).package.qualifier "dto." = word ++ "." := by
  have reserved : ∀ own ∈ ["http", "handler", "json", "ngErrors"], word ++ "." ≠ own ++ "." := by
    have kept : ∀ own ∈ ["http", "handler", "json", "ngErrors"], own ∈ Naming.reservedLocals := by
      decide +kernel
    intro own among same
    exact free ((String.append_left_inj _).mp same ▸ kept own among)
  simp only [List.forall_mem_cons] at reserved
  obtain ⟨http, handler, json, errors, -⟩ := reserved
  rw [HandlerPlan.qualifiers, List.mem_cons, List.mem_append, List.mem_ite_nil_right,
    List.mem_singleton, List.mem_flatMap]
  constructor
  · rintro (same | ⟨-, same⟩ | ⟨body, given, among⟩)
    · exact absurd same http
    · exact absurd same handler
    · refine ⟨body, Option.mem_toList.mp given, ?_⟩
      simp only [List.mem_cons, List.not_mem_nil, or_false] at among
      rcases among with same | same | same
      · exact absurd same json
      · exact absurd same errors
      · exact same.symm
  · rintro ⟨body, given, same⟩
    refine .inr (.inr ⟨body, Option.mem_toList.mpr given, ?_⟩)
    simp [same]

private theorem exists_bodyOf_iff {request : RequestShape} {word : String}
    (free : word ∉ Naming.reservedLocals) :
    (∃ body ∈ HandlerPlan.bodyOf request,
        (BodyDeclaration.ofDecode body).package.qualifier "dto." = word ++ ".") ↔
      ∃ dependency ∈ request.dependencies, dependency.word = word := by
  have data : "dto." ≠ word ++ "." := by
    have kept : "dto" ∈ Naming.reservedLocals := by decide +kernel
    have split : "dto." = "dto" ++ "." := by decide
    rw [split]
    exact fun same => free ((String.append_left_inj _).mp same ▸ kept)
  cases request with
  | empty => simp [HandlerPlan.bodyOf, RequestShape.dependencies]
  | record name =>
    refine iff_of_false ?_ (by simp [RequestShape.dependencies])
    rintro ⟨_, given, same⟩
    cases given
    exact data same
  | recordList name =>
    refine iff_of_false ?_ (by simp [RequestShape.dependencies])
    rintro ⟨_, given, same⟩
    cases given
    exact data same
  | value type =>
    have qualified : (TypeExpr.ofShape type.shape).package.qualifier "dto." = word ++ "." ↔
        ∃ dependency ∈ type.imports, dependency.word = word :=
      qualifier_ofShape_iff.trans (or_iff_left fun own => data own.2)
    rw [RequestShape.dependencies, ← qualified]
    constructor
    · rintro ⟨_, given, same⟩
      cases given
      exact same
    · exact fun same => ⟨_, rfl, same⟩

private theorem resolvesHandlers_iff {root : String} {p : HandlerPackage}
    {view : HandlerPackageView} (h : HandlerPackageView.ofPackage root p = .ok view) :
    List.Forall₂ (ResolvesHandler (handlerPackageText root view)) p.handlers view.handlers ↔
      ∀ plan ∈ p.handlers, ∀ x ∈ plan.extractions,
        Naming.localName x.param.ident ++ "." ∉ plan.qualifiers := by
  refine forall₂_iff_left (handlers_of_ofPackage h) fun plan _ handler among spelled => ?_
  have locals : (∀ name ∈ handler.locals, name ++ "." ∉ plan.qualifiers) ↔
      ∀ x ∈ plan.extractions, Naming.localName x.param.ident ++ "." ∉ plan.qualifiers := by
    rw [locals_of_ofPlan spelled, List.forall_mem_map, List.forall_mem_map]
  rw [← locals]
  exact ⟨fun resolves => resolves.apart, fun apart =>
    ⟨contains_handlerText among root, contains_of_mem_qualifiers spelled, apart⟩⟩

end ApiScaffold.Go

/-! ## Services -/

namespace ApiScaffold

open Go Generation

/-- The packages that a source imports have different names, and nothing in a function is called
like a package that the function refers to. -/
structure Service.Resolves (s : Service) (files : List Artifact) : Prop where
  groups : ∀ g ∈ s.types.groups,
    file (groupPath g.name) (groupText (.ofGroup s.module g)) ∈ files ∧
      (GroupView.ofGroup s.module g).importNames.Nodup ∧
      ∀ r ∈ g.records, ∀ f ∈ r.writtenFields,
        ResolvesGetter (groupText (.ofGroup s.module g)) r f
  handlers : ∀ p ∈ s.handlers.packages, ∃ view, HandlerPackageView.ofPackage s.module p = .ok view ∧
    file (handlerPath p.name) (handlerPackageText s.module view) ∈ files ∧
    view.importNames.Nodup ∧
    List.Forall₂ (ResolvesHandler (handlerPackageText s.module view)) p.handlers view.handlers

/-- The names that a description chooses stay apart from one another and from those of packages that
are needed beside them. -/
structure Service.KeepsApart (s : Service) : Prop where
  groups : ∀ g ∈ s.types.groups, Import.Apart g.imported
  getters : ∀ g ∈ s.types.groups, ∀ r ∈ g.records, ∀ f ∈ r.writtenFields,
    ∀ dependency ∈ f.type.imports, dependency.word ≠ (RecordView.ofRecord r).receiver
  handlers : ∀ p ∈ s.handlers.packages, Import.Apart (.errors :: p.imported)
  locals : ∀ e ∈ s.endpoints, e.customHandler = false → ∀ p ∈ e.params.params,
    ∀ dependency ∈ e.request.dependencies, dependency.word ≠ Naming.localName p.ident

namespace Service

variable {d : Document} {c : Context} {s : Service}

private theorem locals_iff (h : s.Compiled d c) :
    (∀ p ∈ s.handlers.packages, ∀ plan ∈ p.handlers, ∀ x ∈ plan.extractions,
        Naming.localName x.param.ident ++ "." ∉ plan.qualifiers) ↔
      ∀ e ∈ s.endpoints, e.customHandler = false → ∀ p ∈ e.params.params,
        ∀ dependency ∈ e.request.dependencies, dependency.word ≠ Naming.localName p.ident := by
  rw [Handlers.forall_plans_iff h.handlers]
  refine forall₃_congr fun e _ _ => ?_
  obtain ⟨plan, made, -, params, -, body, -⟩ := HandlerPlan.exists_ofEndpoint e
  have apart (p : ParamSpec) : Naming.localName p.ident ++ "." ∉ plan.qualifiers ↔
      ∀ dependency ∈ e.request.dependencies, dependency.word ≠ Naming.localName p.ident := by
    have free := Naming.localName_notMem p.ident
    rw [mem_qualifiers_iff free, body, exists_bodyOf_iff free]
    simp only [not_exists, not_and, ne_eq]
  have taken : (∀ x ∈ plan.extractions,
        Naming.localName x.param.ident ++ "." ∉ plan.qualifiers) ↔
      ∀ p ∈ e.params.params, ∀ dependency ∈ e.request.dependencies,
        dependency.word ≠ Naming.localName p.ident := by
    rw [ParameterPlan.params, ← params, List.forall_mem_map]
    exact forall₂_congr fun x _ => apart x.param
  rw [← taken]
  constructor
  · exact fun all => all plan made
  · intro clean _ other
    cases made.symm.trans other
    exact clean

private theorem resolves_iff (h : s.Compiled d c) {files : List Artifact}
    (written : render s = .ok files) :
    s.Resolves files ↔ s.KeepsApart := by
  constructor
  · intro resolves
    refine ⟨?_, ?_, ?_, (locals_iff h).mp ?_⟩
    · exact fun g member =>
        (GroupView.nodup_importNames_iff s.module g).mp (resolves.groups g member).2.1
    · intro g member r record f field
      exact (resolvesGetter_iff record field).mp ((resolves.groups g member).2.2 r record f field)
    · intro p member
      obtain ⟨view, spelled, -, names, -⟩ := resolves.handlers p member
      exact (HandlerPackageView.nodup_importNames_iff spelled).mp names
    · intro p member
      obtain ⟨view, spelled, -, -, functions⟩ := resolves.handlers p member
      exact (resolvesHandlers_iff spelled).mp functions
  · intro apart
    constructor
    · intro g member
      refine ⟨groups_of_render written g member,
        (GroupView.nodup_importNames_iff s.module g).mpr (apart.groups g member), ?_⟩
      intro r record f field
      exact (resolvesGetter_iff record field).mpr (apart.getters g member r record f field)
    · intro p member
      obtain ⟨view, spelled, rendered⟩ := exists_view_of_render written member
      exact ⟨view, spelled, rendered,
        (HandlerPackageView.nodup_importNames_iff spelled).mpr (apart.handlers p member),
        (resolvesHandlers_iff spelled).mpr ((locals_iff h).mpr apart.locals p member)⟩

/-- A compiled service has files, in which nothing takes the name of a package from it exactly if
the names that the description chooses keep apart. The words that are kept from locals are no
danger, but `time` and the packages of enumerations are not among them. -/
theorem resolves_iff_keepsApart (h : (Service.ofDocument d c).result = .ok s) :
    ∃ files, Generation.render s = .ok files ∧ (s.Resolves files ↔ s.KeepsApart) := by
  obtain ⟨files, written⟩ := Generation.exists_render (handlers_supported h)
  exact ⟨files, written, resolves_iff (compiled_of_ofDocument h) written⟩

def momentsDescription (record enumeration package parameter : String) : Json :=
  let moment : Json := .object [("format", .string "date-time"), ("type", .string "string")]
  Description.assemble
    [(enumeration, .object [("enum", .array [.string "OPEN"]), ("type", .string "string")]),
    (record, .object [
      ("properties", .object [("at", moment), ("state", Description.referenceTo enumeration)]),
      ("x-group", .string "slot")])]
    [("/slots", .object [("post", Description.generatedOperation "storeSlots" package
      [("parameters", .array [.object [
        ("in", .string "query"), ("name", .string parameter),
        ("schema", .object [("type", .string "string")])]]),
      ("requestBody", .object [("content", .object [("application/json",
        .object [("schema", .object [("items", moment), ("type", .string "array")])])])])])])] []

structure Names (root : Json) (d : Document) (c : Context) (s : Service)
    (groups handlers : List (List String)) : Prop where
  read : Description.read root = .ok d
  context : Context.ofDocument d .go (some "example.com/queue") = .ok c
  compiled : (Service.ofDocument d c).result = .ok s
  groups : s.types.groups.map (fun g => (GroupView.ofGroup s.module g).importNames) = groups
  handlers : s.handlers.packages.mapM (fun p => do
    let view ← HandlerPackageView.ofPackage s.module p
    return view.importNames) = .ok handlers

/-- A parameter can be called like a package that its handler does not refer to. -/
theorem resolves_iff_keepsApart_slot :
    ∃ d c s files, Names (momentsDescription "Slot" "State" "slot" "state") d c s
        [["time", "state"]] [["ngErrors", "json", "http", "time", "handler", "slot"]] ∧
      Generation.render s = .ok files ∧ (s.Resolves files ↔ s.KeepsApart) ∧ s.Resolves files := by
  have compiles : ∃ d c s, Names (momentsDescription "Slot" "State" "slot" "state") d c s
        [["time", "state"]] [["ngErrors", "json", "http", "time", "handler", "slot"]] ∧
      (∀ g ∈ s.types.groups, Import.Apart g.imported) ∧
      (∀ g ∈ s.types.groups, ∀ r ∈ g.records, ∀ f ∈ r.writtenFields,
        ∀ dependency ∈ f.type.imports, dependency.word ≠ (RecordView.ofRecord r).receiver) ∧
      (∀ p ∈ s.handlers.packages, Import.Apart (.errors :: p.imported)) ∧
      ∀ e ∈ s.endpoints, e.customHandler = false → ∀ p ∈ e.params.params,
        ∀ dependency ∈ e.request.dependencies, dependency.word ≠ Naming.localName p.ident :=
    ⟨_, _, _, ⟨rfl, rfl, rfl, by decide +kernel, by rfl⟩, by decide +kernel⟩
  obtain ⟨d, c, s, names, groups, getters, handlers, locals⟩ := compiles
  obtain ⟨files, written, same⟩ := resolves_iff_keepsApart names.compiled
  exact ⟨d, c, s, files, names, written, same, same.mpr ⟨groups, getters, handlers, locals⟩⟩

/-- Everything that a description chooses can be called like a package: an enumeration and a package
of handlers, so that two imports have one name, and a record and a parameter, so that a receiver and
a local stand for a package that their functions refer to. -/
theorem not_resolves_time :
    ∃ d c s files, Names (momentsDescription "Time" "TIME" "http" "time") d c s
        [["time", "time"]] [["ngErrors", "json", "http", "time", "handler", "http"]] ∧
      Generation.render s = .ok files ∧ ¬ s.Resolves files ∧
      (∀ g ∈ s.types.groups, ∀ r ∈ g.records, ∀ f ∈ r.writtenFields,
        ¬ ResolvesGetter (groupText (.ofGroup s.module g)) r f) ∧
      ∀ p ∈ s.handlers.packages, ∀ view, HandlerPackageView.ofPackage s.module p = .ok view →
        ¬ List.Forall₂ (ResolvesHandler (handlerPackageText s.module view)) p.handlers
          view.handlers := by
  have compiles : ∃ d c s, Names (momentsDescription "Time" "TIME" "http" "time") d c s
        [["time", "time"]] [["ngErrors", "json", "http", "time", "handler", "http"]] ∧
      (∃ g ∈ s.types.groups, ¬ Import.Apart g.imported) ∧
      (∀ g ∈ s.types.groups, ∀ r ∈ g.records, ∀ f ∈ r.writtenFields,
        ¬ ∀ dependency ∈ f.type.imports, dependency.word ≠ (RecordView.ofRecord r).receiver) ∧
      ∀ p ∈ s.handlers.packages, ¬ ∀ plan ∈ p.handlers, ∀ x ∈ plan.extractions,
        Naming.localName x.param.ident ++ "." ∉ plan.qualifiers :=
    ⟨_, _, _, ⟨rfl, rfl, rfl, by decide +kernel, by rfl⟩, by decide +kernel⟩
  obtain ⟨d, c, s, names, ⟨g, member, clash⟩, getters, locals⟩ := compiles
  obtain ⟨files, written⟩ := Generation.exists_render (handlers_supported names.compiled)
  refine ⟨d, c, s, files, names, written, ?_, ?_, ?_⟩
  · intro resolves
    have apart := (resolves_iff (compiled_of_ofDocument names.compiled) written).mp resolves
    exact clash (apart.groups g member)
  · intro g member r record f field resolves
    exact getters g member r record f field ((resolvesGetter_iff record field).mp resolves)
  · intro p member view spelled functions
    exact locals p member ((resolvesHandlers_iff spelled).mp functions)

end Service

end ApiScaffold
