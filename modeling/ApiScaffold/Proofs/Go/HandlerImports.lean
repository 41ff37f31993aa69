import ApiScaffold.Description.Reader
import ApiScaffold.Proofs.Go.Rendering
import ApiScaffold.Proofs.Go.Types
/-!
# Imports of handlers in Go

A handler declares a variable for the body that it decodes. The type of that variable decides about
the packages of data types that its source has to import, and what else the handler does about the
handler library.
-/
namespace ApiScaffold.Go

open ApiScaffold.Text

/-! ## Bodies -/

/-- The declaration of the variable for a body, with an empty value or with the zero value. -/
inductive BodyDeclaration where
  | empty (type : TypeExpr)
  | zero (type : TypeExpr)

namespace BodyDeclaration

def text : BodyDeclaration → String
  | empty type => "req := " ++ type.text "dto." ++ "\x7b\x7d"
  | zero type => "var req " ++ type.text "dto."

def package : BodyDeclaration → Package
  | empty type => type.package
  | zero type => type.package

def ofDecode : BodyDecode → BodyDeclaration
  | .record name => empty (.name .data name)
  | .recordList name => empty (.list (.name .data name))
  | .value type => zero (.ofShape type.shape)

end BodyDeclaration

theorem declaration_ofDecode (body : BodyDecode) :
    (BodyView.ofDecode body).declaration = (BodyDeclaration.ofDecode body).text := by
  have record (rest : String) : "req := " ++ ("dto." ++ rest) = "req := dto." ++ rest := by
    rw [← String.append_assoc]
    rfl
  have list (rest : String) :
      "req := " ++ ("[]" ++ ("dto." ++ rest)) = "req := []dto." ++ rest := by
    rw [← String.append_assoc, ← String.append_assoc]
    rfl
  cases body with
  | record name =>
    rw [BodyDeclaration.ofDecode, BodyDeclaration.text, TypeExpr.text, Package.qualifier, record]
    rfl
  | recordList name =>
    rw [BodyDeclaration.ofDecode, BodyDeclaration.text, TypeExpr.text, TypeExpr.text,
      Package.qualifier, list]
    rfl
  | value type => exact congrArg ("var req " ++ ·) (TypeExpr.text_ofShape "dto." type.shape).symm

private theorem validate_ofDecode (body : BodyDecode) : (BodyView.ofDecode body).validate =
    match body with
    | .record _ => .single
    | .recordList _ => .each
    | .value _ => .none := by
  cases body <;> rfl

variable {module path : String} {body : Option BodyDecode}

private theorem mem_bodyStdImports : path ∈ bodyStdImports body ↔
    ∃ decode ∈ body, path = "encoding/json" ∨
      (path = "time" ∧ (BodyDeclaration.ofDecode decode).package = .time) := by
  rcases body with - | - | - | type
  · simp [bodyStdImports]
  · simp [bodyStdImports, BodyDeclaration.ofDecode, BodyDeclaration.package, TypeExpr.package]
  · simp [bodyStdImports, BodyDeclaration.ofDecode, BodyDeclaration.package, TypeExpr.package]
  · simp [bodyStdImports, mem_stdImportsOf, BodyDeclaration.ofDecode, BodyDeclaration.package,
      TypeExpr.package_ofShape_eq_time, ResolvedType.imports]

private theorem mem_bodyModuleImports : path ∈ bodyModuleImports module body ↔
    ∃ decode ∈ body,
      (path = dataImport module ∧ (BodyDeclaration.ofDecode decode).package = .data) ∨
      (path = helperImport module ∧ (BodyView.ofDecode decode).validate ≠ .none) ∨
      ∃ name, path = enumImport module name ∧
        (BodyDeclaration.ofDecode decode).package = .enum (lowerText name) := by
  rcases body with - | - | - | type
  · simp [bodyModuleImports]
  · simp [bodyModuleImports, BodyDeclaration.ofDecode, BodyDeclaration.package, TypeExpr.package,
      validate_ofDecode]
  · simp [bodyModuleImports, BodyDeclaration.ofDecode, BodyDeclaration.package, TypeExpr.package,
      validate_ofDecode]
  · have data : path ∈ (if usesDataPackage type.shape then [dataImport module] else []) ↔
        path = dataImport module ∧ (TypeExpr.ofShape type.shape).package = .data := by
      rw [TypeExpr.package_ofShape_eq_data]
      split <;> simp [*]
    simp [bodyModuleImports, ResolvedType.imports, mem_enumImports_shape, data,
      BodyDeclaration.ofDecode, BodyDeclaration.package, validate_ofDecode, or_comm]

end ApiScaffold.Go

/-! ## Packages of handlers -/

namespace ApiScaffold.HandlerPackage

open ApiScaffold.Go

def bodies (p : HandlerPackage) : List BodyDecode := p.handlers.filterMap (·.body)

def Spells (p : HandlerPackage) (package : Package) : Prop :=
  ∃ decode ∈ p.bodies, (BodyDeclaration.ofDecode decode).package = package

private theorem mem_flatMap_body {p : HandlerPackage} {imports : Option BodyDecode → List String}
    {path : String} {Needs : BodyDecode → Prop}
    (needs : ∀ body, path ∈ imports body ↔ ∃ decode ∈ body, Needs decode) :
    path ∈ (p.handlers.flatMap fun plan => imports plan.body) ↔
      ∃ decode ∈ p.bodies, Needs decode := by
  simp only [List.mem_flatMap, needs, bodies, List.mem_filterMap]
  constructor
  · rintro ⟨plan, member, decode, given, need⟩
    exact ⟨decode, ⟨plan, member, given⟩, need⟩
  · rintro ⟨decode, ⟨plan, member, given⟩, need⟩
    exact ⟨plan, member, decode, given, need⟩

end ApiScaffold.HandlerPackage

namespace ApiScaffold.Go

open ApiScaffold.Text

/-- The handler extracts a parameter, validates a body, or answers with a document or a page. -/
def HandlerView.UsesHelper (h : HandlerView) : Prop :=
  h.extractions ≠ [] ∨ (∃ body ∈ h.body, body.validate ≠ .none) ∨
    h.answer = .json ∨ h.answer = .page

namespace HandlerPackageView

def bodies (view : HandlerPackageView) : List BodyView := view.handlers.filterMap (·.body)

/-- The imports of a source are those that its handlers need. -/
structure ImportsExactly (view : HandlerPackageView) (module : String) (p : HandlerPackage) :
    Prop where
  declarations : view.bodies.map (·.declaration) =
    p.bodies.map fun decode => (BodyDeclaration.ofDecode decode).text
  http : "net/http" ∈ view.stdImports
  json : "encoding/json" ∈ view.stdImports ↔ ∃ h ∈ view.handlers, h.body.isSome
  time : "time" ∈ view.stdImports ↔ p.Spells .time
  std : ∀ path ∈ view.stdImports, path ∈ ["net/http", "encoding/json", "time"]
  service : module ++ "/internal/service/" ++ p.name ∈ view.moduleImports
  data : dataImport module ∈ view.moduleImports ↔ p.Spells .data
  enum : ∀ name, enumImport module name ∈ view.moduleImports ↔ p.Spells (.enum (lowerText name))
  helper : helperImport module ∈ view.moduleImports ↔ ∃ h ∈ view.handlers, h.UsesHelper
  module : ∀ path ∈ view.moduleImports, path = module ++ "/internal/service/" ++ p.name ∨
    path = dataImport module ∨ path = helperImport module ∨ ∃ name, path = enumImport module name

variable {module path : String} {p : HandlerPackage} {view : HandlerPackageView}

private theorem bodies_of_ofPackage (h : ofPackage module p = .ok view) :
    view.bodies = p.bodies.map BodyView.ofDecode := by
  obtain ⟨handlers, spelled, h⟩ := Outcome.bind_eq_ok.mp h
  cases h
  have bodies : p.handlers.map (fun plan => plan.body.map BodyView.ofDecode) =
      handlers.map (·.body) := by
    refine Outcome.map_eq_map (Outcome.mapM_eq_ok.mp spelled) fun plan h viewed => ?_
    obtain ⟨extractions, -, viewed⟩ := Outcome.bind_eq_ok.mp viewed
    cases viewed
    rfl
  have same := congrArg (List.filterMap id) bodies
  simp only [List.filterMap_map] at same
  rw [HandlerPackage.bodies, List.map_filterMap]
  exact same.symm

theorem mem_stdImports (h : ofPackage module p = .ok view) : path ∈ view.stdImports ↔
    path = "net/http" ∨ (path = "encoding/json" ∧ p.bodies ≠ []) ∨
      (path = "time" ∧ p.Spells .time) := by
  obtain ⟨handlers, -, h⟩ := Outcome.bind_eq_ok.mp h
  cases h
  rw [Texts.mem_ofList, List.mem_cons, HandlerPackage.mem_flatMap_body fun _ => mem_bodyStdImports]
  refine or_congr_right ⟨?_, ?_⟩
  · rintro ⟨decode, member, rfl | ⟨rfl, spells⟩⟩
    · exact .inl ⟨rfl, List.ne_nil_of_mem member⟩
    · exact .inr ⟨rfl, decode, member, spells⟩
  · rintro (⟨rfl, some⟩ | ⟨rfl, decode, member, spells⟩)
    · obtain ⟨decode, member⟩ := List.exists_mem_of_ne_nil _ some
      exact ⟨decode, member, .inl rfl⟩
    · exact ⟨decode, member, .inr ⟨rfl, spells⟩⟩

theorem mem_moduleImports (h : ofPackage module p = .ok view) : path ∈ view.moduleImports ↔
    path = module ++ "/internal/service/" ++ p.name ∨
      (path = dataImport module ∧ p.Spells .data) ∨
      (path = helperImport module ∧ ((∃ body ∈ view.bodies, body.validate ≠ .none) ∨
        view.handlers.any callsHelper = true)) ∨
      ∃ name, path = enumImport module name ∧ p.Spells (.enum (lowerText name)) := by
  simp only [bodies_of_ofPackage h, List.mem_map, exists_exists_and_eq_and]
  obtain ⟨handlers, -, h⟩ := Outcome.bind_eq_ok.mp h
  cases h
  rw [Texts.mem_ofList, List.cons_append, List.mem_cons, List.mem_append, List.mem_ite_nil_right,
    List.mem_singleton, HandlerPackage.mem_flatMap_body fun _ => mem_bodyModuleImports]
  refine or_congr_right ⟨?_, ?_⟩
  · rintro (⟨decode, member, ⟨rfl, spells⟩ | ⟨rfl, validated⟩ | ⟨name, rfl, spells⟩⟩ |
      ⟨called, rfl⟩)
    · exact .inl ⟨rfl, decode, member, spells⟩
    · exact .inr (.inl ⟨rfl, .inl ⟨decode, member, validated⟩⟩)
    · exact .inr (.inr ⟨name, rfl, decode, member, spells⟩)
    · exact .inr (.inl ⟨rfl, .inr called⟩)
  · rintro (⟨rfl, decode, member, spells⟩ | ⟨rfl, ⟨decode, member, validated⟩ | called⟩ |
      ⟨name, rfl, decode, member, spells⟩)
    · exact .inl ⟨decode, member, .inl ⟨rfl, spells⟩⟩
    · exact .inl ⟨decode, member, .inr (.inl ⟨rfl, validated⟩)⟩
    · exact .inr ⟨called, rfl⟩
    · exact .inl ⟨decode, member, .inr (.inr ⟨name, rfl, spells⟩)⟩

open ModulePackage in
private theorem path_mem_moduleImports (h : ofPackage module p = .ok view) (q : ModulePackage) :
    q.path module ∈ view.moduleImports ↔
      q = service p.name ∨ (q = data ∧ p.Spells .data) ∨
        (q = helper ∧ ((∃ body ∈ view.bodies, body.validate ≠ .none) ∨
          view.handlers.any callsHelper = true)) ∨
        ∃ name, q = enum (lowerText name) ∧ p.Spells (.enum (lowerText name)) := by
  rw [mem_moduleImports h]
  simp only [dataImport_eq, helperImport_eq, enumImport_eq, serviceImport_eq, path_inj]

private theorem exists_body_iff (view : HandlerPackageView) :
    (∃ h ∈ view.handlers, h.body.isSome) ↔ view.bodies ≠ [] := by
  simp [bodies, List.filterMap_eq_nil_iff, Option.isSome_iff_ne_none]

theorem exists_usesHelper_iff (view : HandlerPackageView) :
    (∃ h ∈ view.handlers, h.UsesHelper) ↔ (∃ body ∈ view.bodies, body.validate ≠ .none) ∨
      view.handlers.any callsHelper = true := by
  have called (h : HandlerView) : callsHelper h = true ↔
      h.extractions ≠ [] ∨ h.answer = .json ∨ h.answer = .page := by
    cases answer : h.answer <;> simp [callsHelper, answer]
  simp only [List.any_eq_true, called, bodies, List.mem_filterMap, HandlerView.UsesHelper]
  constructor
  · rintro ⟨h, member, extracts | ⟨body, given, validated⟩ | answers⟩
    · exact .inr ⟨h, member, .inl extracts⟩
    · exact .inl ⟨body, ⟨h, member, given⟩, validated⟩
    · exact .inr ⟨h, member, .inr answers⟩
  · rintro (⟨body, ⟨h, member, given⟩, validated⟩ | ⟨h, member, extracts | answers⟩)
    · exact ⟨h, member, .inr (.inl ⟨body, given, validated⟩)⟩
    · exact ⟨h, member, .inl extracts⟩
    · exact ⟨h, member, .inr (.inr answers)⟩

private theorem importsExactly_of_ofPackage (h : ofPackage module p = .ok view) :
    view.ImportsExactly module p where
  declarations := by
    rw [bodies_of_ofPackage h, List.map_map]
    exact List.map_congr_left fun decode _ => declaration_ofDecode decode
  http := (mem_stdImports h).mpr (.inl rfl)
  json := by
    rw [exists_body_iff, bodies_of_ofPackage h, Ne, List.map_eq_nil_iff, mem_stdImports h]
    simp
  time := by simp [mem_stdImports h]
  std := by
    intro path imported
    rcases (mem_stdImports h).mp imported with rfl | ⟨rfl, -⟩ | ⟨rfl, -⟩ <;> simp
  service := (mem_moduleImports h).mpr (.inl rfl)
  data := by
    rw [ModulePackage.dataImport_eq, path_mem_moduleImports h]
    simp
  enum := by
    intro name
    rw [ModulePackage.enumImport_eq, path_mem_moduleImports h]
    simp only [reduceCtorEq, false_and, false_or, ModulePackage.enum.injEq]
    constructor
    · rintro ⟨other, same, spells⟩
      rwa [same]
    · exact fun spells => ⟨name, rfl, spells⟩
  helper := by
    rw [ModulePackage.helperImport_eq, exists_usesHelper_iff, path_mem_moduleImports h]
    simp
  module := by
    intro path imported
    rcases (mem_moduleImports h).mp imported with rfl | ⟨rfl, -⟩ | ⟨rfl, -⟩ | ⟨name, rfl, -⟩
    · exact .inl rfl
    · exact .inr (.inl rfl)
    · exact .inr (.inr (.inl rfl))
    · exact .inr (.inr (.inr ⟨name, rfl⟩))

/-- Every package of handlers of a compiled service has a view, with exactly these imports. -/
theorem exists_importsExactly {d : Document} {c : Context} {s : Service}
    (h : (Service.ofDocument d c).result = .ok s) (member : p ∈ s.handlers.packages) :
    ∃ view, ofPackage s.module p = .ok view ∧ view.ImportsExactly s.module p := by
  obtain ⟨view, spelled⟩ := exists_packageView s.module (Service.handlers_supported h p member)
  exact ⟨view, spelled, importsExactly_of_ofPackage spelled⟩

def bodiesDescription (schemas bodies : List (String × Json)) : Json :=
  let operation (name : String) (body : Json) : Json :=
    Description.generatedOperation name "job"
      [("requestBody", .object [("content", .object [("application/json",
        .object [("schema", body)])])])]
  Description.assemble schemas
    (bodies.map fun (name, body) => ("/" ++ name, .object [("post", operation name body)])) []

structure Views (root : Json) (d : Document) (s : Service) (p : HandlerPackage)
    (view : HandlerPackageView) : Prop where
  read : Description.read root = .ok d
  compiled : (Service.ofDocument d ⟨.go, "example.com/queue", [], ⟨"", "", "", ""⟩⟩).result = .ok s
  packages : s.handlers.packages = [p]
  spelled : ofPackage s.module p = .ok view

def jobsDescription : Json :=
  let moment : Json := .object [("format", .string "date-time"), ("type", .string "string")]
  let list (items : Json) : Json := .object [("items", items), ("type", .string "array")]
  bodiesDescription [("Job", .object [("properties", .object []), ("x-group", .string "job")])]
    [("due", list (list moment)), ("jobs", list (Description.referenceTo "Job"))]

theorem exists_importsExactly_jobs :
    ∃ d s p view, Views jobsDescription d s p view ∧ view.ImportsExactly s.module p ∧
      view.bodies.map (·.declaration) =
        ["var req [][]time.Time", "req := []dto.Job\x7b\x7d"] ∧
      view.stdImports = ["encoding/json", "net/http", "time"] ∧
      view.moduleImports = ["example.com/queue/internal/data/dto",
        "example.com/queue/internal/rest/handler", "example.com/queue/internal/service/job"] := by
  have viewed : ∃ d s p view, Views jobsDescription d s p view ∧
      view.bodies.map (·.declaration) =
        ["var req [][]time.Time", "req := []dto.Job\x7b\x7d"] ∧
      view.stdImports = ["encoding/json", "net/http", "time"] ∧
      view.moduleImports = ["example.com/queue/internal/data/dto",
        "example.com/queue/internal/rest/handler", "example.com/queue/internal/service/job"] :=
    ⟨_, _, _, _, ⟨rfl, rfl, rfl, rfl⟩, by decide +kernel⟩
  obtain ⟨d, s, p, view, views, shown⟩ := viewed
  have member : p ∈ s.handlers.packages := by simp [views.packages]
  obtain ⟨_, spelled, exact⟩ := exists_importsExactly views.compiled member
  cases views.spelled.symm.trans spelled
  exact ⟨d, s, p, view, views, exact, shown⟩

/-- Enumerations can be called like packages, and have a package with others of their name. -/
def enumsDescription : Json :=
  let literals : Json := .object [("enum", .array [.string "A"]), ("type", .string "string")]
  bodiesDescription [("DTO", literals), ("Dto", literals), ("Time", literals)]
    [("kind", Description.referenceTo "Dto"), ("slot", Description.referenceTo "Time")]

/-- Two bodies are spelled `dto.Dto` and `time.Time` without the packages of the data types and of
times, and the package of `DTO` is imported although no body is of that type. -/
theorem imports_of_packages_of_enums :
    ∃ d s p view, Views enumsDescription d s p view ∧
      view.bodies.map (·.declaration) = ["var req dto.Dto", "var req time.Time"] ∧
      "time" ∉ view.stdImports ∧ dataImport s.module ∉ view.moduleImports ∧
      (∃ e ∈ s.types.enums, e.name = "DTO") ∧ enumImport s.module "DTO" ∈ view.moduleImports :=
  ⟨_, _, _, _, ⟨rfl, rfl, rfl, rfl⟩, by decide +kernel⟩

end HandlerPackageView

end ApiScaffold.Go
