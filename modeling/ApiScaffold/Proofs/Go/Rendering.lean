import ApiScaffold.Proofs.Description.Assembly
import ApiScaffold.Proofs.Go.Sources
import ApiScaffold.Proofs.Handlers
import ApiScaffold.Proofs.Service.Compilation
/-!
# Rendering a compiled service

The handler library takes texts, numbers, truth values and points in time from a path, and dates
and lists from the query too. Extractions fall back to text wherever it has no helper, so every
handler of a compiled service has a view, and the service has sources.
-/
namespace ApiScaffold

/-! ## Helpers -/

namespace Go

def scalarWords : List String := ["String", "Int32", "Int64", "Bool", "DateTime"]

def dateWord : String := "LocalDate"

def listWords : List String := ["ArrayString", "ArrayInt32", "ArrayInt64"]

/-- The helpers of the handler library for parameters of a scope that are required or not. A list
is taken alike in both cases. -/
def helpers : ParamScope → Bool → List String
  | .path, _ => scalarWords.map ("PathParamTo" ++ ·)
  | .query, true => (scalarWords ++ [dateWord] ++ listWords).map ("QueryParamTo" ++ ·)
  | .query, false =>
    (scalarWords ++ [dateWord]).map ("QueryOptionalParamTo" ++ ·) ++
      listWords.map ("QueryParamTo" ++ ·)

private theorem scalarWord_of_path {kind : ValueKind}
    (h : Extraction.isSupported .path kind = true) :
    kind.isArray = false ∧ ∃ word ∈ scalarWords, kindWord? kind = .ok word := by
  cases kind with
  | unsupported | date | stringArray | int32Array | int64Array => cases h
  | _ => exact ⟨rfl, _, by decide, rfl⟩

private theorem scalarWord_of_query {kind : ValueKind}
    (h : Extraction.isSupported .query kind = true) (scalar : kind.isArray = false) :
    ∃ word ∈ scalarWords ++ [dateWord], kindWord? kind = .ok word := by
  cases kind with
  | unsupported => cases h
  | stringArray | int32Array | int64Array => cases scalar
  | _ => exact ⟨_, by decide, rfl⟩

private theorem listWord_of_isArray {kind : ValueKind} (h : kind.isArray = true) :
    ∃ word ∈ listWords, kindWord? kind = .ok word := by
  cases kind with
  | stringArray | int32Array | int64Array => exact ⟨_, by decide, rfl⟩
  | _ => cases h

private theorem helperName_eq {x : Extraction} {word : String} (h : kindWord? x.kind = .ok word) :
    helperName x = .ok (scopeWord x.param.scope ++
      (if x.param.scope = .query && !x.param.required && !x.kind.isArray then "Optional" else "") ++
      "ParamTo" ++ word) := by
  rw [helperName, h]

private theorem helperName_of_supported {x : Extraction} (h : x.Supported) :
    ∃ helper ∈ helpers x.param.scope x.param.required, helperName x = .ok helper := by
  obtain ⟨⟨name, ident, scope, declared, required⟩, kind, fallible⟩ := x
  simp only [Extraction.Supported] at h
  cases scope with
  | path =>
    obtain ⟨scalar, word, known, spelled⟩ := scalarWord_of_path h
    exact ⟨_, List.mem_map_of_mem known, helperName_eq spelled⟩
  | query =>
    cases list : kind.isArray with
    | true =>
      obtain ⟨word, known, spelled⟩ := listWord_of_isArray list
      have named := helperName_eq (x := ⟨⟨name, ident, .query, declared, required⟩, kind, fallible⟩)
        spelled
      simp only [list, Bool.not_true, Bool.and_false, Bool.false_eq_true, if_false] at named
      refine ⟨_, ?_, named⟩
      cases required with
      | true => exact List.mem_map_of_mem (List.mem_append_right _ known)
      | false => exact List.mem_append_right _ (List.mem_map_of_mem known)
    | false =>
      obtain ⟨word, known, spelled⟩ := scalarWord_of_query h list
      have named := helperName_eq (x := ⟨⟨name, ident, .query, declared, required⟩, kind, fallible⟩)
        spelled
      refine ⟨_, ?_, named⟩
      cases required with
      | true => exact List.mem_map_of_mem (List.mem_append_left _ known)
      | false =>
        simp only [list]
        exact List.mem_append_left _ (List.mem_map_of_mem known)

def Helps (x : Extraction) (view : ExtractionView) : Prop :=
  view.name = x.param.name ∧ view.helper ∈ helpers x.param.scope x.param.required

theorem exists_extractionView {x : Extraction} (h : x.Supported) :
    ∃ view, ExtractionView.ofExtraction x = .ok view ∧ Helps x view := by
  obtain ⟨helper, known, named⟩ := helperName_of_supported h
  exact ⟨_, Outcome.bind_eq_ok.mpr ⟨helper, named, rfl⟩, rfl, known⟩

theorem exists_handlerView {plan : HandlerPlan} (h : plan.Supported) :
    ∃ view, HandlerView.ofPlan plan = .ok view ∧
      List.Forall₂ Helps plan.extractions view.extractions := by
  obtain ⟨views, spelled, helps⟩ := Outcome.exists_mapM fun x member =>
    exists_extractionView (h x member)
  exact ⟨_, Outcome.bind_eq_ok.mpr ⟨views, spelled, rfl⟩, helps⟩

theorem exists_packageView {p : HandlerPackage} (module : String)
    (h : ∀ plan ∈ p.handlers, plan.Supported) :
    ∃ view, HandlerPackageView.ofPackage module p = .ok view := by
  obtain ⟨views, spelled, -⟩ := Outcome.exists_mapM fun plan member =>
    exists_handlerView (h plan member)
  exact ⟨_, Outcome.bind_eq_ok.mpr ⟨views, spelled, rfl⟩⟩

end Go

/-! ## Services -/

theorem Service.handlers_supported {d : Document} {c : Context} {s : Service}
    (h : (ofDocument d c).result = .ok s) : s.handlers.Supported :=
  Handlers.supported_ofEndpoints (Service.compiled_of_ofDocument h).handlers

theorem Generation.exists_render {s : Service} (h : s.handlers.Supported) :
    ∃ artifacts, render s = .ok artifacts := by
  have files : ∀ p ∈ s.handlers.packages, ∃ artifact,
      (do
        let view ← Go.HandlerPackageView.ofPackage s.module p
        return file (handlerPath p.name) (Go.handlerPackageText s.module view)) =
          Except.ok (ε := Failure) artifact ∧ True := by
    intro p member
    obtain ⟨view, spelled⟩ := Go.exists_packageView s.module (h p member)
    exact ⟨_, Outcome.bind_eq_ok.mpr ⟨view, spelled, rfl⟩, trivial⟩
  obtain ⟨handlers, rendered, -⟩ := Outcome.exists_mapM files
  exact ⟨_, Outcome.bind_eq_ok.mpr ⟨handlers, rendered, rfl⟩⟩

/-- A handler as a source shows it takes each parameter of its plan with a helper that the library
has for it. -/
def Go.Handles (plan : HandlerPlan) (view : HandlerView) : Prop :=
  HandlerView.ofPlan plan = .ok view ∧ List.Forall₂ Helps plan.extractions view.extractions

private theorem Go.handles_of_ofPackage {module : String} {p : HandlerPackage}
    {view : HandlerPackageView} (supported : ∀ plan ∈ p.handlers, plan.Supported)
    (h : HandlerPackageView.ofPackage module p = .ok view) :
    List.Forall₂ Handles p.handlers view.handlers := by
  refine ((List.forall₂_and_left _ _).mpr ⟨supported, handlers_of_ofPackage h⟩).imp ?_
  rintro plan handler ⟨supports, spelled⟩
  obtain ⟨own, built, helps⟩ := exists_handlerView supports
  cases spelled.symm.trans built
  exact ⟨spelled, helps⟩

/-- A compiled service has sources. The handlers of each package are those of a file, and take each
of their parameters with a helper that the library has for it. -/
theorem Service.renders_with_helpers {d : Document} {c : Context} {s : Service}
    (h : (Service.ofDocument d c).result = .ok s) :
    ∃ files, Generation.render s = .ok files ∧
      ∀ p ∈ s.handlers.packages, ∃ view,
        Go.HandlerPackageView.ofPackage s.module p = .ok view ∧
        (∃ a ∈ files, a.path = Generation.handlerPath p.name ∧
          a.content = Go.handlerPackageText s.module view) ∧
        List.Forall₂ Go.Handles p.handlers view.handlers := by
  have supported := Service.handlers_supported h
  obtain ⟨files, rendered⟩ := Generation.exists_render supported
  refine ⟨files, rendered, fun p member => ?_⟩
  obtain ⟨view, spelled, written⟩ := Generation.exists_view_of_render rendered member
  exact ⟨view, spelled, ⟨_, written, rfl, rfl⟩,
    Go.handles_of_ofPackage (supported p member) spelled⟩

/-- A date in the path, for which there is no helper, and an optional date and list in the
query. -/
def ticketDescription : Json :=
  let parameter (name location : String) (required : Bool) (schema : Json) : Json :=
    .object [("in", .string location), ("name", .string name), ("required", .bool required),
      ("schema", schema)]
  let date : Json := .object [("format", .string "date"), ("type", .string "string")]
  let texts : Json :=
    .object [("items", .object [("type", .string "string")]), ("type", .string "array")]
  Description.assemble []
    [("/tickets/\x7bday\x7d", .object [("get",
      Description.generatedOperation "listTickets" "ticket" [("parameters", .array [
        parameter "day" "path" true date, parameter "since" "query" false date,
        parameter "states" "query" false texts])])])] []

theorem Service.renders_with_helpers_ticket :
    ∃ d s files p view, Description.read ticketDescription = .ok d ∧
      (Service.ofDocument d ⟨.go, "example.com/queue", [], ⟨"", "", "", ""⟩⟩).result = .ok s ∧
      Generation.render s = .ok files ∧ s.handlers.packages = [p] ∧
      (∃ a ∈ files, a.path = "internal/rest/handler/ticket/generated.go" ∧
        a.content = Go.handlerPackageText "example.com/queue" view) ∧
      List.Forall₂ Go.Handles p.handlers view.handlers ∧
      view.handlers.flatMap (·.extractions.map (·.helper)) =
        ["PathParamToString", "QueryOptionalParamToLocalDate", "QueryParamToArrayString"] := by
  have compiled : ∃ d s p view, Description.read ticketDescription = .ok d ∧
      (Service.ofDocument d ⟨.go, "example.com/queue", [], ⟨"", "", "", ""⟩⟩).result = .ok s ∧
      s.module = "example.com/queue" ∧ s.handlers.packages = [p] ∧ p.name = "ticket" ∧
      Go.HandlerPackageView.ofPackage s.module p = .ok view ∧
      view.handlers.flatMap (·.extractions.map (·.helper)) =
        ["PathParamToString", "QueryOptionalParamToLocalDate", "QueryParamToArrayString"] :=
    ⟨_, _, _, _, rfl, rfl, rfl, rfl, rfl, rfl, rfl⟩
  obtain ⟨d, s, p, view, read, compiled, module, packages, name, spelled, helpers⟩ := compiled
  obtain ⟨files, rendered, shown⟩ := renders_with_helpers compiled
  obtain ⟨own, spelled', ⟨a, member, path, content⟩, handles⟩ :=
    shown p (packages ▸ List.mem_singleton_self p)
  cases spelled.symm.trans spelled'
  rw [name] at path
  rw [module] at content
  exact ⟨d, s, files, p, view, read, compiled, rendered, packages, ⟨a, member, path, content⟩,
    handles, helpers⟩

end ApiScaffold
