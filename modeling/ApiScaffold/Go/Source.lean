import ApiScaffold.Go.TimeTypes
import ApiScaffold.Go.View
/-!
# Sources in Go

The text of each kind of file, as lines. A piece that the view repeats or leaves out takes its
lines with it.
-/
namespace ApiScaffold.Go

def header : String := "// Code generated by servicegen; DO NOT EDIT.\n"

/-- The text for every element, one after the other. -/
def each {α : Type} (items : List α) (text : α → String) : String := String.join (items.map text)

def onlyIf (condition : Bool) (text : String) : String := if condition then text else ""

def importLine (path : String) : String := s!"\n\t\"{path}\""

def commentLine (line : String) : String := s!"\n// {line}"

def fieldLine (f : FieldView) : String :=
  if f.embedded then s!"\n\t{f.type}" else s!"\n\t{f.ident} {f.type} `{f.tag}`"

/-- A getter returns the zero value for a pointer that is nil. -/
def getter (r : RecordView) (f : FieldView) : String :=
  let member := s!"{r.receiver}.{f.ident}"
  s!"\n\nfunc ({r.receiver} {r.name}) Get{f.ident}() {f.valueType} \x7b" ++
    (if f.pointer then
      s!"\n\tif {member} == nil \x7b\n\t\tvar zero {f.valueType}\n\t\treturn zero\n\t\x7d" ++
        s!"\n\treturn *{member}"
    else s!"\n\treturn {member}") ++
    "\n\x7d"

def structText (r : RecordView) : String :=
  s!"\ntype {r.name} struct \x7b" ++
    (match r.xmlName with
      | some name => onlyIf (name ≠ "") s!"\n\tXMLName xml.Name `xml:\"{name}\"`"
      | none => "") ++
    each r.fields fieldLine ++ "\n\x7d" ++
    each (r.fields.filter (!·.embedded)) (getter r)

def recordText (r : RecordView) : String :=
  "\n" ++ each r.comment commentLine ++
    (match r.aliasOf with
      | some type => s!"\ntype {r.name} {type}"
      | none => structText r) ++
    "\n"

def groupImports (g : GroupView) : String :=
  let both := !g.stdImports.isEmpty && !g.moduleImports.isEmpty
  onlyIf (!g.stdImports.isEmpty || !g.moduleImports.isEmpty) <|
    "\nimport (" ++ each g.stdImports importLine ++ onlyIf both "\n" ++
      each g.moduleImports importLine ++ "\n)\n"

def groupText (g : GroupView) : String :=
  header ++ "package dto\n" ++ groupImports g ++ each g.records recordText ++ "\n"

def constantLine (e : EnumView) (v : EnumValueView) : String :=
  s!"\n\t{v.ident} {e.name} = {v.value}"

def textCase (v : EnumValueView) : String :=
  s!"\n\tcase {v.ident}:\n\t\treturn {v.text}"

def valueCase (v : EnumValueView) : String :=
  s!"\n\tcase {v.text}:\n\t\treturn {v.ident}, nil"

def enumText (module : String) (e : EnumView) : String :=
  header ++ s!"package {e.package}\n" ++
    s!"\nimport (\n\t\"fmt\"\n\n\t\"{module}/internal/errors\"\n)\n" ++
    each e.comment commentLine ++
    s!"\ntype {e.name} {e.baseType}\n" ++
    s!"\nconst (\n\tUNKNOWN_VALUE {e.name} = {e.unknownValue}" ++
    each e.values (constantLine e) ++ "\n)\n" ++
    s!"\nfunc (c {e.name}) String() string \x7b" ++
    (if e.stringBacked then "\n\treturn string(c)"
    else
      "\n\tswitch c \x7b" ++ each e.values textCase ++
        "\n\tdefault:\n\t\treturn \"UNKNOWN_VALUE\"\n\t\x7d") ++
    "\n\x7d\n" ++
    s!"\nfunc StringTo{e.name}(source string) ({e.name}, error) \x7b\n\tswitch source \x7b" ++
    each e.values valueCase ++
    "\n\tdefault:\n\t\treturn UNKNOWN_VALUE, errors.Validation(fmt.Errorf(" ++
    s!"\"invalid value ('%s') passed to {e.name}\", source), nil)\n\t\x7d\n\x7d\n"

/-- Hands a failure to the error handler of the service, at the given depth of tabs. -/
def handleFailure (tabs failure : String) : String :=
  s!"\n{tabs}\th.responseErrorHandler.HandleAndWriteError(w, r, {failure})" ++
    s!"\n{tabs}\treturn\n{tabs}\x7d"

def extractionText (x : ExtractionView) : String :=
  let call := s!"handler.{x.helper}(r, \"{x.name}\")"
  if x.fallible then
    s!"\n\t{x.var}, applicationErr := {call}\n\tif applicationErr != nil \x7b" ++
      handleFailure "\t" "applicationErr"
  else s!"\n\t{x.var} := {call}"

def validateText : Validation → String
  | .none => ""
  | .single =>
    "\n\tif err := handler.GetValidator().Struct(req); err != nil \x7b" ++
      handleFailure "\t" "ngErrors.RequestValidation(err)"
  | .each =>
    "\n\tfor _, item := range req \x7b" ++
      "\n\t\tif err := handler.GetValidator().Struct(item); err != nil \x7b" ++
      handleFailure "\t\t" "ngErrors.RequestValidation(err)" ++ "\n\t\x7d"

def bodyText (b : BodyView) : String :=
  s!"\n\t{b.declaration}" ++
    "\n\tif err := json.NewDecoder(r.Body).Decode(&req); err != nil \x7b" ++
    handleFailure "\t" ("ngErrors.New(ngErrors.BusinessErrorCode, " ++
      "\"problem decoding request body\", http.StatusBadRequest, nil)") ++
    validateText b.validate

def checkedCall (h : HandlerView) (assigned : String) : String :=
  let arguments := ", ".intercalate h.arguments
  s!"\n\t{assigned} h.svc.{h.method}({arguments})\n\tif applicationErr != nil \x7b" ++
    handleFailure "\t" "applicationErr"

def answerText (h : HandlerView) : String :=
  match h.answer with
  | .page =>
    "\n\tpage, size := handler.GetPageParams(r)" ++
      "\n\tsort := handler.QueryParamToArrayString(r, \"sort\")" ++
      checkedCall h "content, total, applicationErr :=" ++
      s!"\n\thandler.WriteJson(r.Context(), w, {h.status}, " ++
      "handler.CreatePage(content, page, size, total, sort))"
  | .json =>
    checkedCall h "resp, applicationErr :=" ++
      s!"\n\thandler.WriteJson(r.Context(), w, {h.status}, resp)"
  | .status => checkedCall h "applicationErr =" ++ s!"\n\tw.WriteHeader({h.status})"

def handlerText (h : HandlerView) : String :=
  s!"\n// {h.method} handles {h.route}" ++
    s!"\nfunc (h *Handler) {h.method}(w http.ResponseWriter, r *http.Request) \x7b" ++
    "\n\tvar applicationErr error" ++
    each h.extractions extractionText ++
    (match h.body with
      | some body => bodyText body
      | none => "") ++
    answerText h ++ "\n\x7d\n"

def handlerPackageText (module : String) (p : HandlerPackageView) : String :=
  header ++ s!"package {p.name}\n" ++
    "\nimport (" ++ each p.stdImports importLine ++
    s!"\n\n\tngErrors \"{module}/internal/errors\"" ++
    each p.moduleImports importLine ++ "\n)\n" ++
    "\ntype Handler struct \x7b" ++
    s!"\n\tsvc                  *{p.name}.Service" ++
    "\n\tresponseErrorHandler *ngErrors.ResponseErrorHandler\n\x7d\n" ++
    s!"\nfunc New(svc *{p.name}.Service, " ++
    "responseErrorHandler *ngErrors.ResponseErrorHandler) *Handler \x7b" ++
    "\n\treturn &Handler\x7bsvc: svc, responseErrorHandler: responseErrorHandler\x7d\n\x7d\n" ++
    each p.handlers handlerText ++ "\n"

def routeLine (router : String) (r : RouteView) : String :=
  "\n" ++ router ++ onlyIf r.paged ".With(pagingMiddleware.Paging)" ++
    s!".{r.method}(\"{r.path}\", {r.handler})"

def registerText (t : RegisterView) : String :=
  header ++ "package register\n" ++
    "\nimport (\n\t\"github.com/go-chi/chi/v5\"\n\t\"go.uber.org/dig\"\n" ++
    onlyIf (t.needsAuthorization || t.needsPaging) s!"\n\t\"{t.module}/internal/middleware\"" ++
    each t.packages (fun p => s!"\n\t\"{t.module}/internal/rest/handler/{p}\"") ++
    "\n)\n" ++
    "\nfunc Generated(r chi.Router, diContainer *dig.Container) \x7b" ++
    "\n\terr := diContainer.Invoke(func(" ++
    each t.packages (fun p => s!"\n\t\t{p}Handler *{p}.Handler,") ++
    onlyIf t.needsAuthorization
      "\n\t\tauthorizationMiddleware *middleware.AuthorizationMiddleware," ++
    onlyIf t.needsPaging "\n\t\tpagingMiddleware *middleware.PagingMiddleware," ++
    "\n\t) error \x7b" ++
    each t.free (routeLine "\t\tr") ++
    onlyIf (!t.guarded.isEmpty)
      ("\n\t\tr.With(authorizationMiddleware.Middleware()).Group(func(protected chi.Router) \x7b" ++
        each t.guarded (routeLine "\t\t\tprotected") ++ "\n\t\t\x7d)") ++
    "\n\t\treturn nil\n\t\x7d)\n\tif err != nil \x7b\n\t\tpanic(err)\n\t\x7d\n\x7d\n"

def codeLine (e : ErrorView) : String := s!"\n\t{e.ident}Code ErrorCode = {e.code}"

def errorText (e : ErrorView) : String :=
  each e.comment commentLine ++
    s!"\nfunc {e.ident}({e.parameters}) error \x7b" ++
    s!"\n\treturn New({e.ident}Code, {e.message}, {e.status}, {e.values})\n\x7d\n"

def errorsText (c : ErrorsView) : String :=
  header ++ "package errors\n" ++ onlyIf c.needsFmt "\nimport \"fmt\"\n" ++
    "\nconst (" ++ each c.errors codeLine ++ "\n)\n" ++
    each c.errors errorText ++ "\n"

end ApiScaffold.Go
