import ApiScaffold.Proofs.Go.Identifiers
import ApiScaffold.Proofs.Go.Sources
import ApiScaffold.Proofs.Text.Lines
/-!
# Comments of sources

A comment of Go goes up to the next line feed, and a carriage return does not end it. Descriptions
are split into lines, but the message of an error and the path of a route go into a comment as they
are.
-/
namespace ApiScaffold

open ApiScaffold.Text

/-! ## Lines -/

def Text.OneLine (s : String) : Prop := '\n' ∉ s.toList

instance (s : String) : Decidable (OneLine s) := inferInstanceAs (Decidable ('\n' ∉ s.toList))

namespace Text

private theorem oneLine_append {s t : String} : OneLine (s ++ t) ↔ OneLine s ∧ OneLine t := by
  rw [OneLine, String.toList_append, List.mem_append, not_or]
  rfl

private theorem oneLine_of_isNameChar {s : String} (h : ∀ c ∈ s.toList, IsNameChar c) : OneLine s :=
  fun breaks => absurd (h '\n' breaks) (by decide)

end Text

namespace Go

private theorem oneLine_commentLines (text : Option String) :
    ∀ line ∈ commentLines text, OneLine line := by
  cases text with
  | none => exact List.forall_mem_nil _
  | some text =>
    intro line member
    obtain ⟨kept, among, rfl⟩ := List.mem_map.mp member
    obtain ⟨l, inside, rfl⟩ := List.mem_map.mp (List.mem_filter.mp among).1
    rw [OneLine, String.toList_ofList]
    intro breaks
    exact break_notMem_linesAfter (List.not_mem_nil) text.toList l inside
      ((trimEnd_sublist l).subset breaks)

/-! ## Comments -/

def commented (source : String) : List Char := source.toList.takeWhile (· ≠ '\n')

/-- The source has a comment with the line, and the comment covers all of the line and no more,
wherever it stands. -/
structure Comments (source line : String) : Prop where
  has : Contains source (commentLine line ++ "\n")
  covers (before after : String) : source = before ++ (commentLine line ++ "\n") ++ after →
    commented (line ++ "\n" ++ after) = line.toList

private theorem commented_eq_iff {line rest : String} :
    commented (line ++ "\n" ++ rest) = line.toList ↔ OneLine line := by
  have spelled : (line ++ "\n" ++ rest).toList = line.toList ++ '\n' :: rest.toList := by simp
  rw [commented, spelled]
  constructor
  · intro covered breaks
    rw [← covered] at breaks
    exact absurd (List.all_eq_true.mp List.all_takeWhile _ breaks) (by decide)
  · intro whole
    rw [List.takeWhile_append_of_pos]
    · simp
    · intro c member
      simp only [decide_eq_true_eq]
      rintro rfl
      exact whole member

private theorem comments_iff {source line : String}
    (has : Contains source (commentLine line ++ "\n")) :
    Comments source line ↔ OneLine line := by
  constructor
  · intro comments
    obtain ⟨before, after, same⟩ := has
    exact commented_eq_iff.mp (comments.covers before after same)
  · exact fun whole => ⟨has, fun _ _ _ => commented_eq_iff.mpr whole⟩

/-! ## Comments of pieces -/

def StartsLine (text : String) : Prop := ∃ rest, text = "\n" ++ rest

private theorem StartsLine.append {text : String} (h : StartsLine text) (more : String) :
    StartsLine (text ++ more) := by
  obtain ⟨rest, rfl⟩ := h
  exact ⟨rest ++ more, String.append_assoc⟩

private theorem startsLine_commentLine (line : String) : StartsLine (commentLine line) :=
  StartsLine.append ⟨"// ", by decide⟩ line

private theorem startsLine_comment (comment : List String) {rest : String} (h : StartsLine rest) :
    StartsLine (each comment commentLine ++ rest) := by
  cases comment with
  | nil => simpa [each] using h
  | cons first comment =>
    rw [each_cons, String.append_assoc]
    exact (startsLine_commentLine first).append _

private theorem contains_commentLine (line : String) {rest : String} (h : StartsLine rest) :
    Contains (commentLine line ++ rest) (commentLine line ++ "\n") := by
  obtain ⟨more, rfl⟩ := h
  rw [← String.append_assoc]
  exact (Contains.refl _).before more

private theorem contains_comment {comment : List String} {line : String} (member : line ∈ comment)
    {rest : String} (h : StartsLine rest) :
    Contains (each comment commentLine ++ rest) (commentLine line ++ "\n") := by
  induction comment with
  | nil => cases member
  | cons first comment ih =>
    rw [each_cons, String.append_assoc]
    rcases List.mem_cons.mp member with rfl | member
    · exact contains_commentLine line (startsLine_comment comment h)
    · exact (ih member).after _

private theorem contains_recordComment {g : GroupView} {r : RecordView} (record : r ∈ g.records)
    {line : String} (member : line ∈ r.comment) :
    Contains (groupText g) (commentLine line ++ "\n") := by
  refine (contains_recordText record).trans ?_
  unfold recordText
  refine Contains.before ?_ "\n"
  rw [String.append_assoc]
  refine (contains_comment member ?_).after "\n"
  cases r.aliasOf with
  | some type =>
    repeat refine StartsLine.append ?_ _
    exact ⟨"type ", by decide⟩
  | none =>
    dsimp only
    unfold structText
    repeat refine StartsLine.append ?_ _
    exact ⟨"type ", by decide⟩

private theorem contains_enumComment {module : String} {e : EnumView} {line : String}
    (member : line ∈ e.comment) : Contains (enumText module e) (commentLine line ++ "\n") := by
  unfold enumText
  -- all that comes after the declaration of the type
  iterate 10 refine Contains.before ?_ _
  rw [String.append_assoc]
  refine (contains_comment member ?_).after _
  repeat refine StartsLine.append ?_ _
  exact ⟨"type ", by decide⟩

private theorem contains_errorComment {c : ErrorsView} {e : ErrorView} (error : e ∈ c.errors)
    {line : String} (member : line ∈ e.comment) :
    Contains (errorsText c) (commentLine line ++ "\n") := by
  refine (contains_errorText error).trans ?_
  unfold errorText
  refine Contains.before (contains_comment member ?_) _
  repeat refine StartsLine.append ?_ _
  exact ⟨"func ", by decide⟩

private theorem contains_handlerComment {p : HandlerPackageView} {h : HandlerView}
    (member : h ∈ p.handlers) (module : String) : Contains (handlerPackageText module p)
      (commentLine (h.method ++ " handles " ++ h.route) ++ "\n") := by
  have heading : s!"\n// {h.method} handles {h.route}" =
      commentLine (h.method ++ " handles " ++ h.route) := by
    simp only [commentLine, toString, String.append_assoc]
  refine (contains_handlerText member module).trans ?_
  unfold handlerText
  -- the body of the function and its end
  iterate 5 refine Contains.before ?_ _
  rw [heading]
  refine contains_commentLine _ ?_
  repeat refine StartsLine.append ?_ _
  exact ⟨"func (h *Handler) ", by decide⟩

/-! ## Texts of comments -/

private theorem oneLine_errorComment_iff (e : ErrorEntry) (ident : OneLine e.ident) :
    (∀ line ∈ (ErrorView.ofEntry e).comment, OneLine line) ↔ OneLine e.message := by
  have others : ∀ line ∈ commentLines e.description, OneLine line :=
    oneLine_commentLines e.description
  have blank : OneLine " " := by decide
  rw [ErrorView.ofEntry, List.forall_mem_cons, oneLine_append, oneLine_append]
  exact ⟨fun all => all.1.2, fun message => ⟨⟨⟨ident, blank⟩, message⟩, others⟩⟩

private theorem oneLine_route_iff (method : Method) (path : String) :
    OneLine (method.label path) ↔ OneLine path := by
  have upper : OneLine (method.upper ++ " ") := by cases method <;> decide
  rw [Method.label, oneLine_append]
  exact and_iff_right upper

private theorem oneLine_handlerComment_iff {e : Endpoint} {plan : HandlerPlan}
    (h : (HandlerPlan.ofEndpoint e).result = .ok plan) :
    OneLine (plan.method ++ " handles " ++ plan.route) ↔ OneLine e.path := by
  obtain ⟨_, -, h⟩ := Diagnosed.bind_result_eq_ok.mp h
  cases h
  have characters : Clause.characters.Holds .ascii (Naming.exported e.operationId) :=
    exported_holds .ascii e.operationId (by decide)
  have word : OneLine " handles " := by decide
  rw [oneLine_append, oneLine_append, Endpoint.label, oneLine_route_iff]
  exact and_iff_right ⟨oneLine_of_isNameChar characters, word⟩

private theorem handlerComments_iff {module : String} {p : HandlerPackage}
    {view : HandlerPackageView} (h : HandlerPackageView.ofPackage module p = .ok view) :
    (∀ handler ∈ view.handlers, Comments (handlerPackageText module view)
        (handler.method ++ " handles " ++ handler.route)) ↔
      ∀ plan ∈ p.handlers, OneLine (plan.method ++ " handles " ++ plan.route) := by
  have spelled := handlers_of_ofPackage h
  have same {plan : HandlerPlan} {handler : HandlerView} (member : handler ∈ view.handlers)
      (h : HandlerView.ofPlan plan = .ok handler) :
      Comments (handlerPackageText module view)
          (handler.method ++ " handles " ++ handler.route) ↔
        OneLine (plan.method ++ " handles " ++ plan.route) := by
    rw [comments_iff (contains_handlerComment member module)]
    obtain ⟨_, -, h⟩ := Outcome.bind_eq_ok.mp h
    cases h
    rfl
  constructor
  · intro covered plan planned
    obtain ⟨handler, member, viewed⟩ := Outcome.right_of_mem spelled planned
    exact (same member viewed).mp (covered handler member)
  · intro whole handler member
    obtain ⟨plan, planned, viewed⟩ := Outcome.left_of_mem spelled member
    exact (same member viewed).mpr (whole plan planned)

end Go

/-! ## Services -/

open Go Generation in
/-- All comments of the files cover what they are made of: the lines of descriptions, the errors
and their messages, and the handlers and their routes. -/
structure Service.Comments (s : Service) (files : List Artifact) : Prop where
  groups : ∀ g ∈ s.types.groups, file (groupPath g.name) (groupText (.ofGroup s.module g)) ∈ files ∧
    ∀ r ∈ (GroupView.ofGroup s.module g).records, ∀ line ∈ r.comment,
      Go.Comments (groupText (.ofGroup s.module g)) line
  enums : ∀ e ∈ s.types.enums,
    file (enumPath e.package) (enumText s.module (.ofEnumeration e)) ∈ files ∧
      ∀ line ∈ (EnumView.ofEnumeration e).comment,
        Go.Comments (enumText s.module (.ofEnumeration e)) line
  handlers : ∀ p ∈ s.handlers.packages, ∃ view, HandlerPackageView.ofPackage s.module p = .ok view ∧
    file (handlerPath p.name) (handlerPackageText s.module view) ∈ files ∧
    ∀ h ∈ view.handlers,
      Go.Comments (handlerPackageText s.module view) (h.method ++ " handles " ++ h.route)
  errors : ∀ catalog ∈ s.errors,
    file "internal/errors/custom_generated.go" (errorsText (.ofCatalog catalog)) ∈ files ∧
      ∀ e ∈ (ErrorsView.ofCatalog catalog).errors, ∀ line ∈ e.comment,
        Go.Comments (errorsText (.ofCatalog catalog)) line

namespace Service

variable {d : Document} {c : Context} {s : Service}

private theorem oneLine_errors_iff (h : s.Compiled d c) {catalog : ErrorCatalog}
    (declared : catalog ∈ s.errors) :
    (∀ e ∈ (Go.ErrorsView.ofCatalog catalog).errors, ∀ line ∈ e.comment,
        Go.Comments (Go.errorsText (.ofCatalog catalog)) line) ↔
      ∀ e ∈ catalog.entries, OneLine e.message := by
  have compiled := h.errors
  rw [Option.mem_def.mp declared] at compiled
  obtain ⟨table, -, -, idents⟩ := ErrorCatalog.entries_of_ofDocument compiled
  have views : (Go.ErrorsView.ofCatalog catalog).errors =
      catalog.entries.map Go.ErrorView.ofEntry := rfl
  rw [views, List.forall_mem_map]
  refine forall₂_congr fun e member => ?_
  have ident : OneLine e.ident := by
    have named : e.ident ∈ catalog.entries.map (·.ident) := List.mem_map_of_mem member
    rw [idents] at named
    obtain ⟨code, -, same⟩ := List.mem_map.mp named
    have characters : Go.Clause.characters.Holds .ascii (Naming.properCase code) :=
      Go.properCase_holds .ascii code (by decide)
    exact same ▸ oneLine_of_isNameChar characters
  rw [← Go.oneLine_errorComment_iff e ident]
  exact forall₂_congr fun line among =>
    Go.comments_iff (Go.contains_errorComment (List.mem_map_of_mem member) among)

private theorem comments_iff (h : s.Compiled d c) {files : List Artifact}
    (written : Generation.render s = .ok files) :
    s.Comments files ↔ (∀ catalog ∈ s.errors, ∀ e ∈ catalog.entries, OneLine e.message) ∧
      ∀ e ∈ s.endpoints, e.customHandler = false → OneLine e.path := by
  have routes : (∀ p ∈ s.handlers.packages, ∀ plan ∈ p.handlers,
        OneLine (plan.method ++ " handles " ++ plan.route)) ↔
      ∀ e ∈ s.endpoints, e.customHandler = false → OneLine e.path := by
    rw [Handlers.forall_plans_iff h.handlers]
    refine forall₃_congr fun e _ _ => ?_
    obtain ⟨plan, made, -⟩ := HandlerPlan.exists_ofEndpoint e
    constructor
    · exact fun all => (Go.oneLine_handlerComment_iff made).mp (all plan made)
    · exact fun path _ other => (Go.oneLine_handlerComment_iff other).mpr path
  rw [← routes]
  constructor
  · intro covered
    refine ⟨fun catalog declared => ?_, fun p member => ?_⟩
    · exact (oneLine_errors_iff h declared).mp (covered.errors catalog declared).2
    · obtain ⟨view, spelled, -, handlers⟩ := covered.handlers p member
      exact (Go.handlerComments_iff spelled).mp handlers
  · rintro ⟨messages, handlers⟩
    refine
      { groups := fun g member => ⟨Generation.groups_of_render written g member, ?_⟩
        enums := fun e member => ⟨Generation.enums_of_render written e member, ?_⟩
        handlers := fun p member => ?_
        errors := fun catalog declared => ⟨Generation.errors_of_render written catalog declared,
          (oneLine_errors_iff h declared).mpr (messages catalog declared)⟩ }
    · intro r record line among
      refine (Go.comments_iff (Go.contains_recordComment record among)).mpr ?_
      obtain ⟨own, -, rfl⟩ := List.mem_map.mp record
      exact Go.oneLine_commentLines own.description line among
    · intro line among
      refine (Go.comments_iff (Go.contains_enumComment among)).mpr ?_
      exact Go.oneLine_commentLines e.description line among
    · obtain ⟨view, spelled, rendered⟩ := Generation.exists_view_of_render written member
      exact ⟨view, spelled, rendered, (Go.handlerComments_iff spelled).mpr (handlers p member)⟩

/-- A compiled service has files. The comments in them cover exactly what they are made of if, and
only if, no message of an error and no path of an operation with a generated handler has a line
break. -/
theorem comments_iff_oneLine (h : (Service.ofDocument d c).result = .ok s) :
    ∃ files, Generation.render s = .ok files ∧
      (s.Comments files ↔
        (∀ catalog ∈ s.errors, ∀ e ∈ catalog.entries, OneLine e.message) ∧
          ∀ e ∈ s.endpoints, e.customHandler = false → OneLine e.path) := by
  obtain ⟨files, written⟩ := Generation.exists_render (handlers_supported h)
  exact ⟨files, written, comments_iff (compiled_of_ofDocument h) written⟩

def remarksDescription (remark path message : String) : Json :=
  Description.assemble
    [("Ticket", .object [("description", .string remark),
      ("properties", .object [("id", .object [("type", .string "string")])]),
      ("x-group", .string "ticket")])]
    [(path, .object [("get", Description.generatedOperation "listTickets" "ticket" [])])]
    [("x-errors", .object [("BRANCH", .object [
      ("httpCode", .number (.int 409)), ("message", .string message)])])]

/-- A description can have lines, however they end. -/
theorem comments_iff_oneLine_lines :
    ∃ d c s files, Description.read (remarksDescription "a\r\nb\n\nc\rd" "/tickets" "closed") =
        .ok d ∧
      Context.ofDocument d .go (some "example.com/queue") = .ok c ∧
      (Service.ofDocument d c).result = .ok s ∧ Generation.render s = .ok files ∧
      (s.Comments files ↔
        (∀ catalog ∈ s.errors, ∀ e ∈ catalog.entries, OneLine e.message) ∧
          ∀ e ∈ s.endpoints, e.customHandler = false → OneLine e.path) ∧
      (s.types.groups.map fun g => g.records.map fun r => (Go.RecordView.ofRecord r).comment) =
        [[["a", "b", "c\rd"]]] ∧
      s.Comments files := by
  have compiles : ∃ d c s,
      Description.read (remarksDescription "a\r\nb\n\nc\rd" "/tickets" "closed") = .ok d ∧
      Context.ofDocument d .go (some "example.com/queue") = .ok c ∧
      (Service.ofDocument d c).result = .ok s ∧
      (s.types.groups.map fun g => g.records.map fun r => (Go.RecordView.ofRecord r).comment) =
        [[["a", "b", "c\rd"]]] ∧
      (∀ catalog ∈ s.errors, ∀ e ∈ catalog.entries, OneLine e.message) ∧
        ∀ e ∈ s.endpoints, e.customHandler = false → OneLine e.path :=
    ⟨_, _, _, rfl, rfl, rfl, by decide +kernel⟩
  obtain ⟨d, c, s, read, context, compiled, lines, whole⟩ := compiles
  obtain ⟨files, written, same⟩ := comments_iff_oneLine compiled
  exact ⟨d, c, s, files, read, context, compiled, written, same, lines, same.mpr whole⟩

/-- A message and a path are not split, so what comes after a line break in them is code. -/
theorem not_comments_injected :
    ∃ d c s files, Description.read (remarksDescription "a" "/tickets\nvar x = 1"
        "closed\nvar y = 1") = .ok d ∧
      Context.ofDocument d .go (some "example.com/queue") = .ok c ∧
      (Service.ofDocument d c).result = .ok s ∧ Generation.render s = .ok files ∧
      ¬ s.Comments files ∧
      (s.errors.map fun catalog => (Go.ErrorsView.ofCatalog catalog).errors.map (·.comment)) =
        some [["Branch closed\nvar y = 1"]] ∧
      s.handlers.packages.map (fun p => p.handlers.map fun plan =>
        plan.method ++ " handles " ++ plan.route) =
        [["ListTickets handles GET /tickets\nvar x = 1"]] := by
  have compiles : ∃ d c s, Description.read (remarksDescription "a" "/tickets\nvar x = 1"
        "closed\nvar y = 1") = .ok d ∧
      Context.ofDocument d .go (some "example.com/queue") = .ok c ∧
      (Service.ofDocument d c).result = .ok s ∧
      (¬ ∀ e ∈ s.endpoints, e.customHandler = false → OneLine e.path) ∧
      (s.errors.map fun catalog => (Go.ErrorsView.ofCatalog catalog).errors.map (·.comment)) =
        some [["Branch closed\nvar y = 1"]] ∧
      s.handlers.packages.map (fun p => p.handlers.map fun plan =>
        plan.method ++ " handles " ++ plan.route) =
        [["ListTickets handles GET /tickets\nvar x = 1"]] :=
    ⟨_, _, _, rfl, rfl, rfl, by decide +kernel⟩
  obtain ⟨d, c, s, read, context, compiled, broken, shown⟩ := compiles
  obtain ⟨files, written⟩ := Generation.exists_render (handlers_supported compiled)
  refine ⟨d, c, s, files, read, context, compiled, written, ?_, shown⟩
  intro covered
  exact broken ((comments_iff (compiled_of_ofDocument compiled) written).mp covered).2

end Service

end ApiScaffold
