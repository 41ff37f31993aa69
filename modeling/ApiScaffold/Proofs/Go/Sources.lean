import ApiScaffold.Generation
import ApiScaffold.Proofs.Outcome
/-!
# Pieces of sources

A source is put together from pieces. Each element of a list in a view has its own piece in the
source of that view, and each part of a service has a file with its source.
-/
namespace ApiScaffold

/-! ## Pieces of texts -/

/-- The text has the piece somewhere in it. -/
def Text.Contains (whole piece : String) : Prop := ∃ before after, whole = before ++ piece ++ after

namespace Text.Contains

variable {whole piece : String}

theorem refl (piece : String) : Contains piece piece := ⟨"", "", by simp⟩

theorem before (h : Contains whole piece) (more : String) : Contains (whole ++ more) piece := by
  obtain ⟨left, right, rfl⟩ := h
  exact ⟨left, right ++ more, by simp only [String.append_assoc]⟩

theorem after (h : Contains whole piece) (more : String) : Contains (more ++ whole) piece := by
  obtain ⟨left, right, rfl⟩ := h
  exact ⟨more ++ left, right, by simp only [String.append_assoc]⟩

theorem trans {inner : String} (h : Contains whole piece) (inside : Contains piece inner) :
    Contains whole inner := by
  obtain ⟨left, right, rfl⟩ := h
  exact (inside.after left).before right

private theorem join {pieces : List String} (member : piece ∈ pieces) :
    Contains (String.join pieces) piece := by
  induction pieces with
  | nil => cases member
  | cons first rest ih =>
    rw [String.join_cons]
    rcases List.mem_cons.mp member with rfl | member
    · exact (refl piece).before _
    · exact (ih member).after first

end Text.Contains

namespace Go

open ApiScaffold.Text

/-! ## Pieces of sources -/

theorem contains_each {α : Type} {items : List α} {x : α} (member : x ∈ items)
    (text : α → String) : Contains (each items text) (text x) :=
  Contains.join (List.mem_map_of_mem member)

theorem contains_recordText {g : GroupView} {r : RecordView} (member : r ∈ g.records) :
    Contains (groupText g) (recordText r) := by
  unfold groupText
  exact ((contains_each member recordText).after _).before _

theorem contains_errorText {c : ErrorsView} {e : ErrorView} (member : e ∈ c.errors) :
    Contains (errorsText c) (errorText e) := by
  unfold errorsText
  exact ((contains_each member errorText).after _).before _

theorem contains_handlerText {p : HandlerPackageView} {h : HandlerView} (member : h ∈ p.handlers)
    (module : String) : Contains (handlerPackageText module p) (handlerText h) := by
  unfold handlerPackageText
  exact ((contains_each member handlerText).after _).before _

theorem contains_extractionText {h : HandlerView} {x : ExtractionView}
    (member : x ∈ h.extractions) : Contains (handlerText h) (extractionText x) := by
  unfold handlerText
  refine Contains.before (Contains.before (Contains.before ?_ _) _) _
  exact (contains_each member extractionText).after _

theorem contains_bodyText {h : HandlerView} {body : BodyView} (member : body ∈ h.body) :
    Contains (handlerText h) (bodyText body) := by
  unfold handlerText
  rw [Option.mem_def.mp member]
  exact (((Contains.refl _).after _).before _).before _

theorem contains_answerText (h : HandlerView) : Contains (handlerText h) (answerText h) := by
  unfold handlerText
  exact ((Contains.refl _).after _).before _

/-- The tables of routes that are free and of those that are guarded, with what they start with. -/
def RegisterView.lines (t : RegisterView) : List (String × RouteView) :=
  t.free.map ("\t\tr", ·) ++ t.guarded.map ("\t\t\tprotected", ·)

theorem contains_routeLine {t : RegisterView} {router : String} {r : RouteView}
    (member : (router, r) ∈ t.lines) : Contains (registerText t) (routeLine router r) := by
  unfold registerText
  rcases List.mem_append.mp member with free | guarded
  · obtain ⟨_, inside, same⟩ := List.mem_map.mp free
    cases same
    refine Contains.before (Contains.before ?_ _) _
    exact (contains_each inside (routeLine "\t\tr")).after _
  · obtain ⟨_, inside, same⟩ := List.mem_map.mp guarded
    cases same
    refine Contains.before (Contains.after ?_ _) _
    have filled : t.guarded.isEmpty = false :=
      List.isEmpty_eq_false_iff_exists_mem.mpr ⟨r, inside⟩
    rw [onlyIf, filled, if_pos (by decide)]
    exact ((contains_each inside (routeLine "\t\t\tprotected")).after _).before _

/-! ## Views -/

theorem extractions_of_ofPlan {plan : HandlerPlan} {view : HandlerView}
    (h : HandlerView.ofPlan plan = .ok view) :
    List.Forall₂ (fun x view => ExtractionView.ofExtraction x = .ok view) plan.extractions
      view.extractions := by
  obtain ⟨views, spelled, h⟩ := Outcome.bind_eq_ok.mp h
  cases h
  exact Outcome.mapM_eq_ok.mp spelled

theorem handlers_of_ofPackage {module : String} {p : HandlerPackage} {view : HandlerPackageView}
    (h : HandlerPackageView.ofPackage module p = .ok view) :
    List.Forall₂ (fun plan view => HandlerView.ofPlan plan = .ok view) p.handlers
      view.handlers := by
  obtain ⟨views, spelled, h⟩ := Outcome.bind_eq_ok.mp h
  cases h
  exact Outcome.mapM_eq_ok.mp spelled

end Go

/-! ## Files -/

open ApiScaffold.Go Generation in
/-- Where the files of a service go and what they hold, in the order in which they are written
out. Those of the handlers show one view for each package. -/
def Service.sources (s : Service) (views : List HandlerPackageView) : List (String × String) :=
  [("internal/data/dto/generated.go", timeTypes)] ++
    s.types.groups.map (fun g => (groupPath g.name, groupText (.ofGroup s.module g))) ++
    s.types.enums.map (fun e => (enumPath e.package, enumText s.module (.ofEnumeration e))) ++
    (s.handlers.packages.zip views).map
      (fun (p, view) => (handlerPath p.name, handlerPackageText s.module view)) ++
    [("internal/rest/register/generated.go", registerText (.ofTable s.module s.routes))] ++
    s.errors.toList.map fun catalog =>
      ("internal/errors/custom_generated.go", errorsText (.ofCatalog catalog))

namespace Generation

open ApiScaffold.Go

variable {s : Service} {files : List Artifact}

/-- The files are the sources of the service at their paths. -/
theorem sources_of_render (h : render s = .ok files) :
    ∃ views, s.handlers.packages.mapM (HandlerPackageView.ofPackage s.module) = .ok views ∧
      files = (s.sources views).map fun (path, content) => ⟨path, content, none⟩ := by
  obtain ⟨handlers, written, h⟩ := Outcome.bind_eq_ok.mp h
  cases h
  obtain ⟨views, spelled, rfl⟩ := Outcome.mapM_zip_eq_ok written
  refine ⟨views, spelled, ?_⟩
  cases declared : s.errors <;>
    simp [Service.sources, file, Function.comp_def, declared]

private theorem file_mem_of_render {path content : String} (h : render s = .ok files)
    (among : ∀ views, (path, content) ∈ s.sources views) : file path content ∈ files := by
  obtain ⟨views, -, rfl⟩ := sources_of_render h
  exact List.mem_map.mpr ⟨_, among views, rfl⟩

theorem groups_of_render (h : render s = .ok files) : ∀ g ∈ s.types.groups,
    file (groupPath g.name) (groupText (.ofGroup s.module g)) ∈ files := by
  refine fun g member => file_mem_of_render h fun views => ?_
  simp only [Service.sources, List.mem_append, List.mem_map]
  exact .inl (.inl (.inl (.inl (.inr ⟨g, member, rfl⟩))))

theorem enums_of_render (h : render s = .ok files) : ∀ e ∈ s.types.enums,
    file (enumPath e.package) (enumText s.module (.ofEnumeration e)) ∈ files := by
  refine fun e member => file_mem_of_render h fun views => ?_
  simp only [Service.sources, List.mem_append, List.mem_map]
  exact .inl (.inl (.inl (.inr ⟨e, member, rfl⟩)))

theorem errors_of_render (h : render s = .ok files) : ∀ catalog ∈ s.errors,
    file "internal/errors/custom_generated.go" (errorsText (.ofCatalog catalog)) ∈ files :=
  fun catalog declared => file_mem_of_render h fun _ =>
    List.mem_append_right _ (List.mem_map.mpr ⟨catalog, Option.mem_toList.mpr declared, rfl⟩)

theorem register_of_render (h : render s = .ok files) :
    file "internal/rest/register/generated.go" (registerText (.ofTable s.module s.routes)) ∈
      files :=
  file_mem_of_render h fun _ =>
    List.mem_append_left _ (List.mem_append_right _ (List.mem_singleton_self _))

theorem exists_view_of_render (h : render s = .ok files) {p : HandlerPackage}
    (member : p ∈ s.handlers.packages) :
    ∃ view, HandlerPackageView.ofPackage s.module p = .ok view ∧
      file (handlerPath p.name) (handlerPackageText s.module view) ∈ files := by
  obtain ⟨views, spelled, rfl⟩ := sources_of_render h
  have each := Outcome.mapM_eq_ok.mp spelled
  have packages := List.map_fst_zip (Nat.le_of_eq each.length_eq)
  obtain ⟨⟨own, view⟩, paired, (rfl : own = p)⟩ := List.mem_map.mp (packages.symm ▸ member)
  have among : (handlerPath own.name, handlerPackageText s.module view) ∈ s.sources views :=
    List.mem_append_left _ (List.mem_append_left _ (List.mem_append_right _
      (List.mem_map_of_mem paired)))
  exact ⟨view, (List.forall₂_iff_zip.mp each).2 paired, List.mem_map.mpr ⟨_, among, rfl⟩⟩

end Generation

end ApiScaffold
