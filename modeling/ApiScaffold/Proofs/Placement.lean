import ApiScaffold.Disk.Staging
import ApiScaffold.Proofs.Go.Identifiers
import ApiScaffold.Proofs.Layout
import ApiScaffold.Proofs.Paths
/-!
# Where files lie

The name of a group and the package of an enumeration go into paths as they are. Such a text can
have slashes in it and lead into other directories, or upwards and out of the root, where the
writer refuses the file. Packages of handlers have been looked at before.
-/
namespace ApiScaffold

/-! ## Destinations -/

/-- A path that is not empty and leads on from the root at every step. -/
def Path.StaysInside (path : String) : Prop :=
  path ≠ "" ∧ ∀ step ∈ Path.steps path, Staging.isInside step = true

namespace Staging

def Accepts (a : Artifact) : Prop := ∀ root, ∃ path, destination root a = .ok path

theorem destination_of_staysInside {a : Artifact} (h : Path.StaysInside a.path) (root : String) :
    destination root a = .ok (Path.join root a.path) := by
  have inside : (Path.steps a.path).all isInside = true := List.all_eq_true.mpr h.2
  rw [destination, if_neg]
  simp [h.1, inside]

theorem destination_of_not_staysInside {a : Artifact} (h : ¬ Path.StaysInside a.path)
    (root : String) : destination root a = .error (.outside a.path) := by
  rw [destination, if_pos]
  by_contra inside
  simp only [Bool.or_eq_true, Bool.not_eq_true', not_or, Bool.not_eq_false, List.all_eq_true,
    String.isEmpty_iff] at inside
  exact h inside

private theorem accepts_iff {a : Artifact} : Accepts a ↔ Path.StaysInside a.path := by
  constructor
  · intro accepts
    by_contra leaves
    obtain ⟨path, accepted⟩ := accepts ""
    cases accepted.symm.trans (destination_of_not_staysInside leaves "")
  · exact fun h root => ⟨_, destination_of_staysInside h root⟩

end Staging

namespace Path

theorem isInside_filterMap_iff (pieces : List (List Char)) :
    (∀ step ∈ pieces.filterMap step?, Staging.isInside step = true) ↔ ['.', '.'] ∉ pieces := by
  simp only [List.mem_filterMap, forall_exists_index, and_imp]
  constructor
  · intro inside above
    exact absurd (inside .up _ above (step?_eq_up.mpr rfl)) (by decide)
  · intro below step segment member same
    cases step with
    | named | here => rfl
    | root =>
      rw [step?] at same
      split at same <;> try split at same
      all_goals cases same
    | up => exact absurd (step?_eq_up.mp same ▸ member) below

private theorem staysInside_join_iff {directory : String} (h : StaysInside directory)
    (rest : String) :
    StaysInside (directory ++ "/" ++ rest) ↔ ['.', '.'] ∉ segments rest := by
  have nonempty : directory ++ "/" ++ rest ≠ "" := by simp
  rw [StaysInside, steps_join h.1, List.forall_mem_append, isInside_filterMap_iff]
  exact ⟨fun all => all.2.2, fun below => ⟨nonempty, h.2, below⟩⟩

end Path

/-! ## Directories -/

namespace Generation

def dataDirectory : String := "internal/data/dto"

def enumDirectory (package : String) : String := dataDirectory ++ "/" ++ package

def handlersDirectory : String := "internal/rest/handler"

def handlerDirectory (package : String) : String := handlersDirectory ++ "/" ++ package

private theorem dataDirectory_slash : dataDirectory ++ "/" = "internal/data/dto/" := by decide

private theorem handlersDirectory_slash : handlersDirectory ++ "/" = "internal/rest/handler/" := by
  decide

private theorem slash_generated (directory : String) :
    directory ++ "/generated.go" = directory ++ "/" ++ "generated.go" := by
  have joined : "/" ++ "generated.go" = "/generated.go" := by decide
  rw [String.append_assoc, joined]

private theorem groupPath_eq (name : String) :
    groupPath name = dataDirectory ++ "/" ++ (name ++ ".go") := by
  unfold groupPath
  rw [dataDirectory_slash, String.append_assoc]

private theorem enumPath_eq (package : String) :
    enumPath package = enumDirectory package ++ "/" ++ (package ++ ".go") := by
  unfold enumPath enumDirectory
  rw [dataDirectory_slash, ← String.append_assoc]

private theorem handlerPath_eq (package : String) :
    handlerPath package = handlerDirectory package ++ "/" ++ "generated.go" := by
  unfold handlerPath handlerDirectory
  rw [handlersDirectory_slash, slash_generated]

private theorem staysInside_dataDirectory : Path.StaysInside dataDirectory := by
  refine ⟨by decide, ?_⟩
  decide

private theorem staysInside_handlersDirectory : Path.StaysInside handlersDirectory := by
  refine ⟨by decide, ?_⟩
  decide

/-- The suffix of a source keeps its name from being a way up. -/
theorem up_mem_segments_source (name : String) :
    ['.', '.'] ∈ Path.segments (name ++ ".go") ↔ ['.', '.'] ∈ (Path.segments name).dropLast := by
  have long : ['.', '.'] ≠ Path.lastSegment name ++ ".go".toList := by
    intro same
    have lengths := congrArg List.length same
    simp at lengths
  rw [Path.segments_append name (by decide), List.mem_append, List.mem_singleton]
  exact or_iff_left long

private theorem staysInside_groupPath_iff (name : String) :
    Path.StaysInside (groupPath name) ↔ ['.', '.'] ∉ (Path.segments name).dropLast := by
  rw [groupPath_eq, Path.staysInside_join_iff staysInside_dataDirectory, up_mem_segments_source]

private theorem staysInside_enumPath_iff (package : String) :
    Path.StaysInside (enumPath package) ↔ ['.', '.'] ∉ Path.segments package := by
  have joined : enumPath package =
      dataDirectory ++ "/" ++ (package ++ "/" ++ (package ++ ".go")) := by
    simp only [enumPath_eq, enumDirectory, String.append_assoc]
  rw [joined, Path.staysInside_join_iff staysInside_dataDirectory, Path.segments_join,
    List.mem_append, up_mem_segments_source]
  refine not_congr (or_iff_left_of_imp ?_)
  exact fun member => List.dropLast_subset _ member

private theorem liesIn_groupPath_iff (name : String) : Path.LiesIn dataDirectory (groupPath name) ↔
    ∀ segment ∈ (Path.segments name).dropLast, Path.Idle segment := by
  rw [groupPath_eq]
  exact Path.liesIn_append_iff (by decide) name (by decide) (by decide)

private theorem liesIn_enumPath_iff (package : String) :
    Path.LiesIn dataDirectory (enumDirectory package) ∧
        Path.LiesIn (enumDirectory package) (enumPath package) ↔
      (∀ segment ∈ (Path.segments package).dropLast, Path.Idle segment) ∧
        Path.lastSegment package ∉ [[], ['.'], ['.', '.']] := by
  have nonempty : enumDirectory package ≠ "" := by simp [enumDirectory, dataDirectory]
  rw [enumPath_eq, Path.liesIn_append_iff nonempty package (by decide) (by decide), and_comm]
  refine and_congr_right fun idle => ?_
  rw [enumDirectory, Path.liesIn_join_iff (by decide), ← Path.exists_step?_eq_named,
    Path.filterMap_step?_of_idle idle]
  simp only [Option.toList_eq_singleton_iff]

section

variable {package : String}
  (idle : ∀ segment ∈ (Path.segments package).dropLast, Path.Idle segment)

include idle

private theorem steps_enumDirectory (named : Path.lastSegment package ∉ [[], ['.'], ['.', '.']]) :
    Path.steps (enumDirectory package) =
      Path.steps dataDirectory ++ [.named (String.ofList (Path.lastSegment package))] := by
  rw [enumDirectory, Path.steps_join (by decide), Path.filterMap_step?_of_idle idle,
    Path.step?_of_notMem named]
  rfl

private theorem steps_enumPath :
    Path.steps (enumPath package) = Path.steps (enumDirectory package) ++
    [.named (String.ofList (Path.lastSegment package ++ ".go".toList))] := by
  have nonempty : enumDirectory package ≠ "" := by simp [enumDirectory, dataDirectory]
  rw [enumPath_eq, Path.steps_join nonempty,
    Path.filterMap_step?_append package (by decide) (by decide),
    Path.filterMap_step?_eq_nil.mpr idle, List.nil_append]

end

end Generation

namespace Service

open Generation

/-- Files lie where the layout has them: groups of records right in the directory of the data
types, enumerations in directories of their own right in that one, and handlers in the directories
of their packages. -/
structure LaidOut (s : Service) : Prop where
  groups : ∀ g ∈ s.types.groups, Path.LiesIn dataDirectory (groupPath g.name)
  enums : ∀ e ∈ s.types.enums, Path.LiesIn dataDirectory (enumDirectory e.package) ∧
    Path.LiesIn (enumDirectory e.package) (enumPath e.package)
  own : (s.types.enums.map fun e => Path.steps (enumDirectory e.package)).Nodup
  handlers : ∀ p ∈ s.handlers.packages, Path.LiesIn handlersDirectory (handlerDirectory p.name) ∧
    Path.LiesIn (handlerDirectory p.name) (handlerPath p.name)

/-- No directory that a group or an enumeration names is the one above. -/
structure StaysBelow (s : Service) : Prop where
  groups : ∀ g ∈ s.types.groups, ['.', '.'] ∉ (Path.segments g.name).dropLast
  enums : ∀ e ∈ s.types.enums, ['.', '.'] ∉ Path.segments e.package

/-- Groups and enumerations name no directories, save those that add nothing to a path, and the
package of an enumeration is a name itself. -/
structure NamesNoDirectory (s : Service) : Prop where
  groups : ∀ g ∈ s.types.groups, ∀ segment ∈ (Path.segments g.name).dropLast, Path.Idle segment
  enums : ∀ e ∈ s.types.enums,
    (∀ segment ∈ (Path.segments e.package).dropLast, Path.Idle segment) ∧
      Path.lastSegment e.package ∉ [[], ['.'], ['.', '.']]

variable {d : Document} {c : Context} {s : Service}

private theorem segments_of_package (h : s.Compiled d c) {p : HandlerPackage}
    (member : p ∈ s.handlers.packages) :
    Path.segments p.name = [p.name.toList] ∧ p.name.toList ∉ [[], ['.'], ['.', '.']] := by
  have named : p.name ∈ s.namesOf .handlerPackage :=
    List.mem_append_left _ (List.mem_map_of_mem member)
  obtain ⟨e, inside, package⟩ := exists_endpoint_of_package h named
  have holds (clause : Go.Clause) (checked : clause ∉ [.start, .keyword]) :
      clause.Holds .ascii p.name :=
    package ▸ Endpoint.package_holds .ascii h.endpoints inside checked
  have nonempty : p.name ≠ "" := holds .nonempty (by decide)
  have letters : ∀ c ∈ p.name.toList, Text.IsNameChar c := holds .characters (by decide)
  have point : '.' ∉ p.name.toList := fun among => absurd (letters '.' among) (by decide)
  refine ⟨Path.segments_of_notMem fun among => absurd (letters '/' among) (by decide), ?_⟩
  intro among
  simp only [List.mem_cons, List.not_mem_nil, or_false] at among
  rcases among with same | same | same
  · exact nonempty (by simpa using same)
  · simp [same] at point
  · simp [same] at point

private theorem staysInside_handlerPath (h : s.Compiled d c) {p : HandlerPackage}
    (member : p ∈ s.handlers.packages) : Path.StaysInside (handlerPath p.name) := by
  obtain ⟨whole, named⟩ := segments_of_package h member
  have joined : handlerPath p.name =
      handlersDirectory ++ "/" ++ (p.name ++ "/" ++ "generated.go") := by
    simp only [handlerPath_eq, handlerDirectory, String.append_assoc]
  have generated : ['.', '.'] ∉ Path.segments "generated.go" := by decide
  rw [joined, Path.staysInside_join_iff staysInside_handlersDirectory, Path.segments_join, whole]
  simp only [List.mem_append, List.mem_singleton, not_or]
  refine ⟨?_, generated⟩
  intro above
  exact named (above ▸ by decide)

private theorem liesIn_handlerPath (h : s.Compiled d c) {p : HandlerPackage}
    (member : p ∈ s.handlers.packages) :
    Path.LiesIn handlersDirectory (handlerDirectory p.name) ∧
      Path.LiesIn (handlerDirectory p.name) (handlerPath p.name) := by
  obtain ⟨whole, named⟩ := segments_of_package h member
  have nonempty : handlerDirectory p.name ≠ "" := by simp [handlerDirectory, handlersDirectory]
  constructor
  · obtain ⟨name, step⟩ := Path.exists_step?_eq_named.mpr named
    rw [handlerDirectory, Path.liesIn_join_iff (by decide), whole]
    exact ⟨name, by simp [step]⟩
  · rw [handlerPath_eq, Path.liesIn_join_iff nonempty]
    exact ⟨"generated.go", by decide⟩

private theorem staysInside_paths_iff (h : s.Compiled d c) :
    (∀ path ∈ s.paths, Path.StaysInside path) ↔ s.StaysBelow := by
  have fixed : ∀ path ∈ ["internal/data/dto/generated.go", "internal/rest/register/generated.go",
      "internal/errors/custom_generated.go"], Path.StaysInside path := by
    unfold Path.StaysInside
    decide
  simp only [List.forall_mem_cons] at fixed
  obtain ⟨times, register, errors, -⟩ := fixed
  have handlers (p : HandlerPackage) (member : p ∈ s.handlers.packages) :=
    staysInside_handlerPath h member
  simp only [paths, List.forall_mem_append, List.forall_mem_map, List.forall_mem_singleton,
    staysInside_groupPath_iff, staysInside_enumPath_iff]
  constructor
  · rintro ⟨⟨⟨⟨⟨-, groups⟩, enums⟩, -⟩, -⟩, -⟩
    exact ⟨groups, enums⟩
  · intro below
    exact ⟨⟨⟨⟨⟨times, below.groups⟩, below.enums⟩, handlers⟩, register⟩, fun _ _ => errors⟩

private theorem nodup_enumDirectories (different : (s.paths.map Path.steps).Nodup)
    (enums : ∀ e ∈ s.types.enums,
      (∀ segment ∈ (Path.segments e.package).dropLast, Path.Idle segment) ∧
        Path.lastSegment e.package ∉ [[], ['.'], ['.', '.']]) :
    (s.types.enums.map fun e => Path.steps (enumDirectory e.package)).Nodup := by
  have among : List.Sublist (s.types.enums.map fun e => enumPath e.package) s.paths := by
    simp only [paths, List.append_assoc]
    exact ((List.sublist_append_left _ _).trans (List.sublist_append_right _ _)).trans
      (List.sublist_append_right _ _)
  have own := different.sublist (among.map Path.steps)
  rw [List.map_map, List.nodup_iff_pairwise_ne, List.pairwise_map] at own
  rw [List.nodup_iff_pairwise_ne, List.pairwise_map]
  refine own.imp_of_mem ?_
  intro a b ha hb apart same
  have last := same
  rw [steps_enumDirectory (enums a ha).1 (enums a ha).2,
    steps_enumDirectory (enums b hb).1 (enums b hb).2] at last
  simp only [List.append_cancel_left_eq, List.cons.injEq, PathStep.named.injEq, and_true,
    String.ofList_inj] at last
  apply apart
  simp only [Function.comp_apply, steps_enumPath (enums a ha).1, steps_enumPath (enums b hb).1,
    same, last]

private theorem laidOut_iff (h : s.Compiled d c) (different : (s.paths.map Path.steps).Nodup) :
    s.LaidOut ↔ s.NamesNoDirectory := by
  constructor
  · intro laid
    exact ⟨fun g member => (liesIn_groupPath_iff g.name).mp (laid.groups g member),
      fun e member => (liesIn_enumPath_iff e.package).mp (laid.enums e member)⟩
  · intro plain
    exact {
      groups := fun g member => (liesIn_groupPath_iff g.name).mpr (plain.groups g member)
      enums := fun e member => (liesIn_enumPath_iff e.package).mpr (plain.enums e member)
      own := nodup_enumDirectories different plain.enums
      handlers := fun p member => liesIn_handlerPath h member }

private theorem NamesNoDirectory.staysBelow (h : s.NamesNoDirectory) : s.StaysBelow := by
  have idle {pieces : List (List Char)} (all : ∀ segment ∈ pieces, Path.Idle segment) :
      ['.', '.'] ∉ pieces := fun above => absurd (all _ above) (by simp [Path.Idle])
  constructor
  case groups => exact fun g member => idle (h.groups g member)
  case enums =>
    intro e member above
    obtain ⟨before, last⟩ := h.enums e member
    rw [← Path.dropLast_append_lastSegment, List.mem_append, List.mem_singleton] at above
    rcases above with above | above
    · exact idle before above
    · exact last (above ▸ by decide)

end Service

namespace Generation

variable {d : Document} {c : Context} {s : Service} {files : List Artifact}

private theorem paths_of_generate (h : (generate d c).result = .ok files) :
    ∃ s, (Service.ofDocument d c).result = .ok s ∧ (files.map (·.path)).Perm s.paths ∧
      (s.paths.map Path.steps).Nodup := by
  obtain ⟨s, rendered, compiled, written, arranged⟩ := exists_render_of_generate h
  obtain ⟨same, arranged⟩ := arrange_eq_ok.mp arranged
  have places : (files.map (·.path)).Perm s.paths := by
    have before := (same.map (·.path)).symm
    simpa [Function.comp_def, paths_of_render written] using before
  refine ⟨s, compiled, places, ?_⟩
  rw [← (places.map Path.steps).nodup_iff, List.map_map]
  exact (Artifact.arranged_iff.mp arranged).2

/-- The writer accepts all files of a service exactly if no group and no enumeration leads upwards,
and they lie in the directories of the layout exactly if none of them names a directory. -/
theorem accepted_iff_namesNoDirectory (h : (generate d c).result = .ok files) :
    ∃ s, (Service.ofDocument d c).result = .ok s ∧ (files.map (·.path)).Perm s.paths ∧
      ((∀ a ∈ files, Staging.Accepts a) ↔ s.StaysBelow) ∧
      ((∀ a ∈ files, Staging.Accepts a) ∧ s.LaidOut ↔ s.NamesNoDirectory) := by
  obtain ⟨s, compiled, places, different⟩ := paths_of_generate h
  have stages := Service.compiled_of_ofDocument compiled
  have accepted : (∀ a ∈ files, Staging.Accepts a) ↔ s.StaysBelow := by
    rw [← Service.staysInside_paths_iff stages]
    simp only [Staging.accepts_iff, ← places.mem_iff, List.forall_mem_map]
  refine ⟨s, compiled, places, accepted, ?_⟩
  rw [accepted, Service.laidOut_iff stages different]
  exact ⟨fun both => both.2, fun plain => ⟨plain.staysBelow, plain⟩⟩

private theorem exists_generate (valid : c.validate = .ok ())
    (compiled : (Service.ofDocument d c).result = .ok s)
    (different : (s.paths.map Path.steps).Nodup) : ∃ files, (generate d c).result = .ok files := by
  obtain ⟨rendered, written⟩ := exists_render (Service.handlers_supported compiled)
  rw [generate_of_render valid compiled written]
  rw [← steps_of_render written c.language.extension] at different
  rcases arrange_cases (rendered.map (Artifact.tidy c.language.extension)) with
    ⟨-, arranged⟩ | ⟨a, -, twice, -⟩
  · exact arranged
  · have once := List.nodup_iff_count_le_one.mp different a.steps
    omega

def placedDescription (group enumeration : String) : Json :=
  Description.assemble
    [("Batch", .object [("items", .object [("type", .string "string")]),
      ("type", .string "array"), ("x-group", .string group)]),
    (enumeration, .object [("enum", .array [.string "OPEN"]), ("type", .string "string")])]
    [("/tickets", .object [
      ("get", Description.generatedOperation "listTickets" "ticket" [])])] []

structure Places (root : Json) (d : Document) (c : Context) (s : Service) (paths : List String) :
    Prop where
  read : Description.read root = .ok d
  context : Context.ofDocument d .go (some "example.com/queue") = .ok c
  compiled : (Service.ofDocument d c).result = .ok s
  paths : s.paths = paths

/-- A dot before a slash adds nothing, so the group stays in the directory. -/
theorem accepted_iff_namesNoDirectory_dotted :
    ∃ d c s files, Places (placedDescription "./batch" "State") d c s
        ["internal/data/dto/generated.go", "internal/data/dto/./batch.go",
          "internal/data/dto/state/state.go", "internal/rest/handler/ticket/generated.go",
          "internal/rest/register/generated.go"] ∧
      (generate d c).result = .ok files ∧ (files.map (·.path)).Perm s.paths ∧
      ((∀ a ∈ files, Staging.Accepts a) ↔ s.StaysBelow) ∧
      ((∀ a ∈ files, Staging.Accepts a) ∧ s.LaidOut ↔ s.NamesNoDirectory) ∧
      (∀ a ∈ files, Staging.Accepts a) ∧ s.LaidOut := by
  have placed : ∃ d c s, Places (placedDescription "./batch" "State") d c s
        ["internal/data/dto/generated.go", "internal/data/dto/./batch.go",
          "internal/data/dto/state/state.go", "internal/rest/handler/ticket/generated.go",
          "internal/rest/register/generated.go"] ∧
      c.validate = .ok () ∧ s.types.groups.map (·.name) = ["./batch"] ∧
      s.types.enums.map (·.package) = ["state"] :=
    ⟨_, _, _, ⟨rfl, rfl, rfl, rfl⟩, rfl, rfl, rfl⟩
  obtain ⟨d, c, s, places, valid, groups, enums⟩ := placed
  have different : (s.paths.map Path.steps).Nodup := by
    rw [places.paths]
    decide +kernel
  obtain ⟨files, generated⟩ := exists_generate valid places.compiled different
  obtain ⟨_, compiled, same, accepted, laid⟩ := accepted_iff_namesNoDirectory generated
  cases places.compiled.symm.trans compiled
  have plain : s.NamesNoDirectory := by
    have named : ∀ name ∈ s.types.groups.map (·.name), ∀ segment ∈ (Path.segments name).dropLast,
        Path.Idle segment := by
      rw [groups]
      decide
    have packaged : ∀ package ∈ s.types.enums.map (·.package),
        (∀ segment ∈ (Path.segments package).dropLast, Path.Idle segment) ∧
          Path.lastSegment package ∉ [[], ['.'], ['.', '.']] := by
      rw [enums]
      decide
    exact ⟨List.forall_mem_map.mp named, List.forall_mem_map.mp packaged⟩
  exact ⟨d, c, s, files, places, generated, same, accepted, laid, laid.mpr plain⟩

/-- A group that leads upwards has a file without a destination, and so has a component that is
called like the directory above. -/
theorem not_accepted_upward :
    ∃ d c s files, Places (placedDescription "../batch" "..") d c s
        ["internal/data/dto/generated.go", "internal/data/dto/../batch.go",
          "internal/data/dto/../...go", "internal/rest/handler/ticket/generated.go",
          "internal/rest/register/generated.go"] ∧
      (generate d c).result = .ok files ∧
      (∀ path ∈ ["internal/data/dto/../batch.go", "internal/data/dto/../...go"],
        ∃ a ∈ files, a.path = path ∧ ∀ root, Staging.destination root a = .error (.outside path)) ∧
      ¬ s.LaidOut := by
  have placed : ∃ d c s, Places (placedDescription "../batch" "..") d c s
        ["internal/data/dto/generated.go", "internal/data/dto/../batch.go",
          "internal/data/dto/../...go", "internal/rest/handler/ticket/generated.go",
          "internal/rest/register/generated.go"] ∧
      c.validate = .ok () ∧ s.types.groups.map (·.name) = ["../batch"] :=
    ⟨_, _, _, ⟨rfl, rfl, rfl, rfl⟩, rfl, rfl⟩
  obtain ⟨d, c, s, places, valid, groups⟩ := placed
  have different : (s.paths.map Path.steps).Nodup := by
    rw [places.paths]
    decide +kernel
  obtain ⟨files, generated⟩ := exists_generate valid places.compiled different
  refine ⟨d, c, s, files, places, generated, ?_, ?_⟩
  · obtain ⟨_, compiled, same, -⟩ := paths_of_generate generated
    cases places.compiled.symm.trans compiled
    have leaves : ∀ path ∈ ["internal/data/dto/../batch.go", "internal/data/dto/../...go"],
        path ∈ s.paths ∧ ¬ Path.StaysInside path := by
      rw [places.paths]
      unfold Path.StaysInside
      decide
    intro path upward
    obtain ⟨among, leaves⟩ := leaves path upward
    obtain ⟨a, member, rfl⟩ := List.mem_map.mp (same.mem_iff.mpr among)
    exact ⟨a, member, rfl, Staging.destination_of_not_staysInside leaves⟩
  · intro laid
    have named : "../batch" ∈ s.types.groups.map (·.name) := by simp [groups]
    obtain ⟨g, member, name⟩ := List.mem_map.mp named
    have idle := (liesIn_groupPath_iff g.name).mp (laid.groups g member)
    rw [name] at idle
    exact absurd idle (by decide)

end Generation

end ApiScaffold
