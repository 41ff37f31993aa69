import Mathlib.Data.List.Nodup
import ApiScaffold.Proofs.Go.DataImports
import ApiScaffold.Proofs.Go.HandlerImports
import ApiScaffold.Proofs.Go.Sources
import ApiScaffold.Proofs.Paths
/-!
# Names of imported packages

A source refers to a package by the base name of the path that it imports it under, save for the
package of errors, which it renames. The names of handler packages and of enumerations come from the
description, and the others are fixed.
-/
namespace ApiScaffold.Go

open ApiScaffold.Text

/-! ## Imported packages -/

deriving instance DecidableEq for ModulePackage

def baseName (path : String) : String := String.ofList (Path.lastSegment path)

private theorem baseName_join (directory rest : String) :
    baseName (directory ++ "/" ++ rest) = baseName rest := by
  have last : Path.lastSegment (directory ++ "/" ++ rest) = Path.lastSegment rest := by
    simp only [Path.lastSegment, Path.segments_join]
    exact List.getLast_append_of_ne_nil _ (Path.segments_ne_nil rest)
  rw [baseName, last, baseName]

inductive StdPackage where
  | time
  | xml
  | http
  | json
  deriving DecidableEq

namespace StdPackage

def path : StdPackage → String
  | time => "time"
  | xml => "encoding/xml"
  | http => "net/http"
  | json => "encoding/json"

def name : StdPackage → String
  | time => "time"
  | xml => "xml"
  | http => "http"
  | json => "json"

private theorem path_inj {p q : StdPackage} : p.path = q.path ↔ p = q := by
  cases p <;> cases q <;> decide

private theorem baseName_path (p : StdPackage) : baseName p.path = p.name := by
  cases p <;> decide

end StdPackage

inductive Import where
  | std (package : StdPackage)
  | errors
  | module (package : ModulePackage)
  deriving DecidableEq

namespace Import

def path (root : String) : Import → String
  | std package => package.path
  | errors => root ++ "/internal/errors"
  | .module package => package.path root

def name : Import → String
  | std package => package.name
  | errors => "ngErrors"
  | .module .data => "dto"
  | .module .helper => "handler"
  | .module (.enum package) => baseName package
  | .module (.service package) => baseName package

private theorem place_eq_join (package : ModulePackage) :
    ∃ rest, package.place = "/internal/" ++ rest := by
  cases package with
  | data => exact ⟨"data/dto", by decide⟩
  | helper => exact ⟨"rest/handler", by decide⟩
  | enum package =>
    refine ⟨"data/dto/" ++ package, ?_⟩
    rw [ModulePackage.place_enum, ← String.append_assoc]
    rfl
  | service package =>
    refine ⟨"service/" ++ package, ?_⟩
    rw [ModulePackage.place_service, ← String.append_assoc]
    rfl

private theorem path_module_ne (root : String) (own : ModulePackage) (foreign : StdPackage) :
    own.path root ≠ foreign.path := by
  obtain ⟨rest, place⟩ := place_eq_join own
  have split : own.path root = root ++ "/" ++ ("internal" ++ "/" ++ rest) := by
    have slashes : "/internal/" = "/" ++ "internal" ++ "/" := by decide
    rw [ModulePackage.path, place, slashes]
    simp only [String.append_assoc]
  have inside : "internal".toList ∈ Path.segments (own.path root) := by
    rw [split, Path.segments_join, Path.segments_join]
    exact List.mem_append_right _ (List.mem_append_left _ (by decide))
  have outside : "internal".toList ∉ Path.segments foreign.path := by
    cases foreign <;> decide
  exact fun same => outside (same ▸ inside)

private theorem path_inj {root : String} {i j : Import} (hi : i ≠ errors) (hj : j ≠ errors) :
    i.path root = j.path root ↔ i = j := by
  cases i with
  | errors => exact absurd rfl hi
  | std p =>
    cases j with
    | errors => exact absurd rfl hj
    | std q => exact StdPackage.path_inj.trans (by simp)
    | module q => exact iff_of_false (path_module_ne root q p).symm nofun
  | module p =>
    cases j with
    | errors => exact absurd rfl hj
    | std q => exact iff_of_false (path_module_ne root p q) nofun
    | module q => exact ModulePackage.path_inj.trans (by simp)

private theorem baseName_path (root : String) {i : Import} (h : i ≠ errors) :
    baseName (i.path root) = i.name := by
  have under (directory rest : String) :
      baseName (root ++ (directory ++ "/" ++ rest)) = baseName rest := by
    rw [← String.append_assoc, ← String.append_assoc, baseName_join]
  cases i with
  | errors => exact absurd rfl h
  | std package => exact package.baseName_path
  | module package =>
    cases package with
    | data => exact (under "/internal/data" "dto").trans (by decide)
    | helper => exact (under "/internal/rest" "handler").trans (by decide)
    | enum package => exact under "/internal/data/dto" package
    | service package => exact under "/internal/service" package

def chosen : Import → Bool
  | .module (.enum _) | .module (.service _) => true
  | _ => false

def fixed : List Import :=
  [std .time, std .xml, std .http, std .json, errors, .module .data, .module .helper]

private theorem mem_fixed {i : Import} (h : i.chosen = false) : i ∈ fixed := by
  rcases i with (_ | _ | _ | _) | _ | (_ | _ | _ | _)
  all_goals first | decide | cases h

private theorem eq_of_name_eq {i j : Import} (hi : i.chosen = false) (hj : j.chosen = false)
    (same : i.name = j.name) : i = j := by
  have different : ∀ i ∈ fixed, ∀ j ∈ fixed, i.name = j.name → i = j := by decide
  exact different i (mem_fixed hi) j (mem_fixed hj) same

/-- No name that the description chooses is that of another package. -/
def Apart (imports : List Import) : Prop :=
  ∀ i ∈ imports, i.chosen = true → ∀ j ∈ imports, i.name = j.name → i = j

instance (imports : List Import) : Decidable (Apart imports) :=
  inferInstanceAs (Decidable
    (∀ i ∈ imports, i.chosen = true → ∀ j ∈ imports, i.name = j.name → i = j))

private theorem apart_iff {imports : List Import} :
    Apart imports ↔ ∀ i ∈ imports, ∀ j ∈ imports, i.name = j.name → i = j := by
  constructor
  · intro apart i hi j hj same
    cases own : i.chosen with
    | true => exact apart i hi own j hj same
    | false =>
      cases other : j.chosen with
      | true => exact (apart j hj other i hi same.symm).symm
      | false => exact eq_of_name_eq own other same
  · exact fun injective i hi _ j hj => injective i hi j hj

end Import

/-- The lists hold the paths of these packages, each once. -/
structure Lists (std module : Texts) (root : String) (imports : List Import) : Prop where
  stdOnce : std.Nodup
  moduleOnce : module.Nodup
  std (path : String) : path ∈ std ↔ ∃ p, Import.std p ∈ imports ∧ p.path = path
  module (path : String) : path ∈ module ↔ ∃ p, Import.module p ∈ imports ∧ p.path root = path

namespace Lists

variable {std module : Texts} {root : String} {imports : List Import}
  (h : Lists std module root imports)

include h

private theorem nodup : (std ++ module).Nodup := by
  refine List.nodup_append.mpr ⟨h.stdOnce, h.moduleOnce, ?_⟩
  intro a foreign b own same
  obtain ⟨p, -, rfl⟩ := (h.std a).mp foreign
  obtain ⟨q, -, rfl⟩ := (h.module b).mp own
  exact Import.path_module_ne root q p same.symm

private theorem mem_iff (path : String) :
    path ∈ std ++ module ↔ ∃ i ∈ imports, i ≠ .errors ∧ i.path root = path := by
  rw [List.mem_append, h.std, h.module]
  constructor
  · rintro (⟨p, member, rfl⟩ | ⟨p, member, rfl⟩) <;> exact ⟨_, member, nofun, rfl⟩
  · rintro ⟨i, member, own, rfl⟩
    cases i with
    | std p => exact .inl ⟨p, member, rfl⟩
    | errors => exact absurd rfl own
    | module p => exact .inr ⟨p, member, rfl⟩

private theorem nodup_baseNames_iff (foreign : Import.errors ∉ imports) :
    ((std ++ module).map baseName).Nodup ↔ Import.Apart imports := by
  have own {i : Import} (member : i ∈ imports) : i ≠ .errors := fun same => foreign (same ▸ member)
  rw [List.nodup_map_iff_inj_on h.nodup, Import.apart_iff]
  constructor
  · intro injective i hi j hj same
    have paths : i.path root = j.path root := by
      refine injective _ ((h.mem_iff _).mpr ⟨i, hi, own hi, rfl⟩) _
        ((h.mem_iff _).mpr ⟨j, hj, own hj, rfl⟩) ?_
      rw [Import.baseName_path root (own hi), Import.baseName_path root (own hj), same]
    exact (Import.path_inj (own hi) (own hj)).mp paths
  · intro injective a ha b hb same
    obtain ⟨i, hi, own, rfl⟩ := (h.mem_iff a).mp ha
    obtain ⟨j, hj, other, rfl⟩ := (h.mem_iff b).mp hb
    rw [Import.baseName_path root own, Import.baseName_path root other] at same
    rw [injective i hi j hj same]

private theorem nodup_cons_baseNames_iff (foreign : Import.errors ∉ imports) :
    ("ngErrors" :: (std ++ module).map baseName).Nodup ↔ Import.Apart (.errors :: imports) := by
  have taken : "ngErrors" ∈ (std ++ module).map baseName ↔
      ∃ i ∈ imports, i.name = Import.errors.name := by
    simp only [List.mem_map, h.mem_iff]
    constructor
    · rintro ⟨_, ⟨i, member, own, rfl⟩, same⟩
      rw [Import.baseName_path root own] at same
      exact ⟨i, member, same⟩
    · rintro ⟨i, member, same⟩
      have own : i ≠ .errors := fun equal => foreign (equal ▸ member)
      exact ⟨_, ⟨i, member, own, rfl⟩, (Import.baseName_path root own).trans same⟩
  rw [List.nodup_cons, h.nodup_baseNames_iff foreign, taken, Import.apart_iff, Import.apart_iff]
  constructor
  · rintro ⟨free, injective⟩ i hi j hj same
    rcases List.mem_cons.mp hi with rfl | hi
    · rcases List.mem_cons.mp hj with rfl | hj
      · rfl
      · exact absurd ⟨j, hj, same.symm⟩ free
    · rcases List.mem_cons.mp hj with rfl | hj
      · exact absurd ⟨i, hi, same⟩ free
      · exact injective i hi j hj same
  · intro injective
    refine ⟨?_, fun i hi j hj => ?_⟩
    · rintro ⟨i, hi, same⟩
      have equal := injective i (List.mem_cons_of_mem _ hi) _ List.mem_cons_self same
      exact foreign (equal ▸ hi)
    · exact injective i (List.mem_cons_of_mem _ hi) j (List.mem_cons_of_mem _ hj)

end Lists

end ApiScaffold.Go

/-! ## Imports of groups -/

namespace ApiScaffold.Group

open ApiScaffold.Go ApiScaffold.Text

def imported (g : Group) : List Import :=
  g.dependencies.map (fun
    | .timestamp => .std .time
    | .enum name => .module (.enum (lowerText name))) ++
  if g.records.any (·.xmlRoot.isSome) then [.std .xml] else []

private theorem mem_imported {g : Group} {i : Import} : i ∈ g.imported ↔
    (i = .std .time ∧ .timestamp ∈ g.dependencies) ∨
      (∃ name, .enum name ∈ g.dependencies ∧ i = .module (.enum (lowerText name))) ∨
      (i = .std .xml ∧ ∃ r ∈ g.records, r.xmlRoot.isSome) := by
  have bound : i ∈ (if g.records.any (·.xmlRoot.isSome) then [Import.std .xml] else []) ↔
      i = .std .xml ∧ ∃ r ∈ g.records, r.xmlRoot.isSome := by
    rw [List.mem_ite_nil_right, List.mem_singleton, List.any_eq_true, and_comm]
  rw [imported, List.mem_append, bound, List.mem_map, ← or_assoc]
  refine or_congr_left ⟨?_, ?_⟩
  · rintro ⟨dependency, needed, rfl⟩
    cases dependency with
    | timestamp => exact .inl ⟨rfl, needed⟩
    | enum name => exact .inr ⟨name, needed, rfl⟩
  · rintro (⟨rfl, needed⟩ | ⟨name, needed, rfl⟩)
    · exact ⟨_, needed, rfl⟩
    · exact ⟨_, needed, rfl⟩

private theorem errors_notMem_imported (g : Group) : Import.errors ∉ g.imported := by
  simp [mem_imported]

end ApiScaffold.Group

namespace ApiScaffold.Go

open ApiScaffold.Text

private theorem GroupView.lists (root : String) (g : Group) :
    Lists (ofGroup root g).stdImports (ofGroup root g).moduleImports root g.imported where
  stdOnce := (Texts.increasing_ofList _).imp ne_of_lt
  moduleOnce := (Texts.increasing_ofList _).imp ne_of_lt
  std path := by
    simp only [mem_stdImports, Group.mem_imported]
    constructor
    · rintro (⟨rfl, needed⟩ | ⟨rfl, bound⟩)
      · exact ⟨.time, .inl ⟨rfl, needed⟩, rfl⟩
      · exact ⟨.xml, .inr (.inr ⟨rfl, bound⟩), rfl⟩
    · rintro ⟨p, ⟨same, needed⟩ | ⟨name, -, same⟩ | ⟨same, bound⟩, rfl⟩
      · cases same
        exact .inl ⟨rfl, needed⟩
      · cases same
      · cases same
        exact .inr ⟨rfl, bound⟩
  module path := by
    simp only [mem_moduleImports, Group.mem_imported, ModulePackage.enumImport_eq]
    constructor
    · rintro ⟨name, needed, rfl⟩
      exact ⟨_, .inr (.inl ⟨name, needed, rfl⟩), rfl⟩
    · rintro ⟨p, ⟨same, -⟩ | ⟨name, needed, same⟩ | ⟨same, -⟩, rfl⟩
      · cases same
      · cases same
        exact ⟨name, needed, rfl⟩
      · cases same

def GroupView.importNames (view : GroupView) : List String :=
  (view.stdImports ++ view.moduleImports).map baseName

theorem GroupView.nodup_importNames_iff (root : String) (g : Group) :
    (ofGroup root g).importNames.Nodup ↔ Import.Apart g.imported :=
  (lists root g).nodup_baseNames_iff g.errors_notMem_imported

end ApiScaffold.Go

/-! ## Imports of handlers -/

namespace ApiScaffold

open Go Text

/-- The handler takes a parameter, validates its body or answers with a document or a page. -/
def HandlerPlan.usesHelper (plan : HandlerPlan) : Bool :=
  !plan.extractions.isEmpty ||
    plan.body.any (fun body => (BodyView.ofDecode body).validate ≠ .none) ||
    (answerOf plan.response).1 ≠ .status

/-- The package that has to be imported for the names of a package. -/
def Go.Package.import? : Package → Option Import
  | .predeclared => none
  | .data => some (.module .data)
  | .time => some (.std .time)
  | .xml => some (.std .xml)
  | .enum package => some (.module (.enum package))

/-- What the source of the handlers imports besides the package of errors. -/
def HandlerPackage.imported (p : HandlerPackage) : List Import :=
  [.std .http, .module (.service p.name)] ++ (if p.bodies.isEmpty then [] else [.std .json]) ++
    p.bodies.filterMap (fun body => (BodyDeclaration.ofDecode body).package.import?) ++
    if p.handlers.any (·.usesHelper) then [.module .helper] else []

end ApiScaffold

namespace ApiScaffold.Go

open ApiScaffold.Text

theorem usesHelper_iff {plan : HandlerPlan} {view : HandlerView}
    (h : HandlerView.ofPlan plan = .ok view) : plan.usesHelper = true ↔ view.UsesHelper := by
  obtain ⟨views, spelled, h⟩ := Outcome.bind_eq_ok.mp h
  cases h
  have same : views = [] ↔ plan.extractions = [] := by
    have lengths := (Outcome.mapM_eq_ok.mp spelled).length_eq
    rw [← List.length_eq_zero_iff, ← List.length_eq_zero_iff, lengths]
  cases response : plan.response <;> cases body : plan.body <;>
    simp [HandlerPlan.usesHelper, HandlerView.UsesHelper, answerOf, response, body, same]

private theorem HandlerPackageView.usesHelper_iff {root : String} {p : HandlerPackage}
    {view : HandlerPackageView} (h : ofPackage root p = .ok view) :
    p.handlers.any (·.usesHelper) = true ↔ ∃ h ∈ view.handlers, h.UsesHelper := by
  have spelled := handlers_of_ofPackage h
  rw [List.any_eq_true]
  constructor
  · rintro ⟨plan, member, uses⟩
    obtain ⟨handler, inside, viewed⟩ := Outcome.right_of_mem spelled member
    exact ⟨handler, inside, (Go.usesHelper_iff viewed).mp uses⟩
  · rintro ⟨handler, inside, uses⟩
    obtain ⟨plan, member, viewed⟩ := Outcome.left_of_mem spelled inside
    exact ⟨plan, member, (Go.usesHelper_iff viewed).mpr uses⟩

private theorem BodyDeclaration.package_cases (body : BodyDecode) :
    (BodyDeclaration.ofDecode body).package = .data ∨
      ∃ type, body = .value type ∧
        (BodyDeclaration.ofDecode body).package = (TypeExpr.ofShape type.shape).package := by
  cases body with
  | record | recordList => exact .inl rfl
  | value type => exact .inr ⟨type, rfl, rfl⟩

end ApiScaffold.Go

namespace ApiScaffold.HandlerPackage

open Go Text

variable {p : HandlerPackage}

private theorem mem_imported {i : Import} : i ∈ p.imported ↔
    i = .std .http ∨ i = .module (.service p.name) ∨ (i = .std .json ∧ p.bodies ≠ []) ∨
      (∃ package, p.Spells package ∧ package.import? = some i) ∨
      (i = .module .helper ∧ p.handlers.any (·.usesHelper) = true) := by
  have decodes : i ∈ (if p.bodies.isEmpty then [] else [Import.std .json]) ↔
      i = .std .json ∧ p.bodies ≠ [] := by
    rw [List.mem_ite_nil_left, List.mem_singleton, List.isEmpty_iff, and_comm]
  have spelled : i ∈ p.bodies.filterMap
        (fun body => (BodyDeclaration.ofDecode body).package.import?) ↔
      ∃ package, p.Spells package ∧ package.import? = some i := by
    simp only [List.mem_filterMap, Spells]
    constructor
    · rintro ⟨body, member, same⟩
      exact ⟨_, ⟨body, member, rfl⟩, same⟩
    · rintro ⟨_, ⟨body, member, rfl⟩, same⟩
      exact ⟨body, member, same⟩
  rw [imported, List.mem_append, List.mem_append, List.mem_append, decodes, spelled,
    List.mem_ite_nil_right, List.mem_singleton, List.mem_cons, List.mem_singleton]
  simp only [or_assoc, and_comm]

private theorem errors_notMem_imported (p : HandlerPackage) :
    Import.errors ∉ p.imported := by
  rw [mem_imported]
  rintro (same | same | ⟨same, -⟩ | ⟨package, -, same⟩ | ⟨same, -⟩)
  case inr.inr.inr.inl => cases package <;> cases same
  all_goals cases same

private theorem not_spells_xml : ¬ p.Spells .xml := by
  rintro ⟨body, -, spells⟩
  rcases BodyDeclaration.package_cases body with data | ⟨type, -, same⟩
  · cases data.symm.trans spells
  · exact TypeExpr.package_ofShape_ne_xml type.shape (same.symm.trans spells)

private theorem exists_lowerText_of_spells {package : String} (h : p.Spells (.enum package)) :
    ∃ name, lowerText name = package := by
  obtain ⟨body, -, spells⟩ := h
  rcases BodyDeclaration.package_cases body with data | ⟨type, -, same⟩
  · cases data.symm.trans spells
  · obtain ⟨name, -, lower⟩ := TypeExpr.package_ofShape_eq_enum.mp (same.symm.trans spells)
    exact ⟨name, lower⟩

end ApiScaffold.HandlerPackage

namespace ApiScaffold.Go

open ApiScaffold.Text

private theorem HandlerPackageView.lists {root : String} {p : HandlerPackage}
    {view : HandlerPackageView} (h : ofPackage root p = .ok view) :
    Lists view.stdImports view.moduleImports root p.imported where
  stdOnce := by
    obtain ⟨_, -, h⟩ := Outcome.bind_eq_ok.mp h
    cases h
    exact (Texts.increasing_ofList _).imp ne_of_lt
  moduleOnce := by
    obtain ⟨_, -, h⟩ := Outcome.bind_eq_ok.mp h
    cases h
    exact (Texts.increasing_ofList _).imp ne_of_lt
  std path := by
    simp only [mem_stdImports h, HandlerPackage.mem_imported]
    constructor
    · rintro (rfl | ⟨rfl, some⟩ | ⟨rfl, spells⟩)
      · exact ⟨.http, .inl rfl, rfl⟩
      · exact ⟨.json, .inr (.inr (.inl ⟨rfl, some⟩)), rfl⟩
      · exact ⟨.time, .inr (.inr (.inr (.inl ⟨_, spells, rfl⟩))), rfl⟩
    · rintro ⟨q, same | same | ⟨same, some⟩ | ⟨package, spells, same⟩ | ⟨same, -⟩, rfl⟩
      · cases same
        exact .inl rfl
      · cases same
      · cases same
        exact .inr (.inl ⟨rfl, some⟩)
      · cases package with
        | predeclared | data | enum => cases same
        | time =>
          cases same
          exact .inr (.inr ⟨rfl, spells⟩)
        | xml => exact absurd spells HandlerPackage.not_spells_xml
      · cases same
  module path := by
    rw [mem_moduleImports h, ← exists_usesHelper_iff, ← usesHelper_iff h]
    simp only [HandlerPackage.mem_imported, ModulePackage.dataImport_eq,
      ModulePackage.helperImport_eq, ModulePackage.enumImport_eq, ModulePackage.serviceImport_eq]
    constructor
    · rintro (rfl | ⟨rfl, spells⟩ | ⟨rfl, uses⟩ | ⟨name, rfl, spells⟩)
      · exact ⟨_, .inr (.inl rfl), rfl⟩
      · exact ⟨_, .inr (.inr (.inr (.inl ⟨_, spells, rfl⟩))), rfl⟩
      · exact ⟨_, .inr (.inr (.inr (.inr ⟨rfl, uses⟩))), rfl⟩
      · exact ⟨_, .inr (.inr (.inr (.inl ⟨_, spells, rfl⟩))), rfl⟩
    · rintro ⟨q, same | same | ⟨same, -⟩ | ⟨package, spells, same⟩ | ⟨same, uses⟩, rfl⟩
      · cases same
      · cases same
        exact .inl rfl
      · cases same
      · cases package with
        | predeclared | time | xml => cases same
        | data =>
          cases same
          exact .inr (.inl ⟨rfl, spells⟩)
        | enum package =>
          cases same
          obtain ⟨name, rfl⟩ := HandlerPackage.exists_lowerText_of_spells spells
          exact .inr (.inr (.inr ⟨name, rfl, spells⟩))
      · cases same
        exact .inr (.inr (.inl ⟨rfl, uses⟩))

/-- The package of errors is imported under another name. -/
def HandlerPackageView.importNames (view : HandlerPackageView) : List String :=
  "ngErrors" :: (view.stdImports ++ view.moduleImports).map baseName

theorem HandlerPackageView.nodup_importNames_iff {root : String} {p : HandlerPackage}
    {view : HandlerPackageView} (h : ofPackage root p = .ok view) :
    view.importNames.Nodup ↔ Import.Apart (.errors :: p.imported) :=
  (lists h).nodup_cons_baseNames_iff p.errors_notMem_imported

end ApiScaffold.Go
