import ApiScaffold.Go.View
import ApiScaffold.Proofs.Keyed
import ApiScaffold.Proofs.Resolution.Shapes
/-!
# Types in Go and their packages

The spelling of a type wraps one name, and a compiler asks for an import where that name is
qualified with a package. The import lists of the views are made from the dependencies of shapes;
here they are read off the spelled types.
-/
namespace ApiScaffold.Go

open ApiScaffold.Text

/-! ## Spelled types -/

/-- The package that declares a name, if it is not a name of the language. Enumerations whose names
differ in case only share one. -/
inductive Package where
  | predeclared
  | data
  | time
  | xml
  | enum (package : String)
  deriving DecidableEq

namespace Package

/-- What goes before a name of the package. Inside the package of the data types nothing goes
before the names of that package. -/
def qualifier (data : String) : Package → String
  | predeclared => ""
  | .data => data
  | time => "time."
  | xml => "xml."
  | enum package => package ++ "."

def ofDependency : Dependency → Package
  | .timestamp => time
  | .enum name => enum (lowerText name)

theorem ofDependency_ne_data (dependency : Dependency) : ofDependency dependency ≠ .data := by
  cases dependency <;> exact nofun

end Package

inductive TypeExpr where
  | name (package : Package) (ident : String)
  | pointer (target : TypeExpr)
  | list (element : TypeExpr)
  | map (element : TypeExpr)
  deriving DecidableEq

namespace TypeExpr

def text (data : String) : TypeExpr → String
  | name package ident => package.qualifier data ++ ident
  | pointer target => "*" ++ text data target
  | list element => "[]" ++ text data element
  | map element => "map[string]" ++ text data element

def package : TypeExpr → Package
  | name package _ => package
  | pointer target => target.package
  | list element => element.package
  | map element => element.package

def ofPrimitive : Primitive → TypeExpr
  | .string => name .predeclared "string"
  | .int32 => name .predeclared "int32"
  | .int64 => name .predeclared "int64"
  | .float32 => name .predeclared "float32"
  | .float64 => name .predeclared "float64"
  | .boolean => name .predeclared "bool"
  | .date => name .data "LocalDate"
  | .time => name .data "LocalTime"
  | .localDateTime => name .data "LocalDateTime"
  | .dateTime => name .time "Time"
  | .any => name .predeclared "interface\x7b\x7d"
  | .record => map (name .predeclared "interface\x7b\x7d")

def ofShape : Shape → TypeExpr
  | .primitive p => ofPrimitive p
  | .list element => list (ofShape element)
  | .map element => map (ofShape element)
  | .reference component => name .data component
  | .composed component => name .data component
  | .enum component => name (.enum (lowerText component)) component

theorem text_ofShape (data : String) (shape : Shape) :
    (ofShape shape).text data = typeName data shape := by
  induction shape with
  | primitive p => cases p <;> rfl
  | list element ih => exact congrArg ("[]" ++ ·) ih
  | map element ih => exact congrArg ("map[string]" ++ ·) ih
  | reference _ | composed _ | enum _ => rfl

theorem package_ofShape_eq_time {shape : Shape} :
    (ofShape shape).package = .time ↔ .timestamp ∈ shape.imports := by
  induction shape with
  | list element ih | map element ih => exact ih
  | primitive p => cases p <;> decide
  | _ => simp [ofShape, package, Shape.imports]

theorem package_ofShape_eq_enum {shape : Shape} {packageName : String} :
    (ofShape shape).package = .enum packageName ↔
      ∃ name, .enum name ∈ shape.imports ∧ lowerText name = packageName := by
  induction shape with
  | list element ih | map element ih => exact ih
  | primitive p => cases p <;> simp [ofShape, ofPrimitive, package, Shape.imports]
  | _ => simp [ofShape, package, Shape.imports]

theorem package_of_mem_imports {shape : Shape} {dependency : Dependency}
    (h : dependency ∈ shape.imports) : (ofShape shape).package = .ofDependency dependency := by
  cases dependency with
  | timestamp => exact package_ofShape_eq_time.mpr h
  | enum name => exact package_ofShape_eq_enum.mpr ⟨name, h, rfl⟩

theorem package_ofShape_eq_data {shape : Shape} :
    (ofShape shape).package = .data ↔ usesDataPackage shape = true := by
  induction shape with
  | list element ih | map element ih => exact ih
  | primitive p => cases p <;> decide
  | _ => simp [ofShape, package, usesDataPackage]

theorem package_ofShape_ne_xml (shape : Shape) : (ofShape shape).package ≠ .xml := by
  induction shape with
  | list element ih | map element ih => exact ih
  | primitive p => cases p <;> decide
  | _ => exact nofun

end TypeExpr

/-! ## Import lists -/

theorem mem_stdImportsOf {path : String} {dependencies : List Dependency} :
    path ∈ stdImportsOf dependencies ↔ path = "time" ∧ .timestamp ∈ dependencies := by
  by_cases there : Dependency.timestamp ∈ dependencies <;> simp [stdImportsOf, there]

theorem mem_enumImports {module path : String} {dependencies : List Dependency} :
    path ∈ enumImports module dependencies ↔
      ∃ name, .enum name ∈ dependencies ∧ path = enumImport module name := by
  constructor
  · intro member
    obtain ⟨dependency, there, found⟩ := List.mem_filterMap.mp member
    cases dependency with
    | enum name => exact ⟨name, there, (Option.some.inj found).symm⟩
    | timestamp => cases found
  · rintro ⟨name, there, rfl⟩
    exact List.mem_filterMap.mpr ⟨.enum name, there, rfl⟩

theorem mem_enumImports_shape {module path : String} {shape : Shape} :
    path ∈ enumImports module shape.imports ↔
      ∃ name, path = enumImport module name ∧
        (TypeExpr.ofShape shape).package = .enum (lowerText name) := by
  rw [mem_enumImports]
  constructor
  · rintro ⟨name, there, same⟩
    exact ⟨name, same, TypeExpr.package_of_mem_imports there⟩
  · rintro ⟨name, rfl, same⟩
    obtain ⟨other, there, same⟩ := TypeExpr.package_ofShape_eq_enum.mp same
    exact ⟨other, there, by rw [enumImport, enumImport, same]⟩

/-! ## Packages of the module -/

/-- A package of the module that a source can import. -/
inductive ModulePackage where
  | data
  | enum (package : String)
  | helper
  | service (package : String)

namespace ModulePackage

def place : ModulePackage → String
  | data => "/internal/data/dto"
  | enum package => "/internal/data/dto/" ++ package
  | helper => "/internal/rest/handler"
  | service package => "/internal/service/" ++ package

def path (module : String) (p : ModulePackage) : String := module ++ p.place

@[simp] theorem place_data : place data = "/internal/data/dto" := rfl

@[simp] theorem place_enum (package : String) :
    place (enum package) = "/internal/data/dto/" ++ package := rfl

@[simp] theorem place_helper : place helper = "/internal/rest/handler" := rfl

@[simp] theorem place_service (package : String) :
    place (service package) = "/internal/service/" ++ package := rfl

private theorem place_injective : Function.Injective place := by
  intro p q same
  have letters : p.place.toList = q.place.toList := congrArg String.toList same
  clear same
  cases p <;> cases q <;> simp_all [String.toList_inj]

@[simp] theorem path_inj {module : String} {p q : ModulePackage} :
    path module p = path module q ↔ p = q := by
  rw [path, path, String.append_right_inj, place_injective.eq_iff]

theorem dataImport_eq (module : String) : dataImport module = path module data := by
  rw [dataImport, path, place_data]

theorem helperImport_eq (module : String) : helperImport module = path module helper := by
  rw [helperImport, path, place_helper]

theorem enumImport_eq (module name : String) :
    enumImport module name = path module (enum (lowerText name)) := by
  rw [enumImport, path, place_enum, String.append_assoc]

theorem serviceImport_eq (module name : String) :
    module ++ "/internal/service/" ++ name = path module (service name) := by
  rw [path, place_service, String.append_assoc]

end ModulePackage

end ApiScaffold.Go
