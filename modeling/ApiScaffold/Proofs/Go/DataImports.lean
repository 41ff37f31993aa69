import ApiScaffold.Go.Source
import ApiScaffold.Proofs.Description.Assembly
import ApiScaffold.Proofs.Go.Enumerations
import ApiScaffold.Proofs.Go.Types
import ApiScaffold.Proofs.Partition
import ApiScaffold.Proofs.Service.Compilation
/-!
# Imports of data types in Go

A group of records has one source, which declares the types of its records and their getters. The
imports of that source come from all types of the records, those that no declaration spells among
them. So nothing is missing, but an import can be without use.
-/
namespace ApiScaffold.Go

/-! ## Repeated texts -/

private theorem each_append {α : Type} (first second : List α) (text : α → String) :
    each (first ++ second) text = each first text ++ each second text := by
  rw [each, List.map_append, String.join_append]
  rfl

theorem each_congr {α : Type} {items : List α} {text text' : α → String}
    (same : ∀ item ∈ items, text item = text' item) : each items text = each items text' := by
  rw [each, List.map_congr_left same]
  rfl

theorem each_cons {α : Type} (item : α) (items : List α) (text : α → String) :
    each (item :: items) text = text item ++ each items text := by
  rw [each, List.map_cons, String.join_cons]
  rfl

/-! ## Declarations -/

/-- The spelling of a type inside of the package of the data types. -/
def TypeExpr.inside (type : TypeExpr) : String := type.text ""

inductive Member where
  | embedded (type : TypeExpr)
  | named (ident : String) (type : TypeExpr) (tag : String)

namespace Member

def text : Member → String
  | embedded type => s!"\n\t{type.inside}"
  | named ident type tag => s!"\n\t{ident} {type.inside} `{tag}`"

def type : Member → TypeExpr
  | embedded type => type
  | named _ type _ => type

def ofField (xmlBound : Bool) (f : Field) : Member :=
  let value := TypeExpr.ofShape f.type.shape
  if f.embedded then embedded value
  else named f.ident (if f.type.nullable then .pointer value else value) (structTag f xmlBound)

def ofXmlRoot (root : XmlRoot) : Option Member :=
  let name := qualifiedXmlName root.nsPrefix root.name
  if name = "" then none else some (named "XMLName" (.name .xml "Name") s!"xml:\"{name}\"")

end Member

inductive Declaration where
  | renamed (name : String) (type : TypeExpr)
  | struct (name : String) (members : List Member)
  | getter (receiver record ident : String) (value : TypeExpr) (pointer : Bool)

namespace Declaration

def text : Declaration → String
  | renamed name type => s!"\ntype {name} {type.inside}"
  | struct name members => s!"\ntype {name} struct \x7b" ++ each members Member.text ++ "\n\x7d"
  | getter receiver record ident value pointer =>
    let member := s!"{receiver}.{ident}"
    s!"\n\nfunc ({receiver} {record}) Get{ident}() {value.inside} \x7b" ++
      (if pointer then
        s!"\n\tif {member} == nil \x7b\n\t\tvar zero {value.inside}\n\t\treturn zero\n\t\x7d" ++
          s!"\n\treturn *{member}"
      else s!"\n\treturn {member}") ++
      "\n\x7d"

@[simp] theorem text_renamed (name : String) (type : TypeExpr) :
    (renamed name type).text = s!"\ntype {name} {type.inside}" := rfl

@[simp] theorem text_struct (name : String) (members : List Member) :
    (struct name members).text =
      s!"\ntype {name} struct \x7b" ++ each members Member.text ++ "\n\x7d" := rfl

def types : Declaration → List TypeExpr
  | renamed _ type => [type]
  | struct _ members => members.map Member.type
  | getter _ record _ value _ => [.name .data record, value]

def getterOf (r : Record) (f : Field) : Declaration :=
  getter (Naming.localName (Naming.lowerFirstLetter r.name)) r.name f.ident
    (.ofShape f.type.shape) f.type.nullable

/-- The declarations of a record. An alias stands for everything else that the record has. -/
def ofRecord (r : Record) : List Declaration :=
  match r.aliasOf with
  | some type => [renamed r.name (.ofShape type.shape)]
  | none =>
    struct r.name ((r.xmlRoot.bind Member.ofXmlRoot).toList ++
      r.fields.map (Member.ofField r.xmlRoot.isSome)) ::
    (r.fields.filter (!·.embedded)).map (getterOf r)

end Declaration

private theorem fieldLine_ofField (xmlBound : Bool) (f : Field) :
    fieldLine (.ofField xmlBound f) = (Member.ofField xmlBound f).text := by
  cases embedded : f.embedded <;> cases nullable : f.type.nullable <;>
    simp [fieldLine, FieldView.ofField, Member.ofField, Member.text, TypeExpr.inside,
      TypeExpr.text, TypeExpr.text_ofShape, embedded, nullable]

private theorem getter_ofField (r : Record) {f : Field} (own : f.embedded = false) :
    getter (.ofRecord r) (.ofField r.xmlRoot.isSome f) = (Declaration.getterOf r f).text := by
  unfold getter Declaration.getterOf Declaration.text
  simp only [FieldView.ofField, RecordView.ofRecord, TypeExpr.inside, TypeExpr.text_ofShape, own,
    Bool.not_false, Bool.and_true]

private theorem xmlLine_ofRecord (root : Option XmlRoot) :
    (match root.map fun root => qualifiedXmlName root.nsPrefix root.name with
      | some name => onlyIf (name ≠ "") s!"\n\tXMLName xml.Name `xml:\"{name}\"`"
      | none => "") = each (root.bind Member.ofXmlRoot).toList Member.text := by
  have opening (rest : String) :
      "\n\t" ++ ("XMLName" ++ (" " ++ ("xml." ++ ("Name" ++ (" `" ++ ("xml:\"" ++ rest)))))) =
        "\n\tXMLName xml.Name `xml:\"" ++ rest := by
    simp only [← String.append_assoc]
    rfl
  have closing : "\"" ++ "`" = "\"`" := by decide
  cases root with
  | none => rfl
  | some root =>
    by_cases unnamed : qualifiedXmlName root.nsPrefix root.name = ""
    · simp [Member.ofXmlRoot, unnamed, each, onlyIf]
    · have shown (s : String) : toString s = s := rfl
      simp only [Option.map_some, Option.bind_some, Member.ofXmlRoot, unnamed, if_false,
        Option.toList_some, each_cons, onlyIf, Member.text, TypeExpr.inside, TypeExpr.text,
        Package.qualifier, shown, String.append_assoc, opening, closing]
      simp [each, unnamed]

def declaredText (r : Record) : String :=
  "\n" ++ each (commentLines r.description) commentLine ++
    each (Declaration.ofRecord r) Declaration.text ++ "\n"

theorem recordText_ofRecord (r : Record) : recordText (.ofRecord r) = declaredText r := by
  unfold recordText declaredText Declaration.ofRecord
  cases named : r.aliasOf with
  | some type =>
    simp only [RecordView.ofRecord, named, Option.map_some, ← TypeExpr.text_ofShape]
    simp [each, TypeExpr.inside]
  | none =>
    have members : each (RecordView.ofRecord r).fields fieldLine =
        each (r.fields.map (Member.ofField r.xmlRoot.isSome)) Member.text := by
      rw [RecordView.ofRecord, each_map, each_map]
      exact each_congr fun f _ => fieldLine_ofField _ f
    have getters :
        each ((RecordView.ofRecord r).fields.filter (!·.embedded)) (getter (.ofRecord r)) =
          each ((r.fields.filter (!·.embedded)).map (Declaration.getterOf r)) Declaration.text := by
      rw [RecordView.ofRecord, List.filter_map, each_map, each_map]
      refine each_congr fun f own => getter_ofField r ?_
      simpa [FieldView.ofField] using (List.mem_filter.mp own).2
    have heading : structText (.ofRecord r) =
        (Declaration.struct r.name ((r.xmlRoot.bind Member.ofXmlRoot).toList ++
          r.fields.map (Member.ofField r.xmlRoot.isSome))).text ++
        each ((RecordView.ofRecord r).fields.filter (!·.embedded)) (getter (.ofRecord r)) := by
      unfold structText
      rw [members, Declaration.text_struct, each_append, ← xmlLine_ofRecord]
      simp only [String.append_assoc]
      rfl
    simp only [each_cons, ← getters, ← heading]
    simp only [RecordView.ofRecord, named, Option.map_none]

private theorem groupText_ofGroup (module : String) (g : Group) :
    groupText (.ofGroup module g) =
      header ++ "package dto\n" ++ groupImports (.ofGroup module g) ++
        each g.records declaredText ++ "\n" := by
  have records : each (GroupView.ofGroup module g).records recordText =
      each g.records declaredText := by
    rw [GroupView.ofGroup, each_map]
    exact each_congr fun r _ => recordText_ofRecord r
  unfold groupText
  rw [records]

/-! ## Packages that declarations spell -/

namespace Declaration

def Spells (d : Declaration) (p : Package) : Prop := ∃ type ∈ d.types, type.package = p

instance (d : Declaration) (p : Package) : Decidable (d.Spells p) :=
  inferInstanceAs (Decidable (∃ type ∈ d.types, type.package = p))

private theorem spells_renamed {name : String} {type : TypeExpr} {p : Package} :
    (renamed name type).Spells p ↔ type.package = p := by
  simp [Spells, types]

private theorem spells_struct {name : String} {members : List Member} {p : Package} :
    (struct name members).Spells p ↔ ∃ m ∈ members, m.type.package = p := by
  simp [Spells, types]

private theorem spells_getterOf {r : Record} {f : Field} {p : Package} (foreign : p ≠ .data) :
    (getterOf r f).Spells p ↔ (TypeExpr.ofShape f.type.shape).package = p := by
  simp [Spells, types, getterOf, TypeExpr.package, foreign.symm]

end Declaration

@[simp] theorem Member.package_ofField (xmlBound : Bool) (f : Field) :
    (Member.ofField xmlBound f).type.package = (TypeExpr.ofShape f.type.shape).package := by
  simp only [Member.ofField]
  split
  · rfl
  · split <;> rfl

private theorem Member.exists_ofXmlRoot_iff {root : Option XmlRoot} {p : Package} :
    (∃ m ∈ (root.bind Member.ofXmlRoot).toList, m.type.package = p) ↔
      p = .xml ∧ ∃ given ∈ root, qualifiedXmlName given.nsPrefix given.name ≠ "" := by
  cases root with
  | none => simp
  | some root =>
    by_cases unnamed : qualifiedXmlName root.nsPrefix root.name = ""
    · simp [ofXmlRoot, unnamed]
    · simpa [ofXmlRoot, unnamed, type, TypeExpr.package] using eq_comm

end ApiScaffold.Go

namespace ApiScaffold.Record

open ApiScaffold.Go

def Spells (r : Record) (p : Package) : Prop := ∃ d ∈ Declaration.ofRecord r, d.Spells p

instance (r : Record) (p : Package) : Decidable (r.Spells p) :=
  inferInstanceAs (Decidable (∃ d ∈ Declaration.ofRecord r, d.Spells p))

def printed (r : Record) : List Shape :=
  match r.aliasOf with
  | some type => [type.shape]
  | none => r.fields.map (·.type.shape)

def PrintsXmlName (r : Record) : Prop :=
  r.aliasOf = none ∧ ∃ root ∈ r.xmlRoot, qualifiedXmlName root.nsPrefix root.name ≠ ""

instance (r : Record) : Decidable r.PrintsXmlName :=
  inferInstanceAs (Decidable
    (r.aliasOf = none ∧ ∃ root ∈ r.xmlRoot, qualifiedXmlName root.nsPrefix root.name ≠ ""))

private theorem spells_iff {r : Record} {p : Package} (foreign : p ≠ .data) :
    r.Spells p ↔ (∃ shape ∈ r.printed, (TypeExpr.ofShape shape).package = p) ∨
      (p = .xml ∧ r.PrintsXmlName) := by
  unfold Spells Declaration.ofRecord printed PrintsXmlName
  cases r.aliasOf with
  | some type => simp [Declaration.spells_renamed]
  | none =>
    simp only [true_and, ← Member.exists_ofXmlRoot_iff]
    constructor
    · rintro ⟨declaration, among, spells⟩
      rcases List.mem_cons.mp among with rfl | among
      · obtain ⟨m, among, same⟩ := Declaration.spells_struct.mp spells
        rcases List.mem_append.mp among with named | among
        · exact .inr ⟨m, named, same⟩
        · obtain ⟨f, own, rfl⟩ := List.mem_map.mp among
          rw [Member.package_ofField] at same
          exact .inl ⟨_, List.mem_map_of_mem own, same⟩
      · obtain ⟨f, own, rfl⟩ := List.mem_map.mp among
        have same := (Declaration.spells_getterOf foreign).mp spells
        exact .inl ⟨_, List.mem_map_of_mem (List.mem_of_mem_filter own), same⟩
    · rintro (⟨shape, among, same⟩ | ⟨m, named, same⟩)
      · obtain ⟨f, own, rfl⟩ := List.mem_map.mp among
        rw [← Member.package_ofField r.xmlRoot.isSome] at same
        exact ⟨_, List.mem_cons_self, Declaration.spells_struct.mpr
          ⟨_, List.mem_append_right _ (List.mem_map_of_mem own), same⟩⟩
      · exact ⟨_, List.mem_cons_self, Declaration.spells_struct.mpr
          ⟨m, List.mem_append_left _ named, same⟩⟩

private theorem mem_imports_iff_printed {r : Record} {dependency : Dependency} :
    dependency ∈ r.imports ↔ (∃ shape ∈ r.printed, dependency ∈ shape.imports) ∨
      (r.aliasOf.isSome ∧ ∃ f ∈ r.fields, dependency ∈ f.type.imports) := by
  rw [mem_imports, printed]
  cases r.aliasOf with
  | none => simp [ResolvedType.imports]
  | some type => simp [ResolvedType.imports, or_comm]

end ApiScaffold.Record

/-! ## Import lists of groups -/

namespace ApiScaffold.Group

open ApiScaffold.Go

def Spells (g : Group) (p : Package) : Prop := ∃ r ∈ g.records, r.Spells p

instance (g : Group) (p : Package) : Decidable (g.Spells p) :=
  inferInstanceAs (Decidable (∃ r ∈ g.records, r.Spells p))

/-- What the file of the group has to import only for a part of a record that stays unprinted, a
field beside an alias or the name of a root element, it imports for another declaration too. -/
structure SpellsUnprinted (g : Group) : Prop where
  fields : ∀ r ∈ g.records, r.aliasOf.isSome → ∀ f ∈ r.fields,
    ∀ dependency ∈ f.type.imports, g.Spells (.ofDependency dependency)
  root : ∀ r ∈ g.records, r.xmlRoot.isSome → ∃ printed ∈ g.records, printed.PrintsXmlName

instance (g : Group) : Decidable g.SpellsUnprinted :=
  decidable_of_iff
    ((∀ r ∈ g.records, r.aliasOf.isSome → ∀ f ∈ r.fields,
        ∀ dependency ∈ f.type.imports, g.Spells (.ofDependency dependency)) ∧
      ∀ r ∈ g.records, r.xmlRoot.isSome → ∃ printed ∈ g.records, printed.PrintsXmlName)
    ⟨fun h => ⟨h.1, h.2⟩, fun h => ⟨h.fields, h.root⟩⟩

variable {g : Group}

private theorem spells_of_printed {r : Record} (member : r ∈ g.records) {shape : Shape}
    (there : shape ∈ r.printed) {dependency : Dependency} (needed : dependency ∈ shape.imports) :
    g.Spells (.ofDependency dependency) :=
  ⟨r, member, (Record.spells_iff (Package.ofDependency_ne_data dependency)).mpr
    (.inl ⟨shape, there, TypeExpr.package_of_mem_imports needed⟩)⟩

private theorem spells_xml_iff : g.Spells .xml ↔ ∃ r ∈ g.records, r.PrintsXmlName := by
  simp [Spells, Record.spells_iff, TypeExpr.package_ofShape_ne_xml]

end ApiScaffold.Group

namespace ApiScaffold.Go.GroupView

open ApiScaffold.Text

variable {module path : String} {g : Group}

structure ImportsAll (view : GroupView) (module : String) (g : Group) : Prop where
  time : g.Spells .time → "time" ∈ view.stdImports
  xml : g.Spells .xml → "encoding/xml" ∈ view.stdImports
  enum : ∀ name, g.Spells (.enum (lowerText name)) → enumImport module name ∈ view.moduleImports

structure ImportsOnly (view : GroupView) (module : String) (g : Group) : Prop where
  std : ∀ path ∈ view.stdImports,
    (path = "time" ∧ g.Spells .time) ∨ (path = "encoding/xml" ∧ g.Spells .xml)
  module : ∀ path ∈ view.moduleImports,
    ∃ name, path = enumImport module name ∧ g.Spells (.enum (lowerText name))

theorem mem_stdImports : path ∈ (ofGroup module g).stdImports ↔
    (path = "time" ∧ .timestamp ∈ g.dependencies) ∨
      (path = "encoding/xml" ∧ ∃ r ∈ g.records, r.xmlRoot.isSome) := by
  rw [ofGroup, Texts.mem_ofList, List.mem_append, mem_stdImportsOf]
  by_cases bound : g.records.any (·.xmlRoot.isSome) = true
  · simp [List.any_eq_true.mp bound, bound]
  · simp only [bound]
    simp only [List.any_eq_true] at bound
    simp [bound]

theorem mem_moduleImports : path ∈ (ofGroup module g).moduleImports ↔
    ∃ name, .enum name ∈ g.dependencies ∧ path = enumImport module name := by
  rw [ofGroup, Texts.mem_ofList, mem_enumImports]

section Collected

variable (collected : ∀ dependency, dependency ∈ g.dependencies ↔
  ∃ r ∈ g.records, dependency ∈ r.imports)

include collected

private theorem importsAll_ofGroup : (ofGroup module g).ImportsAll module g := by
  have needed {r : Record} (member : r ∈ g.records) {shape : Shape} (there : shape ∈ r.printed)
      {dependency : Dependency} (among : dependency ∈ shape.imports) :
      dependency ∈ g.dependencies :=
    (collected dependency).mpr
      ⟨r, member, Record.mem_imports_iff_printed.mpr (.inl ⟨shape, there, among⟩)⟩
  refine ⟨?time, ?xml, ?enum⟩
  case time =>
    rintro ⟨r, member, spells⟩
    obtain ⟨shape, there, same⟩ | ⟨impossible, -⟩ :=
      (Record.spells_iff (p := .time) nofun).mp spells
    · have among := TypeExpr.package_ofShape_eq_time.mp same
      exact mem_stdImports.mpr (.inl ⟨rfl, needed member there among⟩)
    · cases impossible
  case xml =>
    intro spells
    obtain ⟨r, member, -, root, given, -⟩ := Group.spells_xml_iff.mp spells
    exact mem_stdImports.mpr (.inr ⟨rfl, r, member, Option.isSome_iff_exists.mpr ⟨root, given⟩⟩)
  case enum =>
    rintro name ⟨r, member, spells⟩
    obtain ⟨shape, there, same⟩ | ⟨impossible, -⟩ :=
      (Record.spells_iff (p := .enum _) nofun).mp spells
    · obtain ⟨other, among, same⟩ := TypeExpr.package_ofShape_eq_enum.mp same
      refine mem_moduleImports.mpr ⟨other, needed member there among, ?_⟩
      rw [enumImport, enumImport, same]
    · cases impossible

private theorem spellsUnprinted_of_importsOnly (only : (ofGroup module g).ImportsOnly module g) :
    g.SpellsUnprinted := by
  constructor
  case fields =>
    intro r member renamed f own dependency among
    have needed := (collected dependency).mpr
      ⟨r, member, Record.mem_imports_iff_printed.mpr (.inr ⟨renamed, f, own, among⟩)⟩
    cases dependency with
    | timestamp =>
      obtain ⟨-, spells⟩ | ⟨impossible, -⟩ := only.std _ (mem_stdImports.mpr (.inl ⟨rfl, needed⟩))
      · exact spells
      · exact absurd impossible (by decide)
    | enum name =>
      obtain ⟨other, same, spells⟩ := only.module _ (mem_moduleImports.mpr ⟨name, needed, rfl⟩)
      -- the import can be there for an enumeration with the same package
      simp only [ModulePackage.enumImport_eq, ModulePackage.path_inj] at same
      injection same with same
      rwa [Package.ofDependency, same]
  case root =>
    intro r member bound
    obtain ⟨impossible, -⟩ | ⟨-, spells⟩ :=
      only.std _ (mem_stdImports.mpr (.inr ⟨rfl, r, member, bound⟩))
    · exact absurd impossible (by decide)
    · exact Group.spells_xml_iff.mp spells

private theorem importsOnly_of_spellsUnprinted (unprinted : g.SpellsUnprinted) :
    (ofGroup module g).ImportsOnly module g := by
  have spelled {dependency : Dependency} (needed : dependency ∈ g.dependencies) :
      g.Spells (.ofDependency dependency) := by
    obtain ⟨r, member, among⟩ := (collected dependency).mp needed
    obtain ⟨shape, there, among⟩ | ⟨renamed, f, own, among⟩ :=
      Record.mem_imports_iff_printed.mp among
    · exact Group.spells_of_printed member there among
    · exact unprinted.fields r member renamed f own dependency among
  constructor
  case std =>
    intro path imported
    obtain ⟨rfl, needed⟩ | ⟨rfl, r, member, bound⟩ := mem_stdImports.mp imported
    · exact .inl ⟨rfl, spelled needed⟩
    · exact .inr ⟨rfl, Group.spells_xml_iff.mpr (unprinted.root r member bound)⟩
  case module =>
    intro path imported
    obtain ⟨name, needed, rfl⟩ := mem_moduleImports.mp imported
    exact ⟨name, rfl, spelled needed⟩

end Collected

/-- The source of a group consists of its imports and its declarations. It imports every package
that these spell, and no other unless there is one that only an unprinted part of a record would
need. -/
theorem groupImports_exact_iff {d : Document} {c : Context} {s : Service}
    (h : (Service.ofDocument d c).result = .ok s) (member : g ∈ s.types.groups) :
    groupText (ofGroup s.module g) =
        header ++ "package dto\n" ++ groupImports (ofGroup s.module g) ++
          each g.records declaredText ++ "\n" ∧
      (ofGroup s.module g).ImportsAll s.module g ∧
      ((ofGroup s.module g).ImportsOnly s.module g ↔ g.SpellsUnprinted) := by
  have collected := DataTypes.mem_dependencies_iff (Service.compiled_of_ofDocument h).types member
  exact ⟨groupText_ofGroup s.module g, importsAll_ofGroup collected,
    spellsUnprinted_of_importsOnly collected, importsOnly_of_spellsUnprinted collected⟩

def batchDescription (others : List (String × Json)) : Json :=
  let moment : Json := .object [("format", .string "date-time"), ("type", .string "string")]
  Description.assemble
    (("Batch", .object [
      ("items", .object [("type", .string "string")]),
      ("properties", .object [("at", moment)]),
      ("type", .string "array"), ("x-group", .string "batch")]) :: others) [] []

def jobSchemas : List (String × Json) :=
  let moment : Json := .object [("format", .string "date-time"), ("type", .string "string")]
  [("Job", .object [
      ("properties", .object [("due", moment), ("state", Description.referenceTo "State")]),
      ("x-group", .string "batch"), ("xml", .object [("name", .string "job")])]),
    ("State", .object [("enum", .array [.string "OPEN"]), ("type", .string "string")])]

/-- Group `g` of a description is all that its data types have besides enumerations. -/
structure Compiles (root : Json) (d : Document) (s : Service) (g : Group) : Prop where
  read : Description.read root = .ok d
  compiled : (Service.ofDocument d ⟨.go, "example.com/queue", [], ⟨"", "", "", ""⟩⟩).result = .ok s
  groups : s.types.groups = [g]

/-- The property of the array is not printed, but that of the record is. -/
theorem groupImports_exact_iff_jobs :
    ∃ d s g, Compiles (batchDescription jobSchemas) d s g ∧
      (groupText (ofGroup s.module g) =
          header ++ "package dto\n" ++ groupImports (ofGroup s.module g) ++
            each g.records declaredText ++ "\n" ∧
        (ofGroup s.module g).ImportsAll s.module g ∧
        ((ofGroup s.module g).ImportsOnly s.module g ↔ g.SpellsUnprinted)) ∧
      g.SpellsUnprinted ∧
      (ofGroup s.module g).stdImports = ["encoding/xml", "time"] ∧
      (ofGroup s.module g).moduleImports = ["example.com/queue/internal/data/dto/state"] := by
  have compiled : ∃ d s g, Compiles (batchDescription jobSchemas) d s g ∧ g.SpellsUnprinted ∧
      (ofGroup s.module g).stdImports = ["encoding/xml", "time"] ∧
      (ofGroup s.module g).moduleImports = ["example.com/queue/internal/data/dto/state"] :=
    ⟨_, _, _, ⟨rfl, rfl, rfl⟩, by decide +kernel⟩
  obtain ⟨d, s, g, compiles, shown⟩ := compiled
  have member : g ∈ s.types.groups := by simp [compiles.groups]
  exact ⟨d, s, g, compiles, groupImports_exact_iff compiles.compiled member, shown⟩

/-- The source imports `time` and declares the one type `[]string`. -/
theorem not_importsOnly_batch :
    ∃ d s g, Compiles (batchDescription []) d s g ∧
      groupText (ofGroup s.module g) =
        header ++ "package dto\n\nimport (\n\t\"time\"\n)\n\n\ntype Batch []string\n\n" ∧
      ¬ (ofGroup s.module g).ImportsOnly s.module g := by
  have compiled : ∃ d s g, Compiles (batchDescription []) d s g ∧
      groupText (ofGroup s.module g) =
        header ++ "package dto\n\nimport (\n\t\"time\"\n)\n\n\ntype Batch []string\n\n" ∧
      "time" ∈ (ofGroup s.module g).stdImports ∧ ¬ g.Spells .time :=
    ⟨_, _, _, ⟨rfl, rfl, rfl⟩, by decide +kernel⟩
  obtain ⟨d, s, g, compiles, printed, imported, unspelled⟩ := compiled
  refine ⟨d, s, g, compiles, printed, fun only => ?_⟩
  obtain ⟨-, spells⟩ | ⟨impossible, -⟩ := only.std "time" imported
  · exact unspelled spells
  · exact absurd impossible (by decide)

end ApiScaffold.Go.GroupView
