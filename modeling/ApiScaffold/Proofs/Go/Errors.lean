import ApiScaffold.Proofs.Description.Assembly
import ApiScaffold.Proofs.Endpoint
import ApiScaffold.Proofs.Go.DataImports
import ApiScaffold.Proofs.Keyed
/-!
# Names of errors in Go

Each declared error has a constant with its code and a constructor, and all of them share the
scope of one package. Their names come from the code alone, and nothing keeps them apart: codes
can differ in what their names leave out, and a code can end in the word that is put behind
another one.
-/
namespace ApiScaffold

/-! ## Declared codes -/

private theorem Extension.increasing_errorDeclarations {d : Document}
    {table : Keyed ErrorDeclaration}
    (h : errorDeclarations d = .ok table) : Keyed.Increasing table := by
  obtain ⟨decoded, decodes, h⟩ := Outcome.bind_eq_ok.mp h
  cases h
  cases decoded with
  | none => exact List.Pairwise.nil
  | some decoded =>
    obtain ⟨-, tree, -, -, read⟩ := decode_eq_some decodes
    cases tree with
    | object members =>
      obtain ⟨pairs, -, made⟩ := Option.bind_eq_some_iff.mp read
      cases made
      exact Keyed.increasing_ofList pairs
    | _ => cases read

namespace ErrorCatalog

private theorem entry_eq_ok {known : Option (List String)} {code : String}
    {declared : ErrorDeclaration} {e : ErrorEntry} (h : entry known code declared = .ok e) :
    e.code = code ∧ e.ident = Naming.properCase code := by
  unfold entry at h
  dsimp only at h
  split at h
  · cases h
  split at h
  · cases h
  split at h
  · cases h
  cases h
  exact ⟨rfl, rfl⟩

theorem entries_of_ofDocument {d : Document} {catalog : ErrorCatalog}
    (h : (ofDocument d).result = .ok (some catalog)) :
    ∃ table, Extension.errorDeclarations d = .ok table ∧
      catalog.entries.map (·.code) = table.keys ∧
      catalog.entries.map (·.ident) = table.keys.map Naming.properCase := by
  obtain ⟨table, declared, h⟩ := Diagnosed.bind_result_eq_ok.mp h
  dsimp only at h
  split at h
  · cases h
  obtain ⟨known, -, h⟩ := Diagnosed.bind_result_eq_ok.mp h
  have finished : ((table.mapM fun (code, declaration) =>
      (.ofExcept (entry known code declaration) : Diagnosed ErrorEntry)) >>= fun entries =>
        pure (some (ErrorCatalog.mk entries))).result = .ok (some catalog) := by
    cases known with
    | none => exact h
    | some known =>
      obtain ⟨-, -, h⟩ := Diagnosed.bind_result_eq_ok.mp h
      exact h
  obtain ⟨entries, made, h⟩ := Diagnosed.bind_result_eq_ok.mp finished
  cases h
  rw [Diagnosed.result_mapM] at made
  have each := Outcome.mapM_eq_ok.mp made
  refine ⟨table, declared, ?_, ?_⟩
  · exact (Outcome.map_eq_map each fun _ _ h => (entry_eq_ok h).1.symm).symm
  · rw [Keyed.keys, List.map_map]
    exact (Outcome.map_eq_map each fun _ _ h => (entry_eq_ok h).2.symm).symm

end ErrorCatalog

/-! ## Declarations -/

namespace Go

inductive ErrorItem where
  | constant (name literal : String)
  | constructor (name : String) (comment : List String) (parameters result : String)

namespace ErrorItem

def name : ErrorItem → String
  | constant name _ => name
  | constructor name _ _ _ => name

def text : ErrorItem → String
  | constant name literal => s!"\n\t{name} ErrorCode = {literal}"
  | constructor name comment parameters result =>
    each comment commentLine ++
      s!"\nfunc {name}({parameters}) error \x7b\n\treturn {result}\n\x7d\n"

def codeOf (e : ErrorView) : ErrorItem := constant (e.ident ++ "Code") e.code

def constructorOf (e : ErrorView) : ErrorItem :=
  constructor e.ident e.comment e.parameters
    s!"New({e.ident}Code, {e.message}, {e.status}, {e.values})"

end ErrorItem

private theorem codeLine_eq (e : ErrorView) : codeLine e = (ErrorItem.codeOf e).text := by
  have closing : "Code ErrorCode = " = "Code" ++ " ErrorCode = " := by decide
  have shown (s : String) : toString s = s := rfl
  simp only [codeLine, ErrorItem.codeOf, ErrorItem.text, shown, closing, String.append_assoc]

private theorem errorText_eq (e : ErrorView) : errorText e = (ErrorItem.constructorOf e).text := by
  have opening : "\n\treturn New(" = "\n\treturn " ++ "New(" := by decide
  have head : ") error \x7b\n\treturn " = ") error \x7b" ++ "\n\treturn " := by decide
  have closing : ")\n\x7d\n" = ")" ++ "\n\x7d\n" := by decide
  have shown (s : String) : toString s = s := rfl
  simp only [errorText, ErrorItem.constructorOf, ErrorItem.text, shown, opening, head, closing,
    String.append_assoc]

namespace ErrorsView

def codes (c : ErrorsView) : List ErrorItem := c.errors.map .codeOf

def constructors (c : ErrorsView) : List ErrorItem := c.errors.map .constructorOf

def declared (c : ErrorsView) : List String := (c.constructors ++ c.codes).map (·.name)

def preamble (c : ErrorsView) : String :=
  header ++ "package errors\n" ++ onlyIf c.needsFmt "\nimport \"fmt\"\n"

def declarations (c : ErrorsView) : String :=
  "\nconst (" ++ each c.codes ErrorItem.text ++ "\n)\n" ++
    each c.constructors ErrorItem.text ++ "\n"

end ErrorsView

private theorem errorsText_eq (c : ErrorsView) : errorsText c = c.preamble ++ c.declarations := by
  simp only [errorsText, ErrorsView.preamble, ErrorsView.declarations, ErrorsView.codes,
    ErrorsView.constructors, each_map, each_congr fun e _ => codeLine_eq e,
    each_congr fun e _ => errorText_eq e, String.append_assoc]

private theorem ErrorsView.declared_ofCatalog (c : ErrorCatalog) :
    (ofCatalog c).declared =
      c.entries.map (·.ident) ++ (c.entries.map (·.ident)).map (· ++ "Code") := by
  rw [declared, codes, constructors, ofCatalog, List.map_append]
  simp only [List.map_map]
  rfl

end Go

/-! ## Names that meet -/

namespace ErrorCatalog

open ApiScaffold.Go

/-- The source of a catalogue is that of its constants and constructors. It declares no name twice
exactly if the names of its codes differ, and none of them is the name of another code with the
word behind it that names a constant. -/
theorem nodup_declared_iff {d : Document} {catalog : ErrorCatalog}
    (h : (ofDocument d).result = .ok (some catalog)) :
    errorsText (.ofCatalog catalog) =
        (ErrorsView.ofCatalog catalog).preamble ++ (ErrorsView.ofCatalog catalog).declarations ∧
    ∃ table, Extension.errorDeclarations d = .ok table ∧ table.keys.Nodup ∧
      catalog.entries.map (·.code) = table.keys ∧
      ((ErrorsView.ofCatalog catalog).declared.Nodup ↔
        (∀ code ∈ table.keys, ∀ other ∈ table.keys,
          Naming.properCase code = Naming.properCase other → code = other) ∧
        ∀ code ∈ table.keys, ∀ other ∈ table.keys,
          Naming.properCase other ≠ Naming.properCase code ++ "Code") := by
  obtain ⟨table, declared, codes, idents⟩ := entries_of_ofDocument h
  have once : table.keys.Nodup :=
    (Extension.increasing_errorDeclarations declared).imp ne_of_lt
  refine ⟨errorsText_eq _, table, declared, once, codes, ?_⟩
  rw [ErrorsView.declared_ofCatalog, idents, List.nodup_append]
  have suffixed : Function.Injective fun ident : String => ident ++ "Code" := by
    intro ident other same
    apply String.toList_injective
    simpa using congrArg String.toList same
  rw [List.nodup_map_iff suffixed, List.nodup_map_iff_inj_on once]
  constructor
  · rintro ⟨constructors, -, apart⟩
    refine ⟨constructors, ?_⟩
    intro code member other member'
    exact apart _ (List.mem_map_of_mem member') _
      (List.mem_map_of_mem (List.mem_map_of_mem member))
  · rintro ⟨constructors, apart⟩
    refine ⟨constructors, constructors, ?_⟩
    intro ident constructed name suffixed
    obtain ⟨other, member, rfl⟩ := List.mem_map.mp constructed
    obtain ⟨_, named, rfl⟩ := List.mem_map.mp suffixed
    obtain ⟨code, member', rfl⟩ := List.mem_map.mp named
    exact apart code member' other member

def errorsDescription (first second : String) : Json :=
  let declared : Json :=
    .object [("httpCode", .number (.int 409)), ("message", .string "branch is closed")]
  Description.assemble [] [] [("x-errors", .object [(first, declared), (second, declared)])]

/-- The name of each code shows where its words begin. -/
theorem nodup_declared_iff_closed :
    ∃ d catalog, Description.read (errorsDescription "BRANCH_CLOSED" "TICKET_NOT_FOUND") = .ok d ∧
      (ofDocument d).result = .ok (some catalog) ∧
      (errorsText (.ofCatalog catalog) =
          (ErrorsView.ofCatalog catalog).preamble ++ (ErrorsView.ofCatalog catalog).declarations ∧
        ∃ table, Extension.errorDeclarations d = .ok table ∧ table.keys.Nodup ∧
          catalog.entries.map (·.code) = table.keys ∧
          ((ErrorsView.ofCatalog catalog).declared.Nodup ↔
            (∀ code ∈ table.keys, ∀ other ∈ table.keys,
              Naming.properCase code = Naming.properCase other → code = other) ∧
            ∀ code ∈ table.keys, ∀ other ∈ table.keys,
              Naming.properCase other ≠ Naming.properCase code ++ "Code")) ∧
      (ErrorsView.ofCatalog catalog).declared =
        ["BranchClosed", "TicketNotFound", "BranchClosedCode", "TicketNotFoundCode"] := by
  have compiled : ∃ d catalog,
      Description.read (errorsDescription "BRANCH_CLOSED" "TICKET_NOT_FOUND") = .ok d ∧
      (ofDocument d).result = .ok (some catalog) ∧
      (ErrorsView.ofCatalog catalog).declared =
        ["BranchClosed", "TicketNotFound", "BranchClosedCode", "TicketNotFoundCode"] :=
    ⟨_, _, rfl, rfl, by decide +kernel⟩
  obtain ⟨d, catalog, read, compiled, declared⟩ := compiled
  exact ⟨d, catalog, read, compiled, nodup_declared_iff compiled, declared⟩

/-- Letter case does not count in the name of a code, and a code may end in the word that names
constants. -/
theorem not_nodup_declared_branch :
    (∃ d catalog, Description.read (errorsDescription "NOT_FOUND" "not_found") = .ok d ∧
      (ofDocument d).result = .ok (some catalog) ∧
      (ErrorsView.ofCatalog catalog).declared =
        ["NotFound", "NotFound", "NotFoundCode", "NotFoundCode"] ∧
      ¬ (ErrorsView.ofCatalog catalog).declared.Nodup) ∧
    ∃ d catalog, Description.read (errorsDescription "BRANCH" "BRANCH_CODE") = .ok d ∧
      (ofDocument d).result = .ok (some catalog) ∧
      (ErrorsView.ofCatalog catalog).declared =
        ["Branch", "BranchCode", "BranchCode", "BranchCodeCode"] ∧
      ¬ (ErrorsView.ofCatalog catalog).declared.Nodup :=
  ⟨⟨_, _, rfl, rfl, by decide +kernel⟩, _, _, rfl, rfl, by decide +kernel⟩

end ErrorCatalog

end ApiScaffold
