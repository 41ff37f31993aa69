import ApiScaffold.Description.Reader
/-!
# Descriptions put together from parts

A description needs a version, a title and a dialect, whatever it describes. The rest are its
components, its paths and its extensions, and it is read if these are.
-/
namespace ApiScaffold.Description

def referenceTo (name : String) : Json := .object [("$ref", .string (componentRoot ++ name))]

/-- An operation of a package that answers with a status only, and has these members besides. -/
def generatedOperation (id package : String) (members : List (String × Json)) : Json :=
  .object (("operationId", .string id) :: members ++ [
    ("responses", .object [("200", .object [])]),
    ("x-generated", .object [("package", .string package)])])

/-- A description with these components, paths and extensions. -/
def assemble (schemas paths extensions : List (String × Json)) : Json :=
  .object ([
    ("components", .object [("schemas", .object schemas)]),
    ("info", .object [("title", .string "Queue"), ("version", .string "1.0.0")]),
    ("openapi", .string "3.0.3"),
    ("paths", .object paths)] ++ extensions)

variable {schemas paths extensions : List (String × Json)}

theorem read_assemble {items : Keyed PathItem} {table : Keyed Schema}
    (readPaths : (Source.of (assemble schemas paths extensions)).paths = .ok items)
    (readSchemas : (Source.of (assemble schemas paths extensions)).schemas = .ok table) :
    read (assemble schemas paths extensions) =
      .ok ⟨"3.0.3", ⟨"Queue", "1.0.0", none⟩, items, table, extensionsOf extensions⟩ := by
  have version : (Source.of (assemble schemas paths extensions)).version = .ok "3.0.3" := rfl
  have info : (Source.of (assemble schemas paths extensions)).info =
      .ok ⟨"Queue", "1.0.0", none⟩ := rfl
  unfold read Source.document
  rw [version, info, readPaths, readSchemas]
  rfl

end ApiScaffold.Description
