import Mathlib.Data.List.Basic
import ApiScaffold.Description.Extension
import ApiScaffold.Proofs.Json.Printed
/-!
# Extensions given as texts

An extension with fields may be given in place or as the text of its value. Both are decoded
alike: the text is read as the tree of the value but for long numbers, and no field takes one.
-/
namespace ApiScaffold

namespace Json

namespace Given

def short : Given → Given
  | tree value => tree value.short
  | leftOut => leftOut
  | pastEnd => pastEnd

@[simp]
private theorem flag?_short (g : Given) : g.short.flag? = g.flag? := by
  cases g with
  | tree value => cases value <;> rfl
  | leftOut | pastEnd => rfl

@[simp]
private theorem text?_short (g : Given) : g.short.text? = g.text? := by
  cases g with
  | tree value => cases value <;> rfl
  | leftOut | pastEnd => rfl

@[simp]
private theorem optionalText?_short (g : Given) : g.short.optionalText? = g.optionalText? := by
  cases g with
  | tree value => cases value <;> rfl
  | leftOut | pastEnd => rfl

@[simp]
private theorem word?_short (g : Given) : g.short.word? = g.word? := by
  cases g with
  | tree value =>
    cases value with
    | number n =>
      cases n with
      | none => rfl
      | some n =>
        cases n with
        | real x => rfl
        | int i =>
          by_cases fits : 0 ≤ i ∧ i < 65536 <;>
            simp [short, Tree.short, Tree.mapNumbers, Number.short?, word?, fits]
    | _ => rfl
  | leftOut | pastEnd => rfl

end Given

private theorem valuesOf_short (name : String) (members : List (Option String × Tree)) :
    valuesOf name (Tree.mapMembers Number.short? members) =
      (valuesOf name members).map Tree.short := by
  rw [Tree.mapMembers_eq_map, valuesOf, valuesOf, List.filterMap_map, List.map_filterMap]
  refine List.filterMap_congr fun (key, tree) _ => ?_
  by_cases same : key = some name <;> simp [same, Tree.short]

private theorem field?_short (members : List (Option String × Tree)) (name : String) :
    field? (Tree.mapMembers Number.short? members) name =
      (field? members name).map Given.short := by
  rw [field?, field?, valuesOf_short]
  rcases valuesOf name members with _ | ⟨value, _ | _⟩ <;> rfl

private theorem all_mapMembers {f : Number → Option Number} {p : Option String × Tree → Bool}
    (h : ∀ key tree, p (key, Tree.mapNumbers f tree) = p (key, tree))
    (members : List (Option String × Tree)) :
    (Tree.mapMembers f members).all p = members.all p := by
  induction members with
  | nil => rfl
  | cons member members ih =>
    obtain ⟨key, tree⟩ := member
    rw [Tree.mapMembers, List.all_cons, List.all_cons, h, ih]

private theorem fields?_short (names : List String) (tree : Tree) :
    fields? names tree.short = (fields? names tree).map (·.map Given.short) := by
  cases tree with
  | object members =>
    have each : names.mapM (field? (Tree.mapMembers Number.short? members)) =
        (names.mapM (field? members)).map (·.map Given.short) := by
      induction names with
      | nil => rfl
      | cons name names ih =>
        simp only [List.mapM_cons, field?_short, ih]
        cases field? members name with
        | none => rfl
        | some given => cases names.mapM (field? members) <;> rfl
    simp only [Tree.short, Tree.mapNumbers, fields?, each]
    rw [all_mapMembers fun _ _ => rfl]
    split <;> rfl
  | array items =>
    have count : (Tree.mapItems Number.short? items).length = items.length := by
      rw [Tree.mapItems_eq_map, List.length_map]
    simp only [Tree.short, Tree.mapNumbers, fields?, count]
    split
    next => rfl
    next => simp [Tree.mapItems_eq_map, Given.short, Tree.short]
  | _ => rfl

end Json

namespace Extension

open Json

def ReadsShort {α : Type} (decoder : Tree → Option α) : Prop :=
  ∀ tree, decoder tree.short = decoder tree

private theorem readsShort_generated? : ReadsShort generated? := by
  intro tree
  rw [generated?, generated?, fields?_short]
  cases fields? ["package", "customHandler", "isPublic"] tree with
  | none => rfl
  | some given =>
    rcases given with _ | ⟨package, _ | ⟨customHandler, _ | ⟨isPublic, _ | _⟩⟩⟩ <;> simp

private theorem readsShort_errorDeclaration? : ReadsShort errorDeclaration? := by
  intro tree
  rw [errorDeclaration?, errorDeclaration?, fields?_short]
  cases fields? ["message", "httpCode", "hasValues", "description"] tree with
  | none => rfl
  | some given =>
    rcases given with _ | ⟨message, _ | ⟨httpCode, _ | ⟨hasValues, _ | ⟨description, _ | _⟩⟩⟩⟩ <;>
      simp

private theorem readsShort_errorTable? : ReadsShort errorTable? := by
  intro tree
  cases tree with
  | object members =>
    have entry (member : Option String × Tree) :
        errorDeclaration? (Tree.mapNumbers Number.short? member.2) =
          errorDeclaration? member.2 :=
      readsShort_errorDeclaration? member.2
    simp [Tree.short, Tree.mapNumbers, errorTable?, Tree.mapMembers_eq_map, List.mapM_map,
      Function.comp_def, entry]
  | _ => rfl

/-- An extension is given in place on one side and as a text on the other. -/
structure Encoded (name : String) (value : Json) (inPlace encoded : Keyed Json) : Prop where
  given : Keyed.get? name inPlace = some value
  text : Keyed.get? name encoded = some (.string value.print)

section

variable {value : Json} (structured : ∀ text, value ≠ .string text)

include structured

private theorem decode_encoded {α : Type} {decoder : Tree → Option α} {name : String}
    {inPlace encoded : Keyed Json} (readsShort : ReadsShort decoder)
    (given : Encoded name value inPlace encoded) (owner : String) :
    decode owner name decoder inPlace = decode owner name decoder encoded := by
  have own : tree? value = some value.toTree := by
    cases value with
    | string text => exact absurd rfl (structured text)
    | _ => rfl
  have read : tree? (.string value.print) = some value.printedTree := read?_print value
  have same : decoder value.toTree = decoder value.printedTree := by
    rw [← readsShort value.toTree, ← short_printedTree value, readsShort]
  rw [decode, decode, given.given, given.text]
  simp only [own, read, Option.bind_some, same]

private theorem directives_encoded {inPlace encoded : Keyed Json}
    (given : Encoded "x-generated" value inPlace encoded) (method : Method) (path : String) :
    directives method path inPlace = directives method path encoded := by
  rw [directives, directives, decode_encoded structured readsShort_generated? given]

private theorem module_encoded {inPlace encoded : Document}
    (given : Encoded "x-configuration" value inPlace.extensions encoded.extensions) :
    module inPlace = module encoded := by
  refine congrArg₂ bind (decode_encoded structured (fun tree => ?_) given "document") rfl
  rw [fields?_short]
  cases fields? ["module"] tree with
  | none => rfl
  | some given => rcases given with _ | ⟨module, _ | _⟩ <;> simp

private theorem errorDeclarations_encoded {inPlace encoded : Document}
    (given : Encoded "x-errors" value inPlace.extensions encoded.extensions) :
    errorDeclarations inPlace = errorDeclarations encoded := by
  rw [errorDeclarations, errorDeclarations,
    decode_encoded structured readsShort_errorTable? given]

/-- Whether an extension with fields is given in place or as a text makes no difference: not to
what it says, and not to the error if it says nothing. -/
theorem alike_of_encoded :
    (∀ method path inPlace encoded, Encoded "x-generated" value inPlace encoded →
      directives method path inPlace = directives method path encoded) ∧
    (∀ inPlace encoded : Document,
      Encoded "x-configuration" value inPlace.extensions encoded.extensions →
      module inPlace = module encoded) ∧
    (∀ inPlace encoded : Document,
      Encoded "x-errors" value inPlace.extensions encoded.extensions →
      errorDeclarations inPlace = errorDeclarations encoded) :=
  ⟨fun method path _ _ given => directives_encoded structured given method path,
    fun _ _ given => module_encoded structured given,
    fun _ _ given => errorDeclarations_encoded structured given⟩

end

/-- An error with a retry time, which is a double and belongs to no field. -/
def fullQueue : Json :=
  .object [("full", .object [("description", .null), ("httpCode", .number (.int 409)),
    ("message", .string "The \"queue\" is full.\n"),
    ("retry", .array [.number (.real ⟨false, 3 * Nat.pow 2 51, -52⟩)])])]

def deskDirectives : Json :=
  .object [("customHandler", .bool true), ("note", .null), ("package", .string "ticket_desk")]

/-- A configuration may list its fields. -/
def listedConfiguration : Json := .array [.string "example.com/queue"]

def extended (name : String) (value : Json) : Document :=
  ⟨"3.0.3", ⟨"Queues", "1", none⟩, [], [], [(name, value)]⟩

theorem alike_of_encoded_fullQueue :
    (directives .get "/tickets" [("x-generated", deskDirectives)] =
        .ok ⟨"ticket_desk", true, false⟩ ∧
      directives .get "/tickets" [("x-generated", .string deskDirectives.print)] =
        .ok ⟨"ticket_desk", true, false⟩) ∧
    (module (extended "x-configuration" listedConfiguration) = .ok "example.com/queue" ∧
      module (extended "x-configuration" (.string listedConfiguration.print)) =
        .ok "example.com/queue") ∧
    fullQueue.print = String.join ["\x7b\"full\":\x7b\"description\":null,\"httpCode\":409,",
      "\"message\":\"The \\\"queue\\\" is full.\\n\",\"retry\":[1.5]\x7d\x7d"] ∧
    errorDeclarations (extended "x-errors" fullQueue) =
      .ok [("full", ⟨"The \"queue\" is full.\n", 409, false, none⟩)] ∧
    errorDeclarations (extended "x-errors" (.string fullQueue.print)) =
      .ok [("full", ⟨"The \"queue\" is full.\n", 409, false, none⟩)] := by
  have handled : directives .get "/tickets" [("x-generated", deskDirectives)] =
      .ok ⟨"ticket_desk", true, false⟩ := rfl
  have configured : module (extended "x-configuration" listedConfiguration) =
      .ok "example.com/queue" := rfl
  have declared : errorDeclarations (extended "x-errors" fullQueue) =
      .ok [("full", ⟨"The \"queue\" is full.\n", 409, false, none⟩)] := rfl
  have desk : ∀ text, deskDirectives ≠ .string text := nofun
  have listed : ∀ text, listedConfiguration ≠ .string text := nofun
  have full : ∀ text, fullQueue ≠ .string text := nofun
  have handledAlike := (alike_of_encoded desk).1 .get "/tickets" [("x-generated", deskDirectives)]
    [("x-generated", .string deskDirectives.print)] ⟨rfl, rfl⟩
  have configuredAlike := (alike_of_encoded listed).2.1
    (extended "x-configuration" listedConfiguration)
    (extended "x-configuration" (.string listedConfiguration.print)) ⟨rfl, rfl⟩
  have declaredAlike := (alike_of_encoded full).2.2 (extended "x-errors" fullQueue)
    (extended "x-errors" (.string fullQueue.print)) ⟨rfl, rfl⟩
  exact ⟨⟨handled, handledAlike.symm.trans handled⟩,
    ⟨configured, configuredAlike.symm.trans configured⟩, by decide +kernel,
    declared, declaredAlike.symm.trans declared⟩

end Extension

end ApiScaffold
