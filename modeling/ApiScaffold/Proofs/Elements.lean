import Mathlib.Data.List.TakeWhile
import ApiScaffold.Proofs.Presence
/-!
# Rules of values and of their elements

The rules of a field that stand before `dive` are those of its value, and the others those of the
elements of the value. What a type implies is put behind what is declared. So if `dive` is declared,
a rule that is added to require the value requires its elements instead.
-/
namespace ApiScaffold

namespace Record

/-! ## Rules before and behind `dive` -/

def ownRules (rules : List String) : List String := rules.takeWhile (· ≠ ruleDive)

def elementRules (rules : List String) : List String := (rules.dropWhile (· ≠ ruleDive)).tail

private theorem ruleRequired_ne_ruleDive : ruleRequired ≠ ruleDive := by decide

variable {rule : String} {rules more : List String}

private theorem forall_ne_dive (own : ruleDive ∉ rules) :
    ∀ rule ∈ rules, decide (rule ≠ ruleDive) = true :=
  fun _ member => decide_eq_true (ne_of_mem_of_not_mem member own)

private theorem ownRules_of_notMem (own : ruleDive ∉ rules) : ownRules rules = rules :=
  List.takeWhile_eq_self_iff.mpr (forall_ne_dive own)

private theorem ownRules_append_dive (own : ruleDive ∉ rules) :
    ownRules (rules ++ ruleDive :: more) = rules := by
  rw [ownRules, List.takeWhile_append_of_pos (forall_ne_dive own),
    List.takeWhile_cons_of_neg (by simp), List.append_nil]

private theorem elementRules_append_dive (own : ruleDive ∉ rules) :
    elementRules (rules ++ ruleDive :: more) = more := by
  rw [elementRules, List.dropWhile_append_of_pos (forall_ne_dive own),
    List.dropWhile_cons_of_neg (by simp), List.tail_cons]

private theorem ownRules_append (dive : ruleDive ∈ rules) :
    ownRules (rules ++ more) = ownRules rules := by
  obtain ⟨before, after, rfl, own⟩ := List.eq_append_cons_of_mem dive
  rw [List.append_assoc, List.cons_append, ownRules_append_dive own, ownRules_append_dive own]

private theorem mem_ownRules_iff (other : rule ≠ ruleDive) :
    rule ∈ ownRules rules ↔
      ∃ before after, rules = before ++ rule :: after ∧ ruleDive ∉ before := by
  constructor
  · intro member
    obtain ⟨before, after, parts⟩ := List.append_of_mem member
    have own : ruleDive ∉ ownRules rules := fun dive => by
      simpa using List.mem_takeWhile_imp dive
    refine ⟨before, after ++ rules.dropWhile (· ≠ ruleDive), ?_, ?_⟩
    · rw [← List.cons_append, ← List.append_assoc, ← parts]
      exact (List.takeWhile_append_dropWhile).symm
    · exact fun dive => own (parts ▸ List.mem_append_left _ dive)
  · rintro ⟨before, after, rfl, own⟩
    have first : ∀ x ∈ before ++ [rule], decide (x ≠ ruleDive) = true :=
      List.forall_mem_append.mpr
        ⟨forall_ne_dive own, List.forall_mem_singleton.mpr (decide_eq_true other)⟩
    rw [List.append_cons, ownRules, List.takeWhile_append_of_pos first]
    simp

private theorem mem_elementRules (member : rule ∈ rules) (other : rule ≠ ruleDive)
    (h : rule ∉ ownRules rules) : rule ∈ elementRules rules := by
  have dive : ruleDive ∈ rules := by
    by_contra own
    exact h (by rwa [ownRules_of_notMem own])
  obtain ⟨before, after, rfl, own⟩ := List.eq_append_cons_of_mem dive
  rw [ownRules_append_dive own] at h
  rw [elementRules_append_dive own]
  simpa [h, other] using member

/-! ## Rules that are added -/

variable {type : ResolvedType} {required : Bool}

/-- Behind a declared `dive` nothing is added for the value itself. -/
theorem ownRules_addRules :
    ownRules (addRules rules type required) =
      if ruleDive ∈ rules then ownRules rules
      else if required && !type.shape.isValuePrimitive then addRule ruleRequired rules
      else rules := by
  split
  next dive =>
    obtain ⟨more, same⟩ : rules <+: addRules rules type required := prefix_addRules
    rw [← same, ownRules_append dive]
  next own =>
    unfold addRules
    generalize added : (if required && !type.shape.isValuePrimitive then addRule ruleRequired rules
      else rules) = first
    have own : ruleDive ∉ first := by
      rw [← added]
      split
      · rw [mem_addRule, not_or]
        exact ⟨own, by decide⟩
      · exact own
    dsimp only
    split
    · simp only [addRule, List.contains_iff_mem, own, if_false]
      exact ownRules_append_dive own
    · exact ownRules_of_notMem own

private theorem required_mem_ownRules_iff (counts : type.shape.isValuePrimitive = false) :
    ruleRequired ∈ ownRules (addRules rules type true) ↔
      ruleDive ∈ rules → ruleRequired ∈ ownRules rules := by
  rw [ownRules_addRules]
  split
  next dive => simp [dive]
  next own => simp [own, counts, mem_addRule]

/-! ## Fields -/

variable {d : Document} {owner : String} {schema : Schema} {r : Record}

/-- A value that has to be there is required itself, and not only its elements are, exactly if the
declared rules have no `dive`, or require the value before it. -/
theorem required_itself_iff (h : (ofSchema d owner schema).result = .ok r) :
    ∀ f ∈ r.fields, f.embedded = false →
      ∃ holder position declared,
        lastDeclaration? schema f.name = some (.property holder f.name position) ∧
        declaredRules owner f.name position = .ok declared ∧
        (holder.isRequired f.name = true → f.type.shape.isValuePrimitive = false →
          (ruleRequired ∈ ownRules f.rules ↔
            (ruleDive ∈ declared → ruleRequired ∈ ownRules declared)) ∧
          (ruleRequired ∉ ownRules f.rules → ruleRequired ∈ elementRules f.rules)) := by
  intro f member own
  obtain ⟨holder, position, last, made⟩ := field_of_mem h member own
  obtain ⟨type, declared, -, given, same⟩ := field_eq_ok_iff.mp made
  have ruled : f.rules = addRules declared type (holder.isRequired f.name) :=
    congrArg Field.rules same
  have typed : f.type = type := congrArg Field.type same
  refine ⟨holder, position, declared, last, given, fun required counts => ?_⟩
  rw [typed] at counts
  rw [ruled, required]
  have present : ruleRequired ∈ addRules declared type true :=
    mem_addRules.mpr (.inr (.inl ⟨rfl, rfl, counts⟩))
  exact ⟨required_mem_ownRules_iff counts, mem_elementRules present ruleRequired_ne_ruleDive⟩

def batchSchema : Schema :=
  let texts (tokens : List String) : SchemaRef := .inline { Schema.empty with
    type := some "array"
    items := some (.inline { Schema.empty with type := some "string" })
    extensions := [("x-validate", .array (tokens.map .string))] }
  { Schema.empty with
    properties := [
      ("codes", texts ["required", "dive", "max=8"]),
      ("labels", texts ["dive", "max=8"]),
      ("notes", texts ["max=3"])]
    required := ["codes", "labels", "notes"] }

def batchDocument : Document := ⟨"3.0.3", ⟨"Batches", "1.0.0", none⟩, [], [], []⟩

theorem required_itself_iff_batch :
    ∃ r, (ofSchema batchDocument "Batch" batchSchema).result = .ok r ∧
      (∀ f ∈ r.fields, f.embedded = false →
        ∃ holder position declared,
          lastDeclaration? batchSchema f.name = some (.property holder f.name position) ∧
          declaredRules "Batch" f.name position = .ok declared ∧
          (holder.isRequired f.name = true → f.type.shape.isValuePrimitive = false →
            (ruleRequired ∈ ownRules f.rules ↔
              (ruleDive ∈ declared → ruleRequired ∈ ownRules declared)) ∧
            (ruleRequired ∉ ownRules f.rules → ruleRequired ∈ elementRules f.rules))) ∧
      r.fields.map (fun f => (f.name, ownRules f.rules, elementRules f.rules)) =
        [("codes", ["required"], ["max=8"]), ("labels", [], ["max=8", "required"]),
          ("notes", ["max=3", "required"], [])] := by
  have built : ∃ r, (ofSchema batchDocument "Batch" batchSchema).result = .ok r ∧
      r.fields.map (fun f => (f.name, ownRules f.rules, elementRules f.rules)) =
        [("codes", ["required"], ["max=8"]), ("labels", [], ["max=8", "required"]),
          ("notes", ["max=3", "required"], [])] := ⟨_, rfl, by decide⟩
  obtain ⟨r, built, divided⟩ := built
  exact ⟨r, built, required_itself_iff built, divided⟩

/-- The labels have to be there, and only each of them is required. -/
theorem not_required_itself_labels :
    ∃ r, (ofSchema batchDocument "Batch" batchSchema).result = .ok r ∧
      ∃ f ∈ r.fields, f.embedded = false ∧ batchSchema.isRequired f.name = true ∧
        f.type.shape.isValuePrimitive = false ∧ f.rules = ["dive", "max=8", "required"] ∧
        ¬ ∃ before after, f.rules = before ++ ruleRequired :: after ∧ ruleDive ∉ before := by
  have built : ∃ r, (ofSchema batchDocument "Batch" batchSchema).result = .ok r ∧
      ∃ f ∈ r.fields, f.embedded = false ∧ batchSchema.isRequired f.name = true ∧
        f.type.shape.isValuePrimitive = false ∧ f.rules = ["dive", "max=8", "required"] ∧
        ruleRequired ∉ ownRules f.rules := ⟨_, rfl, by decide⟩
  simpa only [mem_ownRules_iff ruleRequired_ne_ruleDive] using built

end Record

end ApiScaffold
