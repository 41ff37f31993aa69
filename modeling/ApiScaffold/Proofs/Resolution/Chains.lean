import Mathlib.Logic.Function.Iterate
import ApiScaffold.Proofs.Resolution.Termination
/-!
# Chains of maps

The values of a map may be maps again, in place or by way of a component, and a component may
come back to itself. The resolver follows the value schemas one by one, and gives up where the
chain goes on after the 64th of them.
-/
namespace ApiScaffold

namespace Schema

variable {s : Schema} {next : SchemaRef}

private theorem nextValue_eq_some :
    s.nextValue = some next ↔ s.additional = some next ∧ s.format = none ∧
      s.type ≠ some "array" := by
  simp [nextValue, hasType, and_comm]

theorem nextValue_eq_none :
    s.nextValue = none ↔ s.additional = none ∨ s.format ≠ none ∨ s.type = some "array" := by
  by_cases goesOn : s.format = none ∧ s.type ≠ some "array"
  · simp [nextValue, hasType, goesOn]
  · simp [nextValue, hasType, goesOn]
    tauto

end Schema

namespace Resolution

variable {d : Document} {value next last beyond : SchemaRef} {s : Schema} {n : Nat}

/-! ## The value schemas of a chain -/

/-- The chain goes on from a value schema: what is found there gives a schema for its own values,
and neither a format nor the type of an array ends the chain. -/
def Continues (d : Document) (value next : SchemaRef) : Prop :=
  ∃ s, d.resolve value = .ok s ∧ s.additional = some next ∧ s.format = none ∧
    s.type ≠ some "array"

/-- The chain stops at a value schema: it is found, and nothing goes on from it. -/
def Stops (d : Document) (value : SchemaRef) : Prop :=
  ∃ s, d.resolve value = .ok s ∧
    (s.additional = none ∨ s.format ≠ none ∨ s.type = some "array")

/-- The chain breaks off at a reference to a component that is not there. -/
def Breaks (d : Document) (value : SchemaRef) (name : String) : Prop :=
  value = .reference name ∧ d.schema? name = none

/-- In the chain that begins with `value` the value schema with number `n`, counted from one, is
`last`. -/
inductive Leads (d : Document) (value : SchemaRef) : Nat → SchemaRef → Prop where
  | first : Leads d value 1 value
  | next {n : Nat} {last beyond : SchemaRef} : Leads d value n last → Continues d last beyond →
      Leads d value (n + 1) beyond

private theorem continues_iff (resolved : d.resolve value = .ok s) :
    Continues d value next ↔ s.nextValue = some next := by
  simp [Continues, resolved, Schema.nextValue_eq_some]

theorem stops_iff (resolved : d.resolve value = .ok s) :
    Stops d value ↔ s.nextValue = none := by
  simp [Stops, resolved, Schema.nextValue_eq_none]

private theorem breaks_iff_error {failure : Failure} :
    d.resolve value = .error failure ↔
      ∃ name, Breaks d value name ∧ failure = .unresolvable name .noSuchSchema := by
  unfold Breaks Document.resolve
  grind

theorem stops_or_breaks_or_continues (d : Document) (value : SchemaRef) :
    Stops d value ∨ (∃ name, Breaks d value name) ∨ ∃ next, Continues d value next := by
  cases resolved : d.resolve value with
  | error failure =>
    obtain ⟨name, breaks, -⟩ := breaks_iff_error.mp resolved
    exact .inr (.inl ⟨name, breaks⟩)
  | ok s =>
    cases hasNext : s.nextValue with
    | none => exact .inl ((stops_iff resolved).mpr hasNext)
    | some next => exact .inr (.inr ⟨next, (continues_iff resolved).mpr hasNext⟩)

private theorem ends_or_leads (d : Document) (value : SchemaRef) (n : Nat) :
    (∃ k last, k ≤ n ∧ Leads d value k last ∧ (Stops d last ∨ ∃ name, Breaks d last name)) ∨
      ∃ beyond, Leads d value (n + 1) beyond := by
  induction n with
  | zero => exact .inr ⟨value, .first⟩
  | succ n ih =>
    rcases ih with ⟨k, last, le, leads, ends⟩ | ⟨last, leads⟩
    · exact .inl ⟨k, last, Nat.le_succ_of_le le, leads, ends⟩
    · rcases stops_or_breaks_or_continues d last with stops | breaks | ⟨beyond, goesOn⟩
      · exact .inl ⟨n + 1, last, Nat.le_refl _, leads, .inl stops⟩
      · exact .inl ⟨n + 1, last, Nat.le_refl _, leads, .inr breaks⟩
      · exact .inr ⟨beyond, .next leads goesOn⟩

private theorem exists_leads_of_revolves (h : Revolves (Continues d) value) (n : Nat) :
    ∃ last, Leads d value (n + 1) last ∧ Revolves (Continues d) last := by
  induction n with
  | zero => exact ⟨value, .first, h⟩
  | succ n ih =>
    obtain ⟨last, leads, again⟩ := ih
    obtain ⟨beyond, goesOn, again⟩ := again.exists_step
    exact ⟨beyond, .next leads goesOn, again⟩

/-! ## Following a chain -/

private theorem valueChain_of_stops (more : Nat) (h : Stops d value) :
    valueChain d more value = .ok (1, value) := by
  have ⟨s, resolved, _⟩ := h
  exact valueChain_of_last more resolved ((stops_iff resolved).mp h)

private theorem valueChain_of_breaks {name : String} (more : Nat) (h : Breaks d value name) :
    valueChain d more value = .error (.unresolvable name .noSuchSchema) := by
  have missing := breaks_iff_error.mpr ⟨name, h, rfl⟩
  unfold valueChain
  rw [missing]
  rfl

theorem valueChain_of_continues (more : Nat) (h : Continues d value next) :
    valueChain d (more + 1) value =
      (valueChain d more next).map fun (count, last) => (count + 1, last) := by
  have ⟨s, resolved, _⟩ := h
  rw [valueChain]
  simp only [resolved, bind, Except.bind, (continues_iff resolved).mp h]
  cases valueChain d more next <;> rfl

private theorem valueChain_zero_of_continues (h : Continues d value next) :
    valueChain d 0 value =
      .error (.unresolvable (value.reference?.getD "additionalProperties") .endlessMap) := by
  have ⟨s, resolved, _⟩ := h
  rw [valueChain]
  simp only [resolved, bind, Except.bind, (continues_iff resolved).mp h]
  rfl

/-! ## The rounds of the loop -/

/-- The loop that follows a chain, from the value schema with number `depth` on: in `rounds`
rounds it comes to `outcome`. The loop has no bound of its own. It adds one to `depth` before it
goes on, and gives up if that is more than 64. -/
inductive Rounds (d : Document) :
    Nat → SchemaRef → Nat → Except Failure (Nat × SchemaRef) → Prop where
  | missing {depth : Nat} {value : SchemaRef} {failure : Failure} :
      d.resolve value = .error failure → Rounds d depth value 1 (.error failure)
  | stops {depth : Nat} {value : SchemaRef} :
      Stops d value → Rounds d depth value 1 (.ok (depth, value))
  | tooDeep {depth : Nat} {value next : SchemaRef} :
      Continues d value next → 64 < depth + 1 →
      Rounds d depth value 1
        (.error (.unresolvable (value.reference?.getD "additionalProperties") .endlessMap))
  | next {depth rounds : Nat} {value next : SchemaRef}
      {outcome : Except Failure (Nat × SchemaRef)} :
      Continues d value next → depth + 1 ≤ 64 → Rounds d (depth + 1) next rounds outcome →
      Rounds d depth value (rounds + 1) outcome

section

variable {depth rounds : Nat} {outcome : Except Failure (Nat × SchemaRef)}

private theorem Rounds.le (h : Rounds d depth value rounds outcome) (within : depth ≤ 64) :
    rounds + depth ≤ 65 := by
  induction h with
  | missing | stops | tooDeep => omega
  | next _ deeper _ ih =>
    have rest := ih deeper
    omega

private theorem Rounds.of_leads (leads : Leads d value n last) (within : n ≤ 64)
    (h : Rounds d n last rounds outcome) : ∃ all, Rounds d 1 value all outcome := by
  induction leads generalizing rounds with
  | first => exact ⟨rounds, h⟩
  | next _ goesOn ih => exact ih (by omega) (.next goesOn within h)

/-- The chain ends within 64 value schemas, or the loop gives up after them. -/
theorem exists_rounds (d : Document) (value : SchemaRef) :
    ∃ rounds outcome, Rounds d 1 value rounds outcome := by
  rcases ends_or_leads d value 64 with ⟨n, last, within, leads, ends⟩ | ⟨beyond, leads⟩
  · rcases ends with stops | ⟨name, breaks⟩
    · obtain ⟨rounds, all⟩ := Rounds.of_leads leads within (.stops stops)
      exact ⟨rounds, _, all⟩
    · have missing := breaks_iff_error.mpr ⟨name, breaks, rfl⟩
      obtain ⟨rounds, all⟩ := Rounds.of_leads leads within (.missing missing)
      exact ⟨rounds, _, all⟩
  · cases leads with
    | next leads goesOn =>
      obtain ⟨rounds, all⟩ := Rounds.of_leads leads (Nat.le_refl 64)
        (.tooDeep goesOn (Nat.lt_succ_self 64))
      exact ⟨rounds, _, all⟩

private theorem Rounds.outcome_eq (h : Rounds d depth value rounds outcome) :
    ∀ {more : Nat}, depth + more = 64 →
      outcome = (valueChain d more value).map fun (count, last) => (count + depth - 1, last) := by
  induction h with
  | missing fails =>
    intro more _
    obtain ⟨name, breaks, rfl⟩ := breaks_iff_error.mp fails
    rw [valueChain_of_breaks more breaks]
    rfl
  | @stops depth value stops =>
    intro more _
    rw [valueChain_of_stops more stops]
    exact congrArg (fun count => Except.ok (count, value)) (Nat.add_sub_cancel_left 1 depth).symm
  | tooDeep goesOn deep =>
    intro more sum
    obtain rfl : more = 0 := by omega
    rw [valueChain_zero_of_continues goesOn]
    rfl
  | @next depth _ _ next _ goesOn within _ ih =>
    intro more sum
    obtain ⟨more, rfl⟩ : ∃ fewer, more = fewer + 1 := ⟨more - 1, by omega⟩
    rw [ih (by omega : depth + 1 + more = 64), valueChain_of_continues more goesOn]
    cases valueChain d more next with
    | error failure => rfl
    | ok chain =>
      have count : chain.1 + (depth + 1) - 1 = chain.1 + 1 + depth - 1 := by omega
      exact congrArg (fun count => Except.ok (count, chain.2)) count

end

/-! ## Maps by their chains -/

private theorem wrapMaps_eq_iterate (n : Nat) (shape : Shape) :
    wrapMaps n shape = Shape.map^[n] shape := by
  induction n with
  | zero => rfl
  | succ n ih => rw [wrapMaps, ih, Function.iterate_succ_apply']

private theorem resolveElementWithin_of_form {schema : Schema} {room count : Nat}
    (form : schema.form = .map value) (size : (met d schema).length = room + 1)
    (found : valueChain d (chainLimit - 1) value = .ok (count, last)) :
    (resolveElementWithin d room last).result = (resolveElement d last).result := by
  by_cases recurs : Recurs d last
  · exact (resolveElementWithin_endless recurs room).trans
      (resolveElementWithin_endless recurs (roomFor d last)).symm
  · have ends : ¬ Endless (resolveElementWithin d room last) := by
      intro endless
      obtain ⟨t, rfl, plain, endless⟩ := elementShape_endless_iff.mp endless
      have whole : Endless (inlineType d (met d schema).length schema true) := by
        rw [size]
        exact inlineType_succ_endless_iff.mpr ⟨t, .value form found plain, endless⟩
      obtain ⟨u, inner, again⟩ := (inlineType_met_endless_iff.mp whole).exists_step
      cases inner with
      | item form' => cases form.symm.trans form'
      | value form' found' _ =>
        cases form.symm.trans form'
        cases found.symm.trans found'
        exact recurs again
    rcases Nat.le_total room (roomFor d last) with le | le
    · rw [resolveElement, resolveElementWithin_stable room _ ends le]
    · rw [resolveElement, resolveElementWithin_stable _ room (resolveElement_ends recurs) le]

theorem resolve_of_form {schema : Schema} (required : Bool) (form : schema.form = .map value) :
    (resolve d (.inline schema) required).result =
      valueChain d (chainLimit - 1) value >>= fun (count, last) =>
        (resolveElement d last).result.map fun shape => ⟨Shape.map^[count] shape, false⟩ := by
  obtain ⟨room, size, within⟩ := exists_room d schema
  rw [within, inlineType, form]
  dsimp only
  rw [bind_pure_comp, Diagnosed.result_map, mapShape]
  cases found : valueChain d (chainLimit - 1) value with
  | error failure => rfl
  | ok chain =>
    obtain ⟨count, last⟩ := chain
    show ((wrapMaps count <$> resolveElementWithin d room last).result.map
      fun shape => ResolvedType.mk shape false) =
        (resolveElement d last).result.map fun shape => ⟨Shape.map^[count] shape, false⟩
    rw [Diagnosed.result_map, resolveElementWithin_of_form form size found]
    cases (resolveElement d last).result with
    | error failure => rfl
    | ok shape =>
      show Except.ok (ResolvedType.mk (wrapMaps count shape) false) = _
      rw [wrapMaps_eq_iterate]
      rfl

/-- Where the loop comes to an outcome, the map does so with the element at the end. -/
theorem resolve_of_rounds {schema : Schema} (required : Bool) (form : schema.form = .map value)
    (h : Rounds d 1 value rounds outcome) :
    (resolve d (.inline schema) required).result =
      outcome >>= fun (count, last) =>
        (resolveElement d last).result.map fun shape => ⟨Shape.map^[count] shape, false⟩ := by
  rw [resolve_of_form required form, h.outcome_eq (rfl : 1 + (chainLimit - 1) = 64)]
  cases valueChain d (chainLimit - 1) value <;> rfl

/-- A map in place goes by the chain of its value schemas. If that stops at the one with number
`n`, which is not after the 64th, the type is that of the element there inside `n` maps, or it
fails as the element does. If one of the first 64 refers to a component that is not there, it
fails for that name. If the chain goes on after the 64th, it fails for that one. There is no
other case, and a chain that comes back to itself goes on after the 64th. The loop that follows
the chain always ends, in 64 rounds at the most, and the type is decided by what it comes to. -/
theorem resolve_map_by_chain {schema : Schema} (required : Bool) (form : schema.form = .map value) :
    (∀ n last, Leads d value n last → n ≤ 64 → Stops d last →
      (resolve d (.inline schema) required).result =
        (resolveElement d last).result.map fun shape => ⟨Shape.map^[n] shape, false⟩) ∧
    (∀ n last name, Leads d value n last → n ≤ 64 → Breaks d last name →
      (resolve d (.inline schema) required).result =
        .error (.unresolvable name .noSuchSchema)) ∧
    (∀ last beyond, Leads d value 64 last → Continues d last beyond →
      (resolve d (.inline schema) required).result =
        .error (.unresolvable (last.reference?.getD "additionalProperties") .endlessMap)) ∧
    ((∃ n last, n ≤ 64 ∧ Leads d value n last ∧ (Stops d last ∨ ∃ name, Breaks d last name)) ∨
      ∃ last beyond, Leads d value 64 last ∧ Continues d last beyond) ∧
    (Revolves (Continues d) value →
      ∃ last beyond, Leads d value 64 last ∧ Continues d last beyond) ∧
    (∃ rounds outcome, Rounds d 1 value rounds outcome) ∧
    (∀ rounds outcome, Rounds d 1 value rounds outcome → rounds ≤ 64 ∧
      (resolve d (.inline schema) required).result =
        outcome >>= fun (count, last) =>
          (resolveElement d last).result.map fun shape => ⟨Shape.map^[count] shape, false⟩) := by
  refine ⟨?stops, ?breaks, ?goesOn, ?cases, ?cyclic, exists_rounds d value, ?rounds⟩
  case stops =>
    intro n last leads within stops
    obtain ⟨_, all⟩ := Rounds.of_leads leads within (.stops stops)
    exact resolve_of_rounds required form all
  case breaks =>
    intro n last name leads within breaks
    obtain ⟨_, all⟩ := Rounds.of_leads leads within
      (.missing (breaks_iff_error.mpr ⟨name, breaks, rfl⟩))
    exact resolve_of_rounds required form all
  case goesOn =>
    intro last beyond leads goesOn
    obtain ⟨_, all⟩ := Rounds.of_leads leads (Nat.le_refl 64)
      (.tooDeep goesOn (Nat.lt_succ_self 64))
    exact resolve_of_rounds required form all
  case cases =>
    rcases ends_or_leads d value 64 with ends | ⟨beyond, leads⟩
    · exact .inl ends
    · cases leads with
      | next leads goesOn => exact .inr ⟨_, beyond, leads, goesOn⟩
  case cyclic =>
    intro again
    obtain ⟨last, leads, again⟩ := exists_leads_of_revolves again 63
    obtain ⟨beyond, goesOn, -⟩ := again.exists_step
    exact ⟨last, beyond, leads, goesOn⟩
  case rounds =>
    intro rounds outcome h
    have bound := h.le (by decide)
    exact ⟨by omega, resolve_of_rounds required form h⟩

def ringSchema : Schema :=
  { Schema.empty with type := some "object", additional := some (.reference "Ring") }

def ringDocument : Document :=
  ⟨"3.0.3", ⟨"Ring", "1.0.0", none⟩, [], [("Ring", ringSchema)], []⟩

def textSchema : Schema := { Schema.empty with type := some "string" }

def textsSchema : Schema :=
  { Schema.empty with type := some "object", additional := some (.inline textSchema) }

def nestedSchema : Schema :=
  { Schema.empty with type := some "object", additional := some (.inline textsSchema) }

/-- A chain of two value schemas, and one that comes back to itself. -/
theorem resolve_nested_and_ring :
    (nestedSchema.form = .map (.inline textsSchema) ∧
      (resolve ringDocument (.inline nestedSchema) true).result =
        .ok ⟨.map (.map (.primitive .string)), false⟩) ∧
    ringSchema.form = .map (.reference "Ring") ∧
      ∃ name, (resolve ringDocument (.inline ringSchema) true).result =
        .error (.unresolvable name .endlessMap) := by
  have second : Leads ringDocument (.inline textsSchema) 2 (.inline textSchema) :=
    .next .first ⟨textsSchema, rfl, rfl, rfl, by decide⟩
  have stops : Stops ringDocument (.inline textSchema) := ⟨textSchema, rfl, .inl rfl⟩
  have nested := (resolve_map_by_chain (d := ringDocument) true
    (rfl : nestedSchema.form = .map (.inline textsSchema))).1 2 _ second (by decide) stops
  have again : Revolves (Continues ringDocument) (.reference "Ring") :=
    ⟨.reference "Ring", .refl, .single ⟨ringSchema, rfl, rfl, rfl, by decide⟩⟩
  have ring := resolve_map_by_chain (d := ringDocument) true
    (rfl : ringSchema.form = .map (.reference "Ring"))
  obtain ⟨last, beyond, leads, goesOn⟩ := ring.2.2.2.2.1 again
  exact ⟨⟨rfl, nested⟩, rfl, _, ring.2.2.1 last beyond leads goesOn⟩

end Resolution

end ApiScaffold
