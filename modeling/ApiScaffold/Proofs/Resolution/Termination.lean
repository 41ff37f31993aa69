import ApiScaffold.Model.Resolution
import ApiScaffold.Proofs.Descent
import ApiScaffold.Proofs.Keyed
import ApiScaffold.Proofs.Outcome
/-!
# Types that stand inside themselves

The resolver goes from a schema to one that is written in place as its item or at the end of its
chain of values. It comes to an end exactly where no schema is met inside itself in that way.
-/
namespace ApiScaffold

namespace Schema

variable {s : Schema}

private theorem items_of_form {items : Option SchemaRef} (h : s.form = .list items) :
    s.items = items := by
  unfold form at h
  grind

private theorem additional_of_form {value : SchemaRef} (h : s.form = .map value) :
    s.additional = some value := by
  unfold form at h
  grind

private theorem additional_of_nextValue {next : SchemaRef} (h : s.nextValue = some next) :
    s.additional = some next := by
  unfold nextValue at h
  grind

end Schema

namespace Resolution

variable {d : Document}

/-- The only failure is that there is no room for a type inside others. -/
def Endless {α : Type} (x : Diagnosed α) : Prop := x.result = .error .endlessType

private theorem endless_map {α β : Type} {f : α → β} {x : Diagnosed α} :
    Endless (f <$> x) ↔ Endless x := by
  rw [Endless, Diagnosed.result_map, Outcome.map_eq_error, Endless]

private theorem endless_bind {α β : Type} {x : Diagnosed α} {f : α → Diagnosed β} :
    Endless (x >>= f) ↔ Endless x ∨ ∃ a, x.result = .ok a ∧ Endless (f a) :=
  Diagnosed.bind_result_eq_error

/-- A schema written in place that is resolved for another one: as its item, or at the end of
its chain of values. -/
inductive Inner (d : Document) : Schema → Schema → Prop where
  | item {s t : Schema} : s.form = .list (some (.inline t)) → t.isPlainObject = false →
      Inner d s t
  | value {s t : Schema} {value : SchemaRef} {count : Nat} : s.form = .map value →
      valueChain d (chainLimit - 1) value = .ok (count, .inline t) → t.isPlainObject = false →
      Inner d s t

/-! ## The only failure of that kind -/

private theorem resolve_ne_endless (position : SchemaRef) :
    d.resolve position ≠ .error .endlessType := by
  intro h
  unfold Document.resolve at h
  grind

private theorem ofReference_ne_endless (name : String) (required : Bool) :
    ofReference d name required ≠ .error .endlessType := by
  intro h
  rcases Outcome.bind_eq_error.mp h with h | ⟨_, -, h⟩
  · exact resolve_ne_endless _ h
  · cases h

private theorem valueChain_ne_endless (more : Nat) (value : SchemaRef) :
    valueChain d more value ≠ .error .endlessType := by
  induction more generalizing value with
  | zero =>
    intro h
    unfold valueChain at h
    rcases Outcome.bind_eq_error.mp h with h | ⟨schema, -, h⟩
    · exact resolve_ne_endless _ h
    · dsimp only at h
      split at h <;> cases h
  | succ more ih =>
    intro h
    unfold valueChain at h
    rcases Outcome.bind_eq_error.mp h with h | ⟨schema, -, h⟩
    · exact resolve_ne_endless _ h
    · dsimp only at h
      split at h
      · cases h
      · rcases Outcome.bind_eq_error.mp h with h | ⟨_, -, h⟩
        · exact ih _ h
        · cases h

/-! ## Steps of a chain of values -/

theorem valueChain_of_last {value : SchemaRef} {s : Schema} (more : Nat)
    (resolved : d.resolve value = .ok s) (last : s.nextValue = none) :
    valueChain d more value = .ok (1, value) := by
  unfold valueChain
  simp only [resolved, bind, Except.bind, last]
  rfl

private theorem valueChain_of_next {value next last : SchemaRef} {s : Schema} {more count : Nat}
    (resolved : d.resolve value = .ok s) (hasNext : s.nextValue = some next)
    (rest : valueChain d more next = .ok (count, last)) :
    valueChain d (more + 1) value = .ok (count + 1, last) := by
  rw [valueChain]
  simp only [resolved, bind, Except.bind, hasNext, rest]
  rfl

/-! ## Elements and values -/

theorem elementShape_endless_iff {inner : Schema → Diagnosed ResolvedType} {position : SchemaRef} :
    Endless (elementShape d inner position) ↔
      ∃ t, position = .inline t ∧ t.isPlainObject = false ∧ Endless (inner t) := by
  cases position with
  | reference name =>
    constructor
    · intro h
      rcases endless_bind.mp h with h | ⟨_, -, h⟩
      · exact (ofReference_ne_endless name true h).elim
      · cases h
    · intro h
      obtain ⟨_, h, -⟩ := h
      cases h
  | inline t =>
    unfold elementShape
    by_cases plain : t.isPlainObject = true
    · simp [plain, Endless]
    · simp [plain, endless_map]

private theorem elementShape_congr {inner inner' : Schema → Diagnosed ResolvedType}
    {position : SchemaRef}
    (h : ∀ t, position = .inline t → t.isPlainObject = false → inner t = inner' t) :
    elementShape d inner position = elementShape d inner' position := by
  cases position with
  | reference name => rfl
  | inline t =>
    unfold elementShape
    by_cases plain : t.isPlainObject = true
    · simp [plain]
    · simp [plain, h t rfl]

private theorem mapShape_endless_iff {inner : Schema → Diagnosed ResolvedType} {value : SchemaRef} :
    Endless (mapShape d inner value) ↔
      ∃ count t, valueChain d (chainLimit - 1) value = .ok (count, .inline t) ∧
        t.isPlainObject = false ∧ Endless (inner t) := by
  unfold mapShape
  rw [endless_bind]
  constructor
  · intro h
    rcases h with h | ⟨⟨count, last⟩, found, h⟩
    · exact (valueChain_ne_endless _ _ h).elim
    · rcases endless_bind.mp h with h | ⟨_, -, h⟩
      · obtain ⟨t, rfl, plain, h⟩ := elementShape_endless_iff.mp h
        exact ⟨count, t, found, plain, h⟩
      · cases h
  · intro h
    obtain ⟨count, t, found, plain, h⟩ := h
    have element : Endless (elementShape d inner (.inline t)) :=
      elementShape_endless_iff.mpr ⟨t, rfl, plain, h⟩
    exact .inr ⟨(count, .inline t), found, endless_bind.mpr (.inl element)⟩

private theorem mapShape_congr {inner inner' : Schema → Diagnosed ResolvedType} {value : SchemaRef}
    (h : ∀ count t, valueChain d (chainLimit - 1) value = .ok (count, .inline t) →
      t.isPlainObject = false → inner t = inner' t) :
    mapShape d inner value = mapShape d inner' value := by
  unfold mapShape
  cases found : valueChain d (chainLimit - 1) value with
  | error failure => rfl
  | ok chain =>
    obtain ⟨count, last⟩ := chain
    have same : elementShape d inner last = elementShape d inner' last :=
      elementShape_congr fun t inline plain => h count t (inline ▸ found) plain
    show (do return wrapMaps count (← elementShape d inner last)) = _
    rw [same]
    rfl

/-! ## One schema after another -/

theorem inlineType_succ_endless_iff {room : Nat} {s : Schema} {required : Bool} :
    Endless (inlineType d (room + 1) s required) ↔
      ∃ t, Inner d s t ∧ Endless (inlineType d room t true) := by
  rw [inlineType]
  cases form : s.form with
  | list items =>
    cases items with
    | none =>
      refine ⟨nofun, ?_⟩
      intro h
      obtain ⟨t, inner, -⟩ := h
      cases inner <;> simp_all
    | some items =>
      simp only [bind_pure_comp, endless_map, elementShape_endless_iff]
      constructor
      · intro h
        obtain ⟨t, rfl, plain, h⟩ := h
        exact ⟨t, .item form plain, h⟩
      · intro h
        obtain ⟨t, inner, h⟩ := h
        cases inner with
        | item form' plain =>
          cases form.symm.trans form'
          exact ⟨t, rfl, plain, h⟩
        | value form' => cases form.symm.trans form'
  | map value =>
    simp only [bind_pure_comp, endless_map, mapShape_endless_iff]
    constructor
    · intro h
      obtain ⟨count, t, found, plain, h⟩ := h
      exact ⟨t, .value form found plain, h⟩
    · intro h
      obtain ⟨t, inner, h⟩ := h
      cases inner with
      | item form' => cases form.symm.trans form'
      | value form' found plain =>
        cases form.symm.trans form'
        exact ⟨_, t, found, plain, h⟩
  | _ =>
    refine ⟨nofun, ?_⟩
    intro h
    obtain ⟨t, inner, -⟩ := h
    cases inner <;> simp_all

private theorem inlineType_succ_congr {room more : Nat} {s : Schema} {required : Bool}
    (h : ∀ t, Inner d s t → inlineType d room t true = inlineType d more t true) :
    inlineType d (room + 1) s required = inlineType d (more + 1) s required := by
  rw [inlineType, inlineType]
  cases form : s.form with
  | list items =>
    cases items with
    | none => rfl
    | some items =>
      have same := elementShape_congr (d := d) fun t inline plain =>
        h t (.item (inline ▸ form) plain)
      simp only [same]
  | map value =>
    have same := mapShape_congr fun count t found plain => h t (.value form found plain)
    simp only [same]
  | _ => rfl

/-- There is not room enough exactly if a way of that many steps leads down. -/
theorem inlineType_endless_iff {room : Nat} {s : Schema} {required : Bool} :
    Endless (inlineType d room s required) ↔ Descends (Inner d) room s := by
  induction room generalizing s required with
  | zero => exact ⟨fun _ => .here s, fun _ => rfl⟩
  | succ room ih =>
    rw [inlineType_succ_endless_iff]
    constructor
    · intro h
      obtain ⟨t, inner, h⟩ := h
      exact .step inner (ih.mp h)
    · intro h
      cases h with
      | step inner h => exact ⟨_, inner, ih.mpr h⟩

private theorem inlineType_eq_of_le {room more : Nat} {s : Schema} {required : Bool}
    (h : ¬ Endless (inlineType d room s required)) (le : room ≤ more) :
    inlineType d more s required = inlineType d room s required := by
  induction room generalizing s required more with
  | zero => exact (h rfl).elim
  | succ room ih =>
    obtain ⟨more, rfl⟩ := Nat.exists_eq_add_of_le' (Nat.lt_of_lt_of_le (Nat.zero_lt_succ _) le)
    refine inlineType_succ_congr fun t inner => ih ?_ (Nat.le_of_succ_le_succ le)
    exact fun endless => h (inlineType_succ_endless_iff.mpr ⟨t, inner, endless⟩)

/-! ## Everything that can be met -/

private theorem schemaParts_eq (s : Schema) :
    schemaParts s = s :: (optionalParts s.items ++ optionalParts s.additional) := by
  cases s
  rw [schemaParts]

private theorem self_mem_schemaParts (s : Schema) : s ∈ schemaParts s := by
  rw [schemaParts_eq]
  exact List.mem_cons_self

private theorem items_subset_schemaParts (s : Schema) : optionalParts s.items ⊆ schemaParts s := by
  rw [schemaParts_eq]
  exact List.subset_cons_of_subset _ (List.subset_append_left _ _)

private theorem additional_subset_schemaParts (s : Schema) :
    optionalParts s.additional ⊆ schemaParts s := by
  rw [schemaParts_eq]
  exact List.subset_cons_of_subset _ (List.subset_append_right _ _)

mutual

private theorem schemaParts_subset :
    ∀ {s t : Schema}, t ∈ schemaParts s → schemaParts t ⊆ schemaParts s
  | ⟨_, _, _, _, _, items, additional, _, _, _, _⟩, t, h => by
    rw [schemaParts] at h ⊢
    rcases List.mem_cons.mp h with rfl | h
    · rw [schemaParts]
      exact List.Subset.refl _
    · refine List.subset_cons_of_subset _ ?_
      rcases List.mem_append.mp h with h | h
      · exact List.subset_append_of_subset_left _ (optionalParts_subset h)
      · exact List.subset_append_of_subset_right _ (optionalParts_subset h)

theorem optionalParts_subset : ∀ {position : Option SchemaRef} {t : Schema},
    t ∈ optionalParts position → schemaParts t ⊆ optionalParts position
  | some position, t, h => by
    rw [optionalParts] at h ⊢
    exact positionParts_subset h

theorem positionParts_subset : ∀ {position : SchemaRef} {t : Schema},
    t ∈ positionParts position → schemaParts t ⊆ positionParts position
  | .inline s, t, h => by
    rw [positionParts] at h ⊢
    exact schemaParts_subset h

end

def met (d : Document) (s : Schema) : List Schema :=
  schemaParts s ++ d.schemas.values.flatMap schemaParts

variable {start : Schema}

private theorem schemaParts_subset_met {s : Schema} (h : s ∈ met d start) :
    schemaParts s ⊆ met d start := by
  rcases List.mem_append.mp h with h | h
  · exact List.subset_append_of_subset_left _ (schemaParts_subset h)
  · refine List.subset_append_of_subset_right _ fun t ht => ?_
    obtain ⟨component, isComponent, h⟩ := List.mem_flatMap.mp h
    exact List.mem_flatMap.mpr ⟨component, isComponent, schemaParts_subset h ht⟩

private theorem mem_met_of_resolve {position : SchemaRef} {s : Schema}
    (inside : positionParts position ⊆ met d start) (h : d.resolve position = .ok s) :
    s ∈ met d start := by
  cases position with
  | inline schema =>
    cases h
    exact inside (by rw [positionParts]; exact self_mem_schemaParts s)
  | reference name =>
    unfold Document.resolve at h
    split at h
    next heq => cases heq
    next _ _ heq =>
      cases heq
      split at h
      next schema found =>
        cases h
        have isComponent : s ∈ d.schemas.values :=
          List.mem_map_of_mem (f := Prod.snd) (Keyed.mem_of_get? found)
        exact List.mem_append_right _
          (List.mem_flatMap.mpr ⟨s, isComponent, self_mem_schemaParts s⟩)
      next => cases h

private theorem valueChain_subset_met {more count : Nat} {value last : SchemaRef}
    (inside : positionParts value ⊆ met d start)
    (h : valueChain d more value = .ok (count, last)) : positionParts last ⊆ met d start := by
  induction more generalizing value count with
  | zero =>
    unfold valueChain at h
    obtain ⟨s, -, h⟩ := Outcome.bind_eq_ok.mp h
    dsimp only at h
    split at h
    · cases h
      exact inside
    · cases h
  | succ more ih =>
    unfold valueChain at h
    obtain ⟨s, resolved, h⟩ := Outcome.bind_eq_ok.mp h
    dsimp only at h
    split at h
    · cases h
      exact inside
    next next hasNext =>
      obtain ⟨⟨_, _⟩, rest, h⟩ := Outcome.bind_eq_ok.mp h
      cases h
      refine ih (fun t ht => ?_) rest
      have parts := schemaParts_subset_met (mem_met_of_resolve inside resolved)
      refine parts (additional_subset_schemaParts s ?_)
      rwa [Schema.additional_of_nextValue hasNext, optionalParts]

private theorem inner_mem_met (s t : Schema) (hs : s ∈ met d start) (inner : Inner d s t) :
    t ∈ met d start := by
  have parts := schemaParts_subset_met hs
  cases inner with
  | item form _ =>
    refine parts (items_subset_schemaParts s ?_)
    rw [Schema.items_of_form form, optionalParts, positionParts]
    exact self_mem_schemaParts t
  | @value value _ form chain _ =>
    have inside : positionParts value ⊆ met d start := by
      intro u hu
      refine parts (additional_subset_schemaParts s ?_)
      rwa [Schema.additional_of_form form, optionalParts]
    refine valueChain_subset_met inside chain ?_
    rw [positionParts]
    exact self_mem_schemaParts t

/-- The room for everything that can be met is not enough exactly for a schema from which one is
met that contains itself. -/
theorem inlineType_met_endless_iff {required : Bool} :
    Endless (inlineType d (met d start).length start required) ↔ Revolves (Inner d) start := by
  rw [inlineType_endless_iff]
  exact descends_iff_revolves
    (met_of_closed (List.mem_append_left _ (self_mem_schemaParts start)) inner_mem_met)

/-! ## Where the resolver comes to an end -/

/-- The schema that is written at a position leads to one that is met inside itself. -/
def Recurs (d : Document) : SchemaRef → Prop
  | .reference _ => False
  | .inline s => Revolves (Inner d) s

private theorem not_inner_of_plain {s t : Schema} (plain : s.isPlainObject = true) :
    ¬ Inner d s t := by
  have record : s.form = .record := by
    unfold Schema.isPlainObject at plain
    unfold Schema.form Schema.hasType at *
    grind
  intro inner
  cases inner <;> simp_all

private theorem not_revolves_of_plain {s : Schema} (plain : s.isPlainObject = true) :
    ¬ Revolves (Inner d) s := by
  intro h
  obtain ⟨t, inner, -⟩ := h.exists_step
  exact not_inner_of_plain plain inner

private theorem roomFor_inline (s : Schema) : roomFor d (.inline s) = (met d s).length := by
  rw [roomFor, positionParts, met]

theorem exists_room (d : Document) (s : Schema) :
    ∃ room, (met d s).length = room + 1 ∧
      ∀ required, resolve d (.inline s) required = inlineType d (room + 1) s required := by
  obtain ⟨room, size⟩ : ∃ room, (met d s).length = room + 1 :=
    Nat.exists_eq_add_one.mpr (List.length_pos_of_mem
      (List.mem_append_left _ (self_mem_schemaParts s)))
  refine ⟨room, size, fun required => ?_⟩
  rw [resolve, roomFor_inline, size, resolveWithin]

section

variable {position : SchemaRef} {required : Bool}

private theorem resolveWithin_stable (room more : Nat)
    (h : ¬ Endless (resolveWithin d room position required)) (le : room ≤ more) :
    resolveWithin d more position required = resolveWithin d room position required := by
  cases position with
  | reference name => rfl
  | inline s => exact inlineType_eq_of_le h le

private theorem resolveWithin_endless (h : Recurs d position) (room : Nat) :
    Endless (resolveWithin d room position required) := by
  cases position with
  | reference name => cases h
  | inline s => exact inlineType_endless_iff.mpr (h.descends room)

private theorem resolve_ends (h : ¬ Recurs d position) :
    ¬ Endless (resolve d position required) := by
  cases position with
  | reference name => exact ofReference_ne_endless name required
  | inline s =>
    rw [resolve, roomFor_inline]
    exact fun endless => h (inlineType_met_endless_iff.mp endless)

theorem resolveElementWithin_stable (room more : Nat)
    (h : ¬ Endless (resolveElementWithin d room position)) (le : room ≤ more) :
    resolveElementWithin d more position = resolveElementWithin d room position := by
  refine elementShape_congr fun t inline plain => inlineType_eq_of_le (fun endless => h ?_) le
  exact elementShape_endless_iff.mpr ⟨t, inline, plain, endless⟩

theorem resolveElementWithin_endless (h : Recurs d position) (room : Nat) :
    Endless (resolveElementWithin d room position) := by
  cases position with
  | reference name => cases h
  | inline s =>
    have plain : s.isPlainObject = false :=
      Bool.eq_false_iff.mpr fun plain => not_revolves_of_plain plain h
    exact elementShape_endless_iff.mpr
      ⟨s, rfl, plain, inlineType_endless_iff.mpr (h.descends room)⟩

theorem resolveElement_ends (h : ¬ Recurs d position) : ¬ Endless (resolveElement d position) := by
  intro endless
  obtain ⟨s, rfl, -, endless⟩ := elementShape_endless_iff.mp endless
  rw [roomFor_inline] at endless
  exact h (inlineType_met_endless_iff.mp endless)

end

/-- The resolver comes to an answer at every position from which no schema is met inside itself,
and at no other; `resolve` and `resolveElement` give that answer. -/
theorem settles_iff_not_recurs (d : Document) (position : SchemaRef) (required : Bool) :
    ((∃ answer, Settles Endless (resolveWithin d · position required) answer) ↔
      ¬ Recurs d position) ∧
    ((∃ answer, Settles Endless (resolveElementWithin d · position) answer) ↔
      ¬ Recurs d position) ∧
    (∀ answer, Settles Endless (resolveWithin d · position required) answer →
      resolve d position required = answer) ∧
    (∀ answer, Settles Endless (resolveElementWithin d · position) answer →
      resolveElement d position = answer) :=
  ⟨exists_settles_iff resolveWithin_stable resolveWithin_endless resolve_ends,
    exists_settles_iff resolveElementWithin_stable resolveElementWithin_endless
      resolveElement_ends,
    fun _ => eq_of_settles resolveWithin_stable resolveWithin_endless resolve_ends,
    fun _ => eq_of_settles resolveElementWithin_stable resolveElementWithin_endless
      resolveElement_ends⟩

def loopItems : Schema :=
  { Schema.empty with type := some "object", additional := some (.reference "Loop") }

def loopList : Schema :=
  { Schema.empty with type := some "array", items := some (.inline loopItems) }

def loopSchema : Schema :=
  { Schema.empty with type := some "object", additional := some (.inline loopList) }

def loopDocument : Document :=
  ⟨"3.0.3", ⟨"Loop", "1.0.0", none⟩, [], [("Loop", loopSchema)], []⟩

/-- No room is enough for the component, in which its own values stand as items. -/
theorem not_settles_loop :
    (¬ ∃ answer, Settles Endless (resolveWithin loopDocument · (.inline loopSchema) true)
      answer) ∧
    ¬ ∃ answer, Settles Endless (resolveElementWithin loopDocument · (.inline loopSchema))
      answer := by
  have ended (more : Nat) :
      valueChain loopDocument more (.inline loopList) = .ok (1, .inline loopList) :=
    valueChain_of_last more rfl rfl
  have enter : Inner loopDocument loopSchema loopList := .value rfl (ended _) rfl
  have down : Inner loopDocument loopList loopItems := .item rfl rfl
  have back : Inner loopDocument loopItems loopList :=
    .value rfl (valueChain_of_next rfl rfl (ended _)) rfl
  have recurs : Recurs loopDocument (.inline loopSchema) :=
    ⟨loopList, .single enter, .tail (.single down) back⟩
  exact ⟨fun ⟨_, h⟩ => not_settles_of_lacks (resolveWithin_endless recurs) h,
    fun ⟨_, h⟩ => not_settles_of_lacks (resolveElementWithin_endless recurs) h⟩

end Resolution

end ApiScaffold
