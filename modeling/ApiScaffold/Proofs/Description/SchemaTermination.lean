import ApiScaffold.Description.SchemaReader
import ApiScaffold.Proofs.Descent
import ApiScaffold.Proofs.Description.References
/-!
# Schemas that stand inside themselves

The reader goes from a schema to those at its positions, through references that are no
component's name. It comes to an end exactly where no schema is met inside itself in that way.
-/
namespace ApiScaffold.Description

variable {α β : Type}

/-- Reading failed only because there is no room for a schema inside others. -/
def Endless (x : Except Failure α) : Prop := ∃ node, x = .error (.endlessSchema node)

/-! ## More room -/

/-- What a reading `x` becomes with more room: it stays as it is, unless it stopped at a node for
which room was lacking. Then `stops` holds of the node, and where the node `lasts` more room is of
no use. -/
structure Keeps (stops lasts : Json → Prop) (x more : Except Failure α) : Prop where
  stopped {node : Json} : x = .error (.endlessSchema node) → stops node
  lasting {node : Json} : x = .error (.endlessSchema node) → lasts node → more = x
  kept : ¬ Endless x → more = x

section

variable {stops lasts : Json → Prop} {x x' : Except Failure α}

theorem Keeps.same (h : ¬ Endless x) : Keeps stops lasts x x where
  stopped same := (h ⟨_, same⟩).elim
  lasting _ _ := rfl
  kept _ := rfl

theorem Keeps.ok (a : α) : Keeps stops lasts (.ok a) (.ok a) := .same nofun

theorem Keeps.bind {f f' : α → Except Failure β} (h : Keeps stops lasts x x')
    (hf : ∀ a, x = .ok a → Keeps stops lasts (f a) (f' a)) :
    Keeps stops lasts (x >>= f) (x' >>= f') := by
  cases x with
  | ok a =>
    rw [h.kept nofun]
    exact hf a rfl
  | error failure =>
    constructor
    · intro node same
      cases same
      exact h.stopped rfl
    · intro node same lasts
      cases same
      rw [h.lasting rfl lasts]
      rfl
    · intro ends
      have same : x' = .error failure := by
        refine h.kept ?_
        intro h
        obtain ⟨node, ⟨⟩⟩ := h
        exact ends ⟨node, rfl⟩
      rw [same]
      rfl

theorem Keeps.map (h : Keeps stops lasts x x') (f : α → β) :
    Keeps stops lasts (x.map f) (x'.map f) := by
  have same (y : Except Failure α) : y.map f = y >>= fun a => .ok (f a) := by cases y <;> rfl
  rw [same, same]
  exact h.bind fun a _ => .ok (f a)

theorem Keeps.mapError {f : Failure → Failure} (h : Keeps stops lasts x x')
    (hf : ∀ failure node, f failure = .endlessSchema node ↔ failure = .endlessSchema node) :
    Keeps stops lasts (x.mapError f) (x'.mapError f) := by
  have same {node : Json} (h : x.mapError f = .error (.endlessSchema node)) :
      x = .error (.endlessSchema node) := by
    obtain ⟨failure, fails, told⟩ := Outcome.mapError_eq_error.mp h
    rw [fails, (hf failure node).mp told]
  constructor
  · exact fun told => h.stopped (same told)
  · intro node told lasts
    rw [h.lasting (same told) lasts]
  · intro ends
    have notEndless : ¬ Endless x := fun ⟨node, fails⟩ =>
      ends ⟨node, Outcome.mapError_eq_error.mpr ⟨_, fails, (hf _ _).mpr rfl⟩⟩
    rw [h.kept notEndless]

theorem Keeps.mapM {f f' : α → Except Failure β} {l : List α}
    (h : ∀ a ∈ l, Keeps stops lasts (f a) (f' a)) :
    Keeps stops lasts (l.mapM f) (l.mapM f') := by
  induction l with
  | nil => exact .ok []
  | cons a l ih =>
    obtain ⟨first, rest⟩ := List.forall_mem_cons.mp h
    rw [List.mapM_cons, List.mapM_cons]
    exact first.bind fun b _ => (ih rest).map (b :: ·)

theorem Keeps.mapMembers {f f' : Json → Except Failure α} {members : Keyed Json}
    (h : ∀ node ∈ Keyed.values members, Keeps stops lasts (f node) (f' node)) :
    Keeps stops lasts (mapMembers f members) (mapMembers f' members) :=
  .mapM fun _ member => (h _ (List.mem_map_of_mem member)).map _

theorem Keeps.readOptional {f f' : Json → Except Failure α} {node : Option Json}
    (h : ∀ value, node = some value → Keeps stops lasts (f value) (f' value)) :
    Keeps stops lasts (readOptional f node) (readOptional f' node) := by
  cases node with
  | none => exact .ok none
  | some value => exact (h value rfl).map some

end

private theorem not_endless_hop {root : Json} {reference : String} :
    ¬ Endless (hop root reference) := by
  intro h
  obtain ⟨node, h⟩ := h
  unfold hop at h
  grind

private theorem not_endless_followWithin {root : Json} {rounds : Nat} {node : Json} :
    ¬ Endless (followWithin root rounds node) := by
  induction rounds generalizing node with
  | zero => exact fun ⟨_, h⟩ => nomatch h
  | succ rounds ih =>
    intro h
    obtain ⟨given, h⟩ := h
    unfold followWithin at h
    split at h
    · cases h
    · rcases Outcome.bind_eq_error.mp h with h | ⟨next, -, h⟩
      · exact not_endless_hop ⟨given, h⟩
      · exact ih ⟨given, h⟩

theorem not_endless_follow {root node : Json} : ¬ Endless (follow root node) :=
  not_endless_followWithin

private theorem readPosition_keeps {stops lasts : Json → Prop} {root : Json}
    {read read' : Json → Except Failure Schema}
    (h : ∀ node, Keeps stops lasts (read node) (read' node)) (node : Json) :
    Keeps stops lasts (readPosition root read node) (readPosition root read' node) := by
  unfold readPosition
  split
  · exact (h node).map _
  · split
    · exact .ok _
    · exact (Keeps.same not_endless_follow).bind fun target _ =>
        (h target).bind fun schema _ => .ok _

private theorem readSchema_keeps {root : Json} {room more : Nat} (le : room ≤ more) (node : Json) :
    Keeps (fun _ => True) (fun _ => False) (readSchema root room node)
      (readSchema root more node) := by
  induction room generalizing more node with
  | zero => exact ⟨fun _ => trivial, fun _ never => never.elim, fun h => (h ⟨node, rfl⟩).elim⟩
  | succ room ih =>
    obtain ⟨more, rfl⟩ := Nat.exists_eq_add_of_le' (Nat.lt_of_lt_of_le (Nat.zero_lt_succ _) le)
    have position (node : Json) : Keeps (fun _ => True) (fun _ => False)
        (readPosition root (readSchema root room) node)
        (readPosition root (readSchema root more) node) :=
      readPosition_keeps (ih (Nat.le_of_succ_le_succ le)) node
    cases node with
    | object members =>
      unfold readSchema
      refine (Keeps.mapMembers fun node _ => position node).bind fun properties _ => ?_
      refine (Keeps.readOptional fun node _ => position node).bind fun items _ => ?_
      refine (Keeps.readOptional fun node _ => position node).bind fun additional _ => ?_
      exact (Keeps.mapM fun node _ => position node).bind fun allOf _ => .ok _
    | _ => exact .same fun ⟨_, h⟩ => nomatch h

theorem readPosition_stable {root : Json} {room more : Nat} (le : room ≤ more) {node : Json}
    (h : ¬ Endless (readPosition root (readSchema root room) node)) :
    readPosition root (readSchema root more) node =
      readPosition root (readSchema root room) node :=
  (readPosition_keeps (readSchema_keeps le) node).kept h

/-! ## From a schema to another one -/

def positions (members : Keyed Json) : List Json :=
  Keyed.values (membersAt "properties" members) ++ ((Keyed.get? "items" members).toList ++
    ((additionalNode? members).toList ++ listAt "allOf" members))

/-- The schema at a position, unless a component is named there: the value itself, or the one
that its reference leads to. -/
def schemaAt? (root node : Json) : Option Json :=
  match reference? node with
  | none => some node
  | some reference =>
    match componentName? reference with
    | some _ => none
    | none => (follow root node).toOption

def Readable (root node : Json) : Prop :=
  ∃ room position, readPosition root (readSchema root room) node = .ok position

/-- A schema at one of its positions, which the reader comes to since it can read those before. -/
inductive Opens (root : Json) : Json → Json → Prop where
  | position {members : Keyed Json} {before after : List Json} {node schema : Json} :
      positions members = before ++ node :: after → (∀ other ∈ before, Readable root other) →
      schemaAt? root node = some schema → Opens root (.object members) schema

/-- From the position a schema is met that stands inside itself. -/
def Recurs (root node : Json) : Prop :=
  ∃ schema, schemaAt? root node = some schema ∧ Revolves (Opens root) schema

variable {root : Json} {room : Nat}

private theorem covers_mapMembers (f : Json → Except Failure α) (members : Keyed Json) :
    Outcome.Covers f (Keyed.values members) (mapMembers f members) := by
  induction members with
  | nil => exact Outcome.covers_nil []
  | cons member members ih =>
    obtain ⟨key, node⟩ := member
    unfold mapMembers
    rw [List.mapM_cons]
    exact ((Outcome.covers_step node).map (key, ·)).bind fun first => ih.map (first :: ·)

private theorem covers_readOptional (f : Json → Except Failure α) (node : Option Json) :
    Outcome.Covers f node.toList (readOptional f node) := by
  cases node with
  | none => exact Outcome.covers_nil none
  | some node => exact (Outcome.covers_step node).map some

theorem covers_readSchema (members : Keyed Json) :
    Outcome.Covers (readPosition root (readSchema root room)) (positions members)
      (readSchema root (room + 1) (.object members)) := by
  unfold readSchema
  refine (covers_mapMembers _ _).bind fun properties => ?_
  refine (covers_readOptional _ _).bind fun items => ?_
  refine (covers_readOptional _ _).bind fun additional => ?_
  exact (Outcome.covers_mapM _ _).map fun allOf => _

private theorem readPosition_endless_iff {node given : Json} :
    readPosition root (readSchema root room) node = .error (.endlessSchema given) ↔
      ∃ schema, schemaAt? root node = some schema ∧
        readSchema root room schema = .error (.endlessSchema given) := by
  unfold readPosition schemaAt?
  cases reference? node with
  | none => simp [Outcome.map_eq_error]
  | some reference =>
    dsimp only
    cases componentName? reference with
    | some name => simp
    | none =>
      cases followed : follow root node with
      | error failure =>
        have ends : failure ≠ .endlessSchema given := fun same =>
          not_endless_follow ⟨given, same ▸ followed⟩
        simp [Except.toOption, bind, Except.bind, ends]
      | ok target =>
        simp only [Except.toOption, Option.some.injEq, exists_eq_left']
        cases read : readSchema root room target <;>
          simp [read, bind, Except.bind, pure, Except.pure]

private theorem endless_readPosition_iff {node : Json} :
    Endless (readPosition root (readSchema root room) node) ↔
      ∃ schema, schemaAt? root node = some schema ∧ Endless (readSchema root room schema) := by
  constructor
  · intro h
    obtain ⟨given, h⟩ := h
    obtain ⟨schema, found, h⟩ := readPosition_endless_iff.mp h
    exact ⟨schema, found, given, h⟩
  · intro h
    obtain ⟨schema, found, given, h⟩ := h
    exact ⟨given, readPosition_endless_iff.mpr ⟨schema, found, h⟩⟩

private theorem endless_of_readable {node : Json} {failure : Failure} (h : Readable root node)
    (fails : readPosition root (readSchema root room) node = .error failure) :
    ∃ given, failure = .endlessSchema given := by
  obtain ⟨enough, position, good⟩ := h
  by_contra ends
  have notEndless : ¬ Endless (readPosition root (readSchema root room) node) := by
    intro h
    obtain ⟨given, h⟩ := h
    exact ends ⟨given, Except.error.inj (fails.symm.trans h)⟩
  have notEndless' : ¬ Endless (readPosition root (readSchema root enough) node) := by
    rw [good]
    exact nofun
  have same := (readPosition_stable (Nat.le_max_left room enough) notEndless).symm.trans
    (readPosition_stable (Nat.le_max_right room enough) notEndless')
  cases fails.symm.trans (same.trans good)

private theorem endless_readSchema_succ_iff {node : Json} :
    Endless (readSchema root (room + 1) node) ↔
      ∃ schema, Opens root node schema ∧ Endless (readSchema root room schema) := by
  constructor
  · intro h
    obtain ⟨given, h⟩ := h
    cases node with
    | object members =>
      obtain ⟨before, position, after, split, all, fails⟩ :=
        Outcome.faults_iff.mp ((covers_readSchema members).faults h)
      obtain ⟨schema, found, h⟩ := readPosition_endless_iff.mp fails
      refine ⟨schema, .position split (fun other member => ?_) found, given, h⟩
      exact ⟨room, all other member⟩
    | _ => cases h
  · intro h
    obtain ⟨schema, opens, endless⟩ := h
    cases opens with
    | @position members before after position _ split all found =>
      have covers : Outcome.Covers (readPosition root (readSchema root room)) (positions members)
          (readSchema root (room + 1) (.object members)) := covers_readSchema members
      obtain ⟨given, fails⟩ := endless_readPosition_iff.mpr ⟨schema, found, endless⟩
      cases h : readSchema root (room + 1) (.object members) with
      | ok read =>
        have member : position ∈ positions members := by simp [split]
        obtain ⟨_, good⟩ := covers.all h position member
        cases fails.symm.trans good
      | error failure =>
        -- The first fault may come before this position, but then it lacks room as well.
        have faults := covers.faults h
        rw [split] at faults
        obtain ⟨given', rfl⟩ := Outcome.fault_of_faults faults
          (fun other member _ he => endless_of_readable (all other member) he)
          ⟨_, fails, given, rfl⟩
        exact ⟨given', rfl⟩

/-- There is not room enough exactly if a way of that many steps leads down. -/
theorem endless_readSchema_iff {node : Json} :
    Endless (readSchema root room node) ↔ Descends (Opens root) room node := by
  induction room generalizing node with
  | zero => exact ⟨fun _ => .here node, fun _ => ⟨node, rfl⟩⟩
  | succ room ih =>
    rw [endless_readSchema_succ_iff]
    constructor
    · intro h
      obtain ⟨schema, opens, h⟩ := h
      exact .step opens (ih.mp h)
    · intro h
      cases h with
      | step opens h => exact ⟨_, opens, ih.mpr h⟩

/-! ## Everything that can be met -/

private theorem mem_nodes_of_schemaAt? {node schema : Json} (inside : node ∈ root.nodes)
    (h : schemaAt? root node = some schema) : schema ∈ root.nodes := by
  unfold schemaAt? at h
  split at h
  · cases h
    exact inside
  · split at h
    · cases h
    · cases followed : follow root node with
      | error failure =>
        rw [followed] at h
        cases h
      | ok target =>
        rw [followed] at h
        cases h
        exact mem_nodes_of_follow inside followed

private theorem mem_nodes_of_membersAt {key : String} {members : Keyed Json} {node : Json}
    (h : node ∈ Keyed.values (membersAt key members)) : node ∈ (Json.object members).nodes := by
  unfold membersAt at h
  cases found : Keyed.get? key members with
  | none => simp [found, Keyed.values] at h
  | some value =>
    cases value with
    | object inner =>
      simp only [found, Option.bind_some, Json.asObject?, Option.getD_some] at h
      exact Json.nodes_subset (Json.mem_nodes_of_lookup found) (Json.mem_nodes_of_values h)
    | _ => simp [found, Json.asObject?, Keyed.values] at h

theorem mem_nodes_of_listAt {key : String} {members : Keyed Json} {node : Json}
    (h : node ∈ listAt key members) : node ∈ (Json.object members).nodes := by
  unfold listAt at h
  cases found : Keyed.get? key members with
  | none => simp [found] at h
  | some value =>
    cases value with
    | array items =>
      simp only [found, Option.bind_some, Json.asArray?, Option.getD_some] at h
      exact Json.nodes_subset (Json.mem_nodes_of_lookup found) (Json.mem_nodes_of_mem h)
    | _ => simp [found, Json.asArray?] at h

private theorem mem_nodes_of_additionalNode? {members : Keyed Json} {node : Json}
    (h : additionalNode? members = some node) : node ∈ (Json.object members).nodes := by
  obtain ⟨inner, isObject, rfl⟩ := Option.map_eq_some_iff.mp h
  obtain ⟨value, found, isObject⟩ := Option.bind_eq_some_iff.mp isObject
  cases value with
  | object _ =>
    cases isObject
    exact Json.mem_nodes_of_lookup found
  | _ => cases isObject

private theorem mem_nodes_of_position {members : Keyed Json} {node : Json}
    (h : node ∈ positions members) : node ∈ (Json.object members).nodes := by
  simp only [positions, List.mem_append, Option.mem_toList] at h
  rcases h with h | h | h | h
  · exact mem_nodes_of_membersAt h
  · exact Json.mem_nodes_of_lookup h
  · exact mem_nodes_of_additionalNode? h
  · exact mem_nodes_of_listAt h

private theorem mem_nodes_of_opens {node schema : Json} (inside : node ∈ root.nodes)
    (h : Opens root node schema) : schema ∈ root.nodes := by
  obtain ⟨split, -, found⟩ := h
  refine mem_nodes_of_schemaAt? (Json.nodes_subset inside (mem_nodes_of_position ?_)) found
  rw [split]
  exact List.mem_append_right _ List.mem_cons_self

/-- With room for all nodes of the description a schema in it has no end exactly if one is met
from it that stands inside itself. -/
theorem endless_readSchema_nodes_iff {node : Json} (inside : node ∈ root.nodes) :
    Endless (readSchema root root.nodes.length node) ↔ Revolves (Opens root) node := by
  rw [endless_readSchema_iff]
  exact descends_iff_revolves (met_of_closed inside fun _ _ => mem_nodes_of_opens)

theorem recurs_of_endless {node : Json} (inside : node ∈ root.nodes)
    (h : Endless (readPosition root (readSchema root root.nodes.length) node)) :
    Recurs root node := by
  obtain ⟨schema, found, h⟩ := endless_readPosition_iff.mp h
  exact ⟨schema, found,
    (endless_readSchema_nodes_iff (mem_nodes_of_schemaAt? inside found)).mp h⟩

theorem Recurs.endless {node : Json} (h : Recurs root node) (room : Nat) :
    Endless (readPosition root (readSchema root room) node) := by
  obtain ⟨schema, found, h⟩ := h
  exact endless_readPosition_iff.mpr ⟨schema, found, endless_readSchema_iff.mpr (h.descends room)⟩

end ApiScaffold.Description
