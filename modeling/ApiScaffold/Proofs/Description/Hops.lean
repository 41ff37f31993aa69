import ApiScaffold.Proofs.Description.References
/-!
# How far references are followed

A node is looked at before each hop, and the node after the last hop is not looked at any more. So
a chain of as many hops as the limit allows is given up as if it were longer; any shorter chain is
followed to its end, and the first fault on the way is told.
-/
namespace ApiScaffold.Description

variable {root node middle last target : Json} {m n rounds : Nat}

/-- A number of hops leads from a node to another one, which may be a reference again. -/
inductive Hops (root : Json) : Nat → Json → Json → Prop where
  | none (node : Json) : Hops root 0 node node
  | hop {n : Nat} {node next last : Json} {reference : String} :
      reference? node = some reference → Description.hop root reference = .ok next →
      Hops root n next last → Hops root (n + 1) node last

namespace Hops

private theorem unique {other : Json} (h : Hops root n node last) (h' : Hops root n node other) :
    last = other := by
  induction h with
  | none node =>
    cases h'
    rfl
  | hop some first _ ih =>
    cases h' with
    | hop some' first' rest =>
      cases some.symm.trans some'
      cases first.symm.trans first'
      exact ih rest

private theorem trans (h : Hops root m node middle) (h' : Hops root n middle last) :
    Hops root (n + m) node last := by
  induction h with
  | none => exact h'
  | hop some first _ ih => exact .hop some first (ih h')

private theorem exists_middle (h : Hops root n node last) (le : m ≤ n) :
    ∃ middle, Hops root m node middle ∧ Hops root (n - m) middle last := by
  induction h generalizing m with
  | none node =>
    rw [Nat.le_zero.mp le]
    exact ⟨node, .none node, .none node⟩
  | @hop n node _ _ _ some first rest ih =>
    cases m with
    | zero => exact ⟨node, .none node, .hop some first rest⟩
    | succ m =>
      obtain ⟨middle, before, after⟩ := ih (Nat.le_of_succ_le_succ le)
      refine ⟨middle, .hop some first before, ?_⟩
      rwa [Nat.add_sub_add_right]

private theorem le_of_stuck (h : Hops root n node last) (stuck : ∀ next, ¬ Hops root 1 last next)
    {other : Json} (h' : Hops root m node other) : m ≤ n := by
  by_contra longer
  obtain ⟨middle, before, after⟩ := h'.exists_middle (Nat.le_of_not_le longer)
  cases h.unique before
  obtain ⟨next, first, -⟩ := after.exists_middle (m := 1) (by omega)
  exact stuck next first

end Hops

private theorem leads_iff : Leads root n node target ↔
    Hops root n node target ∧ reference? target = none := by
  constructor
  · intro h
    induction h with
    | here none => exact ⟨.none _, none⟩
    | hop some first _ ih => exact ⟨.hop some first ih.1, ih.2⟩
  · intro h
    obtain ⟨h, none⟩ := h
    induction h with
    | none => exact .here none
    | hop some first _ ih => exact .hop some first (ih none)

/-- The references from a node lead back to a node on the way. -/
def Circles (root node : Json) : Prop :=
  ∃ m middle n, Hops root m node middle ∧ Hops root (n + 1) middle middle

private theorem Circles.hops (h : Circles root node) (n : Nat) : ∃ last, Hops root n node last := by
  obtain ⟨m, middle, more, before, round⟩ := h
  have rounds (k : Nat) : ∃ length, k ≤ length ∧ Hops root length middle middle := by
    induction k with
    | zero => exact ⟨0, Nat.le_refl 0, .none middle⟩
    | succ k ih =>
      obtain ⟨length, le, h⟩ := ih
      exact ⟨length + (more + 1), by omega, round.trans h⟩
  obtain ⟨length, le, h⟩ := rounds n
  obtain ⟨last, h, -⟩ := (before.trans h).exists_middle (m := n) (by omega)
  exact ⟨last, h⟩

def overlong : Failure := .unloadable (.longReferenceChain hopLimit)

/-- The answer at a node from which there is no hop. -/
inductive Halts (root node : Json) : Except Failure Json → Prop where
  | target : reference? node = none → Halts root node (.ok node)
  | missing {reference : String} {pointer : List Char} : reference? node = some reference →
      reference.toList = '#' :: pointer → root.pointer? pointer = none →
      Halts root node (.error (.unresolvable reference .noTarget))
  | external {reference : String} : reference? node = some reference →
      reference.toList.head? ≠ some '#' →
      Halts root node (.error (.unloadable (.externalReference reference)))

namespace Halts

variable {answer other : Except Failure Json}

private theorem cases_hop (root : Json) {node : Json} {reference : String}
    (some : reference? node = some reference) :
    (∃ next, hop root reference = .ok next) ∨
      ∃ failure, hop root reference = .error failure ∧ Halts root node (.error failure) := by
  unfold hop
  split
  next pointer spelled =>
    cases found : root.pointer? pointer with
    | none => exact .inr ⟨_, rfl, .missing some spelled found⟩
    | some next => exact .inl ⟨next, rfl⟩
  next foreign =>
    refine .inr ⟨_, rfl, .external some ?_⟩
    intro head
    obtain ⟨pointer, spelled⟩ := List.head?_eq_some_iff.mp head
    exact foreign pointer spelled

private theorem hop_eq (h : Halts root node answer) {reference : String}
    (some : reference? node = some reference) : hop root reference = answer := by
  cases h with
  | target none => cases none.symm.trans some
  | missing some' spelled absent =>
    cases some.symm.trans some'
    unfold hop
    rw [spelled]
    simp only [absent]
  | external some' foreign =>
    cases some.symm.trans some'
    unfold hop
    split
    next pointer spelled => simp [spelled] at foreign
    next => rfl

private theorem stuck (h : Halts root node answer) (next : Json) : ¬ Hops root 1 node next := by
  intro hops
  cases hops with
  | hop some first _ =>
    cases (h.hop_eq some).symm.trans first
    cases h with
    | target none => cases none.symm.trans some

private theorem unique (h : Halts root node answer) (h' : Halts root node other) :
    answer = other := by
  cases some : reference? node with
  | some reference => rw [← h.hop_eq some, h'.hop_eq some]
  | none =>
    have target {x : Except Failure Json} (h : Halts root node x) : x = .ok node := by
      cases h with
      | target _ => rfl
      | missing some' _ _ => cases some.symm.trans some'
      | external some' _ => cases some.symm.trans some'
    rw [target h, target h']

end Halts

/-- How it ends to look at up to `rounds` nodes, one hop after another. -/
inductive Ends (root : Json) (rounds : Nat) (node : Json) : Except Failure Json → Prop where
  | halts {n : Nat} {last : Json} {answer : Except Failure Json} : n < rounds →
      Hops root n node last → Halts root last answer → Ends root rounds node answer
  | givenUp {last : Json} : Hops root rounds node last → Ends root rounds node (.error overlong)

namespace Ends

variable {answer other : Except Failure Json}

private theorem hop {next : Json} {reference : String} (some : reference? node = some reference)
    (first : Description.hop root reference = .ok next) (h : Ends root rounds next answer) :
    Ends root (rounds + 1) node answer := by
  cases h with
  | halts bound hops halts => exact .halts (Nat.succ_lt_succ bound) (.hop some first hops) halts
  | givenUp hops => exact .givenUp (.hop some first hops)

private theorem unique (h : Ends root rounds node answer) (h' : Ends root rounds node other) :
    answer = other := by
  cases h with
  | @halts n last _ bound hops halts =>
    cases h' with
    | @halts m last' _ bound' hops' halts' =>
      have same : n = m :=
        Nat.le_antisymm (hops'.le_of_stuck halts'.stuck hops) (hops.le_of_stuck halts.stuck hops')
      cases same
      cases hops.unique hops'
      exact halts.unique halts'
    | givenUp hops' =>
      exact absurd (hops.le_of_stuck halts.stuck hops') (Nat.not_le_of_lt bound)
  | givenUp hops =>
    cases h' with
    | halts bound hops' halts =>
      exact absurd (hops'.le_of_stuck halts.stuck hops) (Nat.not_le_of_lt bound)
    | givenUp _ => rfl

end Ends

private theorem ends_followWithin (root : Json) (rounds : Nat) (node : Json) :
    Ends root rounds node (followWithin root rounds node) := by
  induction rounds generalizing node with
  | zero => exact .givenUp (.none node)
  | succ rounds ih =>
    unfold followWithin
    split
    next none => exact .halts (Nat.zero_lt_succ _) (.none node) (.target none)
    next reference some =>
      rcases Halts.cases_hop root some with ⟨next, first⟩ | ⟨failure, fails, halts⟩
      · rw [first]
        exact .hop some first (ih next)
      · rw [fails]
        exact .halts (Nat.zero_lt_succ _) (.none node) halts

private theorem follow_eq_iff {answer : Except Failure Json} :
    follow root node = answer ↔ Ends root hopLimit node answer := by
  have ends : Ends root hopLimit node (follow root node) := ends_followWithin root hopLimit node
  constructor
  · intro h
    exact h ▸ ends
  · exact ends.unique

private theorem follow_of_leads (h : Leads root n node target) :
    (follow root node = .ok target ↔ n < hopLimit) ∧
      (follow root node = .error overlong ↔ hopLimit ≤ n) := by
  obtain ⟨hops, none⟩ := leads_iff.mp h
  have found (less : n < hopLimit) : follow root node = .ok target :=
    follow_eq_iff.mpr (.halts less hops (.target none))
  have givenUp (le : hopLimit ≤ n) : follow root node = .error overlong := by
    obtain ⟨_, before, -⟩ := hops.exists_middle le
    exact follow_eq_iff.mpr (.givenUp before)
  refine ⟨⟨fun ends => ?_, found⟩, ⟨fun ends => ?_, givenUp⟩⟩
  · by_contra more
    cases ends.symm.trans (givenUp (Nat.le_of_not_lt more))
  · by_contra less
    cases ends.symm.trans (found (Nat.lt_of_not_le less))

/-- Following references finds the node that they lead to exactly if that takes another number of
hops than the limit. A chain that is longer or circular is given up, and of a chain that breaks off
before that the fault is told at which it does. -/
theorem follow_by_hops (root node : Json) :
    (∀ answer, follow root node = answer ↔ Ends root hopLimit node answer) ∧
      (∀ n target, Leads root n node target →
        ((n ≤ hopLimit → follow root node = .ok target) ∧
          (follow root node = .error overlong → hopLimit < n ∨ Circles root node) ↔
        n ≠ hopLimit)) ∧
      (Circles root node → follow root node = .error overlong) ∧
      overlong.message = "OpenAPI loading error: Reference chain longer than 16 hops" := by
  refine ⟨fun answer => follow_eq_iff, ?_, ?_, by decide⟩
  · intro n target leads
    obtain ⟨found, givenUp⟩ := follow_of_leads leads
    rw [found, givenUp]
    constructor
    · intro h
      have less := h.1
      omega
    · intro other
      exact ⟨fun le => by omega, fun le => .inl (by omega)⟩
  · intro circles
    obtain ⟨last, hops⟩ := circles.hops hopLimit
    exact follow_eq_iff.mpr (.givenUp hops)

/-- The last hop is the one for which a round was lacking. -/
theorem leads_of_followWithin (found : followWithin root (n + 1) node = .ok target)
    (lacks : followWithin root n node = .error overlong) : Leads root n node target := by
  obtain ⟨m, bound, leads⟩ := followWithin_eq_ok.mp found
  have notLess : ¬ m < n := by
    intro less
    cases lacks.symm.trans (followWithin_eq_ok.mpr ⟨m, less, leads⟩)
  rwa [Nat.eq_of_lt_succ_of_not_lt bound notLess] at leads

/-- A list of references, each to the next one, with a parameter behind the last. -/
def relay (references : Nat) : Json :=
  .object [("x-relay", .array
    ((List.range references).map (fun n => .object [("$ref", .string s!"#/x-relay/{n + 1}")]) ++
      [.object [("in", .string "query"), ("name", .string "id")]]))]

def relayed : Json := .object [("$ref", .string "#/x-relay/0")]

def relayEnd : Json := .object [("in", .string "query"), ("name", .string "id")]

def looped : Json := .object [("$ref", .string "#/x-loop")]

theorem follow_by_hops_relay :
    Leads (relay 14) 15 relayed relayEnd ∧ follow (relay 14) relayed = .ok relayEnd ∧
      Circles (.object [("x-loop", looped)]) looped ∧
      follow (.object [("x-loop", looped)]) looped = .error overlong := by
  have leads : Leads (relay 14) 15 relayed relayEnd := leads_of_followWithin (by rfl) (by rfl)
  have circles : Circles (.object [("x-loop", looped)]) looped :=
    ⟨0, looped, 0, .none looped, .hop (by rfl) (by rfl) (.none looped)⟩
  have found := ((follow_by_hops (relay 14) relayed).2.1 15 relayEnd leads).mpr (by decide)
  exact ⟨leads, found.1 (by decide), circles, (follow_by_hops _ looped).2.2.1 circles⟩

/-- Of a chain of as many hops as the limit the end is not found. -/
theorem not_follow_relay :
    ¬ ∀ n target, Leads (relay 15) n relayed target →
      (n ≤ hopLimit → follow (relay 15) relayed = .ok target) ∧
        (follow (relay 15) relayed = .error overlong →
          hopLimit < n ∨ Circles (relay 15) relayed) := by
  intro claim
  have givenUp : follow (relay 15) relayed = .error overlong := by rfl
  have leads : Leads (relay 15) hopLimit relayed relayEnd :=
    leads_of_followWithin (by rfl) givenUp
  cases givenUp.symm.trans ((claim hopLimit relayEnd leads).1 (Nat.le_refl hopLimit))

end ApiScaffold.Description
