import ApiScaffold.Proofs.Description.Components
import ApiScaffold.Proofs.Endpoint
/-!
# Paging envelopes

A schema is recognised as a paging envelope by a marker that its first part may have, or the first
part of that. The item of the page is looked for in the schema and its own parts. So an item that
is declared further down is not found, and neither is one behind an alias, except in the schema
that the alias stands for.
-/
namespace ApiScaffold

namespace Extension

open Description (aliasSchema)

variable {d : Document} {s t : Schema} {position : SchemaRef} {item : String}

/-! ## Recognition -/

/-- A number of unmarked schemas leads from one to another, each the first part of the one
before. -/
inductive Begins (d : Document) : Nat → Schema → Schema → Prop where
  | here (s : Schema) : Begins d 0 s s
  | part {n : Nat} {s next t : Schema} {first : SchemaRef} {rest : List SchemaRef} :
      pageMarker s = .ok false → s.allOf = first :: rest → d.resolve first = .ok next →
      Begins d n next t → Begins d (n + 1) s t

private theorem isPageWithin_eq_true_iff {depth : Nat} :
    isPageWithin d depth s = .ok true ↔
      ∃ n < depth, ∃ t, Begins d n s t ∧ pageMarker t = .ok true := by
  induction depth generalizing s with
  | zero => simp [isPageWithin]
  | succ depth ih =>
    unfold isPageWithin
    constructor
    · intro h
      obtain ⟨marked, marker, h⟩ := Outcome.bind_eq_ok.mp h
      cases marked with
      | true => exact ⟨0, Nat.zero_lt_succ _, s, .here s, marker⟩
      | false =>
        simp only [Bool.false_eq_true, if_false] at h
        split at h
        next => cases h
        next first rest parts =>
          obtain ⟨next, resolved, h⟩ := Outcome.bind_eq_ok.mp h
          obtain ⟨n, less, t, begins, marked⟩ := ih.mp h
          exact ⟨n + 1, Nat.succ_lt_succ less, t, .part marker parts resolved begins, marked⟩
    · intro h
      obtain ⟨n, less, t, begins, marked⟩ := h
      cases begins with
      | here =>
        rw [marked]
        rfl
      | part marker parts resolved begins =>
        rw [marker]
        simp only [bind, Except.bind, parts, resolved]
        exact ih.mpr ⟨_, Nat.lt_of_succ_lt_succ less, t, begins, marked⟩

private theorem isPageWithin_stable {depth : Nat} (h : isPageWithin d depth s ≠ .ok false) :
    isPageWithin d (depth + 1) s = isPageWithin d depth s := by
  induction depth generalizing s with
  | zero => exact (h rfl).elim
  | succ depth ih =>
    simp only [isPageWithin.eq_2 d s] at h ⊢
    cases marker : pageMarker s with
    | error failure => rfl
    | ok marked =>
      cases marked with
      | true => rfl
      | false =>
        cases parts : s.allOf with
        | nil => rfl
        | cons first rest =>
          cases resolved : d.resolve first with
          | error failure => simp only [bind, Except.bind, resolved]
          | ok next =>
            simp only [bind, Except.bind, marker, parts, resolved] at h ⊢
            exact ih h

/-! ## The item -/

def HasContent (d : Document) (s : Schema) (item : String) : Prop :=
  ∃ position content, Keyed.get? "content" s.properties = some position ∧
    d.resolve position = .ok content ∧ content.items = some (.reference item)

def LacksContent (d : Document) (s : Schema) : Prop :=
  ∀ position, Keyed.get? "content" s.properties = some position →
    ∃ content, d.resolve position = .ok content ∧
      ∀ item, content.items ≠ some (.reference item)

private theorem bind_reference?_eq_some_iff {items : Option SchemaRef} :
    items.bind SchemaRefOf.reference? = some item ↔ items = some (.reference item) := by
  rcases items with _ | ⟨name⟩ | ⟨schema⟩ <;> simp [SchemaRefOf.reference?]

private theorem contentItem_eq_some_iff :
    contentItem d s = .ok (some item) ↔ HasContent d s item := by
  unfold contentItem HasContent
  cases Keyed.get? "content" s.properties with
  | none => simp
  | some position =>
    cases resolved : d.resolve position with
    | error failure => simp [bind, Except.bind, resolved]
    | ok content =>
      simp only [bind, Except.bind, pure, Except.pure, Except.ok.injEq, resolved,
        bind_reference?_eq_some_iff, Option.some.injEq, exists_and_left, exists_eq_left']

private theorem contentItem_eq_none_iff : contentItem d s = .ok none ↔ LacksContent d s := by
  unfold contentItem LacksContent
  cases Keyed.get? "content" s.properties with
  | none => simp
  | some position =>
    cases resolved : d.resolve position with
    | error failure => simp [bind, Except.bind, resolved]
    | ok content =>
      simp [bind, Except.bind, pure, Except.pure, resolved, Option.eq_none_iff_forall_ne_some,
        bind_reference?_eq_some_iff]

private theorem firstContentItem_eq_some_iff {schemas : List Schema} :
    firstContentItem d schemas = .ok (some item) ↔
      ∃ before named after, schemas = before ++ named :: after ∧
        (∀ t ∈ before, LacksContent d t) ∧ HasContent d named item := by
  induction schemas with
  | nil => simp [firstContentItem]
  | cons s schemas ih =>
    unfold firstContentItem
    rw [Outcome.bind_eq_ok]
    constructor
    · intro h
      obtain ⟨found, own, h⟩ := h
      cases found with
      | some other =>
        cases h
        exact ⟨[], s, schemas, rfl, List.forall_mem_nil _, contentItem_eq_some_iff.mp own⟩
      | none =>
        obtain ⟨before, named, after, rfl, silent, has⟩ := ih.mp h
        refine ⟨s :: before, named, after, rfl, List.forall_mem_cons.mpr ⟨?_, silent⟩, has⟩
        exact contentItem_eq_none_iff.mp own
    · intro h
      obtain ⟨before, named, after, split, silent, has⟩ := h
      cases before with
      | nil =>
        obtain ⟨rfl, -⟩ := List.cons.inj split
        exact ⟨some item, contentItem_eq_some_iff.mpr has, rfl⟩
      | cons first before =>
        obtain ⟨rfl, rfl⟩ := List.cons.inj split
        obtain ⟨own, silent⟩ := List.forall_mem_cons.mp silent
        exact ⟨none, contentItem_eq_none_iff.mpr own,
          ih.mpr ⟨before, named, after, rfl, silent, has⟩⟩

private theorem firstContentItem_cons_of_lacks (lacks : LacksContent d s) (schemas : List Schema) :
    firstContentItem d (s :: schemas) = firstContentItem d schemas := by
  rw [firstContentItem, contentItem_eq_none_iff.mpr lacks]
  rfl

private theorem firstContentItem_cons_of_not_lacks (has : ¬ LacksContent d s)
    (schemas : List Schema) :
    firstContentItem d (s :: schemas) = contentItem d s := by
  unfold firstContentItem
  cases own : contentItem d s with
  | error failure => rfl
  | ok found =>
    cases found with
    | some item => rfl
    | none => exact absurd (contentItem_eq_none_iff.mp own) has

private theorem firstContentItem_singleton (s : Schema) :
    firstContentItem d [s] = contentItem d s := by
  by_cases lacks : LacksContent d s
  · rw [firstContentItem_cons_of_lacks lacks, contentItem_eq_none_iff.mpr lacks]
    rfl
  · exact firstContentItem_cons_of_not_lacks lacks []

private theorem firstContentItem_eq_none_iff {schemas : List Schema} :
    firstContentItem d schemas = .ok none ↔ ∀ t ∈ schemas, LacksContent d t := by
  induction schemas with
  | nil => simp [firstContentItem]
  | cons s schemas ih =>
    rw [List.forall_mem_cons, ← ih]
    constructor
    · intro h
      obtain ⟨found, own, rest⟩ := Outcome.bind_eq_ok.mp h
      cases found with
      | some item => cases rest
      | none => exact ⟨contentItem_eq_none_iff.mp own, rest⟩
    · intro h
      rw [firstContentItem_cons_of_lacks h.1, h.2]

def partsItem (d : Document) (s : Schema) : Except Failure (Option String) := do
  firstContentItem d (s :: (← s.allOf.mapM d.resolve))

private theorem pageEnvelope_of_resolve (h : d.resolve position = .ok s) :
    pageEnvelope d position =
      isPage d s >>= fun marked =>
        if marked then (partsItem d s).map some else .ok none := by
  unfold pageEnvelope partsItem
  rw [h]
  simp only [bind, Except.bind]
  cases isPage d s with
  | error failure => rfl
  | ok marked =>
    cases marked with
    | false => rfl
    | true => cases s.allOf.mapM d.resolve <;> rfl

private theorem isPage_of_pageEnvelope_eq_none (resolved : d.resolve position = .ok s)
    (h : pageEnvelope d position = .ok none) : isPage d s = .ok false := by
  rw [pageEnvelope_of_resolve resolved] at h
  obtain ⟨marked, recognised, h⟩ := Outcome.bind_eq_ok.mp h
  cases marked with
  | false => exact recognised
  | true =>
    obtain ⟨_, -, different⟩ := Outcome.map_eq_ok.mp h
    cases different

private theorem pageEnvelope_eq_some_iff :
    pageEnvelope d position = .ok (some (some item)) ↔
      ∃ s, d.resolve position = .ok s ∧ isPage d s = .ok true ∧
        partsItem d s = .ok (some item) := by
  constructor
  · intro h
    cases resolved : d.resolve position with
    | error failure => simp [pageEnvelope, resolved, bind, Except.bind] at h
    | ok s =>
      rw [pageEnvelope_of_resolve resolved] at h
      obtain ⟨marked, recognised, h⟩ := Outcome.bind_eq_ok.mp h
      cases marked with
      | false => cases h
      | true =>
        obtain ⟨found, names, same⟩ := Outcome.map_eq_ok.mp h
        cases same
        exact ⟨s, rfl, recognised, names⟩
  · intro h
    obtain ⟨s, resolved, recognised, names⟩ := h
    rw [pageEnvelope_of_resolve resolved, recognised]
    exact Outcome.map_eq_ok.mpr ⟨_, names, rfl⟩

def NamesItem (d : Document) (s : Schema) (item : String) : Prop :=
  HasContent d s item ∨ ∃ part ∈ s.allOf, ∃ t, d.resolve part = .ok t ∧ HasContent d t item

/-- A schema on the way to the marker, or a part of such a schema, has content with that item. -/
def DeclaresItem (d : Document) (s : Schema) (item : String) : Prop :=
  ∃ n t, Begins d n s t ∧ NamesItem d t item

/-- All parts of the schema are there. Of itself and its parts one has content with an item, and
those before it lack it. -/
def NamesFirst (d : Document) (s : Schema) : Prop :=
  ∃ parts before named after item, s.allOf.mapM d.resolve = .ok parts ∧
    s :: parts = before ++ named :: after ∧ (∀ t ∈ before, LacksContent d t) ∧
    HasContent d named item

private theorem exists_partsItem_iff :
    (∃ item, partsItem d s = .ok (some item)) ↔ NamesFirst d s := by
  constructor
  · intro h
    obtain ⟨item, h⟩ := h
    obtain ⟨parts, resolved, h⟩ := Outcome.bind_eq_ok.mp h
    obtain ⟨before, named, after, split, silent, has⟩ := firstContentItem_eq_some_iff.mp h
    exact ⟨parts, before, named, after, item, resolved, split, silent, has⟩
  · intro h
    obtain ⟨parts, before, named, after, item, resolved, split, silent, has⟩ := h
    exact ⟨item, Outcome.bind_eq_ok.mpr ⟨parts, resolved,
      firstContentItem_eq_some_iff.mpr ⟨before, named, after, split, silent, has⟩⟩⟩

private theorem namesItem_of_partsItem (h : partsItem d s = .ok (some item)) :
    NamesItem d s item := by
  obtain ⟨parts, resolved, h⟩ := Outcome.bind_eq_ok.mp h
  obtain ⟨before, named, after, split, -, has⟩ := firstContentItem_eq_some_iff.mp h
  have member : named ∈ s :: parts := by
    rw [split]
    exact List.mem_append_right _ List.mem_cons_self
  rcases List.mem_cons.mp member with rfl | member
  · exact .inl has
  · obtain ⟨part, inside, resolved⟩ := Outcome.left_of_mem (Outcome.mapM_eq_ok.mp resolved) member
    exact .inr ⟨part, inside, named, resolved, has⟩

private theorem exists_pageEnvelope_iff (resolved : d.resolve position = .ok s)
    (recognised : isPage d s = .ok true) :
    (∃ item, pageEnvelope d position = .ok (some (some item)) ∧ DeclaresItem d s item) ↔
      NamesFirst d s := by
  rw [← exists_partsItem_iff]
  refine exists_congr fun item => ?_
  constructor
  · intro h
    obtain ⟨other, resolved', -, names⟩ := pageEnvelope_eq_some_iff.mp h.1
    cases resolved.symm.trans resolved'
    exact names
  · intro names
    exact ⟨pageEnvelope_eq_some_iff.mpr ⟨s, resolved, recognised, names⟩,
      0, s, .here s, namesItem_of_partsItem names⟩

/-! ## Aliases -/

/-- The schema itself decides about the item of the page: its parts are there, and if it lacks
content, so do they; or else they fail in the way that it does. -/
structure DecidesItem (d : Document) (s : Schema) : Prop where
  silent {parts : List Schema} : s.allOf.mapM d.resolve = .ok parts → LacksContent d s →
    ∀ t ∈ parts, LacksContent d t
  fault {failure : Failure} : s.allOf.mapM d.resolve = .error failure →
    contentItem d s = .error failure

private theorem contentItem_eq_partsItem_iff :
    contentItem d s = partsItem d s ↔ DecidesItem d s := by
  have found : partsItem d s =
      s.allOf.mapM d.resolve >>= fun parts => firstContentItem d (s :: parts) := rfl
  cases resolved : s.allOf.mapM d.resolve with
  | error failure =>
    rw [found, resolved]
    constructor
    · intro same
      refine ⟨fun others => ?_, fun fails => ?_⟩
      · cases resolved.symm.trans others
      · cases resolved.symm.trans fails
        exact same
    · exact fun decides => decides.fault resolved
  | ok parts =>
    rw [found, resolved]
    change contentItem d s = firstContentItem d (s :: parts) ↔ _
    by_cases lacks : LacksContent d s
    · rw [firstContentItem_cons_of_lacks lacks, contentItem_eq_none_iff.mpr lacks, eq_comm,
        firstContentItem_eq_none_iff]
      constructor
      · intro silent
        refine ⟨fun others _ => ?_, fun fails => ?_⟩
        · cases resolved.symm.trans others
          exact silent
        · cases resolved.symm.trans fails
      · exact fun decides => decides.silent resolved lacks
    · refine ⟨fun _ => ⟨fun _ others => absurd others lacks, fun fails => ?_⟩, fun _ => ?_⟩
      · cases resolved.symm.trans fails
      · exact (firstContentItem_cons_of_not_lacks lacks parts).symm

private theorem isPage_aliasSchema (d : Document) (name : String) :
    isPage d (aliasSchema name) =
      d.resolve (.reference name) >>= isPageWithin d (pageDepth - 1) := rfl

/-- Behind an alias the marker is looked for one schema less deep, and the item only in the schema
itself. -/
theorem pageEnvelope_of_alias {name other : String}
    (declared : d.schema? name = some (aliasSchema other)) (target : d.schema? other = some s) :
    pageEnvelope d (.reference name) =
      isPageWithin d (pageDepth - 1) s >>= fun marked =>
        if marked then (contentItem d s).map some else .ok none := by
  have resolved : d.resolve (.reference other) = .ok s := Document.resolve_of_schema? target
  have recognised : isPage d (aliasSchema other) = isPageWithin d (pageDepth - 1) s := by
    rw [isPage_aliasSchema, resolved]
    rfl
  have found : partsItem d (aliasSchema other) = contentItem d s := by
    unfold partsItem
    simp only [aliasSchema, List.mapM_cons, List.mapM_nil, resolved]
    exact firstContentItem_singleton s
  rw [pageEnvelope_of_resolve (Document.resolve_of_schema? declared), recognised, found]

private theorem map_some_inj {α ε : Type} {x y : Except ε α} : x.map some = y.map some ↔ x = y := by
  cases x <;> cases y <;> simp [Except.map]

private theorem pageEnvelope_alias_iff {name other : String}
    (declared : d.schema? name = some (aliasSchema other)) :
    pageEnvelope d (.reference name) = pageEnvelope d (.reference other) ↔
      ∀ s, d.schema? other = some s → isPageWithin d (pageDepth - 1) s = isPage d s ∧
        (isPage d s = .ok true → DecidesItem d s) := by
  simp only [← contentItem_eq_partsItem_iff]
  cases target : d.schema? other with
  | none =>
    have absent : d.resolve (.reference other) = .error (.unresolvable other .noSuchSchema) := by
      simp only [Document.resolve, target]
    rw [pageEnvelope_of_resolve (Document.resolve_of_schema? declared), isPage_aliasSchema,
      pageEnvelope, absent]
    simp [bind, Except.bind]
  | some s =>
    have resolved : d.resolve (.reference other) = .ok s := Document.resolve_of_schema? target
    have behind := pageEnvelope_of_alias declared target
    simp only [Option.some.injEq, forall_eq']
    by_cases within : isPageWithin d (pageDepth - 1) s = isPage d s
    · rw [behind, pageEnvelope_of_resolve resolved, within]
      cases recognised : isPage d s with
      | error failure => simp [bind, Except.bind]
      | ok marked =>
        cases marked with
        | false => simp [bind, Except.bind]
        | true => simp [bind, Except.bind, map_some_inj]
    · -- The marker is in reach only without the alias.
      have missed : isPageWithin d (pageDepth - 1) s = .ok false := by
        by_contra reached
        exact within (isPageWithin_stable reached).symm
      rw [missed] at behind within
      constructor
      · intro same
        have none : pageEnvelope d (.reference other) = .ok none := same.symm.trans behind
        exact (within (isPage_of_pageEnvelope_eq_none resolved none).symm).elim
      · intro all
        exact (within (missed.symm.trans all.1)).elim

end Extension

namespace Endpoint

variable {d : Document} {label item : String} {response : Response} {position : SchemaRef}

private theorem responseShape_eq_paged_iff
    (body : jsonBody? response.content = some ⟨some position⟩) :
    (responseShape d label response).result = .ok (.paged item) ↔
      Extension.pageEnvelope d position = .ok (some (some item)) := by
  unfold responseShape
  simp only [body]
  rw [Diagnosed.bind_result_eq_ok]
  constructor
  · intro h
    obtain ⟨envelope, found, h⟩ := h
    split at h
    next =>
      cases h
      exact found
    next => cases h
    next =>
      obtain ⟨type, -, h⟩ := Diagnosed.bind_result_eq_ok.mp h
      unfold responseOf at h
      split at h <;> cases h
  · intro found
    exact ⟨_, found, rfl⟩

end Endpoint

namespace Extension

open Description (component? componentRoot reference? referenceTo read)
open Endpoint (jsonBody? responseShape)

/-- An alias and the schema it stands for are the same envelope exactly if the marker is not out of
reach behind the alias, and the schema itself decides about the item. A response is paged as its
envelope tells. Of the schemas on the way to the marker and their parts, an item is found exactly if
the schema itself or one of its own parts has it, and nothing before that has a fault. -/
theorem pageEnvelope_by_parts (d : Document) :
    (∀ root name other node, read root = .ok d → component? root name = some node →
      reference? node = some (componentRoot ++ other) →
      (pageEnvelope d (.reference name) = pageEnvelope d (.reference other) ↔
        ∀ s, d.schema? other = some s → isPageWithin d (pageDepth - 1) s = isPage d s ∧
          (isPage d s = .ok true → DecidesItem d s))) ∧
    (∀ label response position item, jsonBody? response.content = some ⟨some position⟩ →
      ((responseShape d label response).result = .ok (.paged item) ↔
        pageEnvelope d position = .ok (some (some item)))) ∧
    (∀ s, isPage d s = .ok true ↔
      ∃ n < pageDepth, ∃ t, Begins d n s t ∧ pageMarker t = .ok true) ∧
    (∀ position s, d.resolve position = .ok s → isPage d s = .ok true →
      ((∃ item, pageEnvelope d position = .ok (some (some item)) ∧ DeclaresItem d s item) ↔
        NamesFirst d s)) := by
  refine ⟨?aliased, ?response, fun s => isPageWithin_eq_true_iff, ?item⟩
  case aliased =>
    intro root name other node h declared refers
    exact pageEnvelope_alias_iff (Description.schema?_of_alias h declared refers)
  case response => exact fun _ _ _ _ body => Endpoint.responseShape_eq_paged_iff body
  case item => exact fun _ _ resolved recognised => exists_pageEnvelope_iff resolved recognised

def ticketContent : String × Json :=
  ("properties", .object [("content", .object [
    ("items", referenceTo "Ticket"), ("type", .string "array")])])

def pagesDescription (page : Json) : Json :=
  Description.assemble [
    ("Listing", referenceTo "TicketPage"), ("Page", .object [("x-page", .bool true)]),
    ("Ticket", .object [("type", .string "object")]), ("TicketPage", page)] [] []

def ownPage : Json := .object [ticketContent, ("x-page", .bool true)]

def composedPage : Json :=
  .object [("allOf", .array [referenceTo "Page", .object [ticketContent]])]

theorem pageEnvelope_by_parts_listing :
    ∃ d s, read (pagesDescription ownPage) = .ok d ∧
      component? (pagesDescription ownPage) "Listing" = some (referenceTo "TicketPage") ∧
      d.schema? "TicketPage" = some s ∧ isPage d s = .ok true ∧ NamesFirst d s ∧
      pageEnvelope d (.reference "Listing") = pageEnvelope d (.reference "TicketPage") ∧
      (responseShape d "GET /tickets"
        ⟨none, [("application/json", ⟨some (.reference "Listing")⟩)]⟩).result =
          .ok (.paged "Ticket") := by
  have reads : ∃ d s, read (pagesDescription ownPage) = .ok d ∧
      d.schema? "TicketPage" = some s ∧ isPageWithin d (pageDepth - 1) s = .ok true ∧
      isPage d s = .ok true ∧ contentItem d s = partsItem d s ∧
      partsItem d s = .ok (some "Ticket") :=
    ⟨_, _, rfl, rfl, rfl, rfl, rfl, rfl⟩
  obtain ⟨d, s, h, target, within, recognised, found, paged⟩ := reads
  obtain ⟨aliased, response, -, item⟩ := pageEnvelope_by_parts d
  have same : pageEnvelope d (.reference "Listing") = pageEnvelope d (.reference "TicketPage") := by
    refine (aliased _ _ _ _ h rfl rfl).mpr fun other isTarget => ?_
    cases target.symm.trans isTarget
    exact ⟨within.trans recognised.symm, fun _ => contentItem_eq_partsItem_iff.mp found⟩
  have resolved : d.resolve (.reference "TicketPage") = .ok s := Document.resolve_of_schema? target
  have names : pageEnvelope d (.reference "TicketPage") = .ok (some (some "Ticket")) :=
    pageEnvelope_eq_some_iff.mpr ⟨s, resolved, recognised, paged⟩
  have first : NamesFirst d s := (item _ s resolved recognised).mp
    ⟨"Ticket", names, 0, s, .here s, namesItem_of_partsItem paged⟩
  exact ⟨d, s, h, rfl, target, recognised, first, same,
    (response _ _ _ _ rfl).mpr (same.trans names)⟩

/-- Behind the alias the content of a part is not found. -/
theorem not_same_envelope_listing :
    ¬ ∀ d, read (pagesDescription composedPage) = .ok d →
      pageEnvelope d (.reference "Listing") = pageEnvelope d (.reference "TicketPage") := by
  intro claim
  have reads : ∃ d, read (pagesDescription composedPage) = .ok d ∧
      pageEnvelope d (.reference "Listing") = .ok (some none) ∧
      pageEnvelope d (.reference "TicketPage") = .ok (some (some "Ticket")) :=
    ⟨_, rfl, rfl, rfl⟩
  obtain ⟨d, h, missed, found⟩ := reads
  cases missed.symm.trans ((claim d h).trans found)

end Extension

end ApiScaffold
