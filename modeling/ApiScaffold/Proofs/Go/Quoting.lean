import ApiScaffold.Proofs.Go.Literals
import ApiScaffold.Proofs.Go.Locals
import ApiScaffold.Proofs.Go.Sources
import ApiScaffold.Proofs.Routing
/-!
# Texts between quotes

Texts of enumerations and errors are quoted, but the names of parameters and the paths of routes
are put between quotes as they are. They come out right only if nothing in them needs an escape.
Not looked at are the zero character and the byte order mark, which a compiler may refuse in any
source.
-/
namespace ApiScaffold.Go

open ApiScaffold.Text

/-! ## Reading on -/

/-- How many bytes more than it has still to read a place can give. The number of a character may
lack as many digits as there are bytes in it. -/
def Place.credit : Place → Nat
  | .number .character _ left _ => 4 - left
  | _ => 0

/-- With this character the reader goes on to the next place, whatever comes then. -/
structure Place.Advances (place : Place) (c : Char) (next : Place) (done : Bytes) : Prop where
  denotes (rest : List Char) : denoted place (c :: rest) = (denoted next rest).map (done ++ ·)
  credit : done.length + next.credit ≤ c.utf8Size + place.credit

private theorem Place.Advances.silent {place next : Place} {c : Char}
    (same : ∀ rest, denoted place (c :: rest) = denoted next rest)
    (credit : next.credit ≤ c.utf8Size + place.credit) : place.Advances c next [] where
  denotes rest := by simp [same]
  credit := by simpa using credit

private theorem advances_of_plain {c : Char} (quote : c ≠ '"') (line : c ≠ '\n')
    (backslash : c ≠ '\\') :
    Place.plain.Advances c .plain (String.utf8EncodeChar c) where
  denotes rest := by simp only [denoted, quote, line, backslash, if_false]
  credit := by simp [Place.credit]

private theorem exists_advances_of_escape {c : Char} {rest : List Char} {bytes : Bytes}
    (h : denoted .escape (c :: rest) = some bytes) :
    ∃ next done, Place.escape.Advances c next done := by
  have size : 1 ≤ c.utf8Size := c.utf8Size_pos
  cases short : escapedByte? c with
  | some byte =>
    exact ⟨.plain, [byte], fun rest => by simp [denoted, short], by simpa [Place.credit] using size⟩
  | none =>
    by_cases two : c = 'x'
    · subst two
      exact ⟨.number .byte 16 2 0, [], .silent (fun _ => rfl) (Nat.zero_le _)⟩
    by_cases four : c = 'u'
    · subst four
      exact ⟨.number .character 16 4 0, [], .silent (fun _ => rfl) (Nat.zero_le _)⟩
    by_cases eight : c = 'U'
    · subst eight
      exact ⟨.number .character 16 8 0, [], .silent (fun _ => rfl) (Nat.zero_le _)⟩
    cases octal : digit? 8 c with
    | some digit =>
      exact ⟨.number .byte 8 2 digit, [],
        .silent (fun rest => by simp [denoted, short, two, four, eight, octal]) (Nat.zero_le _)⟩
    | none => simp [denoted, short, two, four, eight, octal] at h

private theorem exists_advances_of_number {of : Escape} {base left value : Nat} {c : Char}
    {rest : List Char} {bytes : Bytes}
    (h : denoted (.number of base left value) (c :: rest) = some bytes) :
    ∃ next done, (Place.number of base left value).Advances c next done := by
  have size : 1 ≤ c.utf8Size := c.utf8Size_pos
  rw [denoted] at h
  split at h
  case h_1 => cases h
  case h_2 digit known =>
    by_cases more : 1 < left
    · refine ⟨.number of base (left - 1) (value * base + digit), [], .silent (fun rest => ?_) ?_⟩
      · simp [denoted, known, more]
      · cases of with
        | byte => exact Nat.zero_le _
        | character =>
          simp only [Place.credit]
          omega
    · dsimp only at h
      rw [if_neg more] at h
      cases written : of.bytes? (value * base + digit) with
      | none => simp [written] at h
      | some done =>
        refine ⟨.plain, done, fun rest => by simp [denoted, known, more, written], ?_⟩
        cases of with
        | byte =>
          obtain ⟨-, written⟩ := Option.ite_none_right_eq_some.mp written
          cases written
          simpa [Place.credit] using size
        | character =>
          obtain ⟨-, written⟩ := Option.ite_none_right_eq_some.mp written
          cases written
          have small := Char.utf8Size_le_four (Char.ofNat (value * base + digit))
          simp only [String.length_utf8EncodeChar, Place.credit]
          omega

private theorem denoted_cases {place : Place} {c : Char} {rest : List Char} {bytes : Bytes}
    (h : denoted place (c :: rest) = some bytes) :
    (place = .plain ∧ c = '"' ∧ rest = [] ∧ bytes = []) ∨
      ∃ next done, place.Advances c next done := by
  cases place with
  | escape => exact .inr (exists_advances_of_escape h)
  | number => exact .inr (exists_advances_of_number h)
  | plain =>
    by_cases quote : c = '"'
    · subst quote
      cases rest with
      | nil => exact .inl ⟨rfl, rfl, rfl, (Option.some.inj h).symm⟩
      | cons => simp [denoted] at h
    · refine .inr ?_
      have line : c ≠ '\n' := by
        rintro rfl
        simp [denoted] at h
      by_cases backslash : c = '\\'
      · exact ⟨.escape, [], .silent (fun rest => by simp [denoted, backslash]) (Nat.zero_le _)⟩
      · exact ⟨.plain, _, advances_of_plain quote line backslash⟩

private theorem length_denoted {place : Place} {cs : List Char} {bytes : Bytes}
    (h : denoted place cs = some bytes) :
    bytes.length + 1 ≤ (cs.flatMap String.utf8EncodeChar).length + place.credit := by
  induction cs generalizing place bytes with
  | nil => simp [denoted] at h
  | cons c cs ih =>
    rw [List.flatMap_cons, List.length_append, String.length_utf8EncodeChar]
    rcases denoted_cases h with ⟨-, -, -, rfl⟩ | ⟨next, done, advances⟩
    · have size : 1 ≤ c.utf8Size := c.utf8Size_pos
      simp only [List.length_nil]
      omega
    · rw [advances.denotes] at h
      obtain ⟨others, read, rfl⟩ := Option.map_eq_some_iff.mp h
      have rest := ih read
      have few := advances.credit
      rw [List.length_append]
      omega

private theorem denoted_append {place : Place} {cs : List Char} {bytes : Bytes}
    (h : denoted place cs = some bytes) (c : Char) (rest : List Char) :
    denoted place (cs ++ c :: rest) = none := by
  induction cs generalizing place bytes with
  | nil => simp [denoted] at h
  | cons x cs ih =>
    rw [List.cons_append]
    rcases denoted_cases h with ⟨rfl, rfl, rfl, -⟩ | ⟨next, done, advances⟩
    · simp [denoted]
    · rw [advances.denotes] at h ⊢
      obtain ⟨others, read, -⟩ := Option.map_eq_some_iff.mp h
      rw [ih read, Option.map_none]

/-! ## Texts without escapes -/

/-- Between quotes the text stands for itself: it has no quote, no backslash and no line break. -/
def Verbatim (s : String) : Prop := ∀ c ∈ s.toList, c ≠ '"' ∧ c ≠ '\\' ∧ c ≠ '\n'

instance (s : String) : Decidable (Verbatim s) :=
  List.decidableBAll (fun c => c ≠ '"' ∧ c ≠ '\\' ∧ c ≠ '\n') s.toList

private theorem denoted_verbatim_iff (cs : List Char) :
    denoted .plain (cs ++ ['"']) = some (cs.flatMap String.utf8EncodeChar) ↔
      ∀ c ∈ cs, c ≠ '"' ∧ c ≠ '\\' ∧ c ≠ '\n' := by
  induction cs with
  | nil => simp [denoted]
  | cons c cs ih =>
    rw [List.forall_mem_cons, ← ih, List.cons_append, List.flatMap_cons]
    by_cases quote : c = '"'
    · simp [quote, denoted]
    by_cases line : c = '\n'
    · simp [line, denoted]
    by_cases backslash : c = '\\'
    · -- the bytes of what comes after the backslash cannot make up for it
      subst backslash
      refine iff_of_false ?_ (fun clean => clean.1.2.1 rfl)
      intro read
      have escaped : denoted .escape (cs ++ ['"']) = some _ := read
      have few := length_denoted escaped
      have size : 1 ≤ ('\\').utf8Size := Char.utf8Size_pos _
      have closing : (['"'].flatMap String.utf8EncodeChar).length = 1 := by decide
      have credit : Place.escape.credit = 0 := rfl
      rw [List.flatMap_append, List.length_append, List.length_append, closing,
        String.length_utf8EncodeChar] at few
      omega
    · rw [(advances_of_plain quote line backslash).denotes]
      simp [quote, line, backslash]

def betweenQuotes (s : String) : String := "\"" ++ s ++ "\""

private theorem toList_betweenQuotes (s : String) :
    (betweenQuotes s).toList = '"' :: (s.toList ++ ['"']) := by
  simp [betweenQuotes]

private theorem unquote_betweenQuotes_iff {s : String} :
    unquote (betweenQuotes s) = some (bytes s) ↔ Verbatim s := by
  rw [unquote, toList_betweenQuotes, bytes_eq]
  exact denoted_verbatim_iff s.toList

/-! ## Literals in a source -/

private theorem exists_denoted_of_unquote {literal : String} (h : (unquote literal).isSome) :
    ∃ rest, literal.toList = '"' :: rest ∧ (denoted .plain rest).isSome := by
  rw [unquote] at h
  split at h
  case h_1 rest spelled => exact ⟨rest, spelled, h⟩
  case h_2 => cases h

/-- A source has only one literal at one place. -/
theorem eq_of_unquote {a b x y : String} (ha : (unquote a).isSome) (hb : (unquote b).isSome)
    (same : a ++ x = b ++ y) : a = b := by
  obtain ⟨as, spelledA, readA⟩ := exists_denoted_of_unquote ha
  obtain ⟨bs, spelledB, readB⟩ := exists_denoted_of_unquote hb
  have apart {cs ds : List Char} (hc : (denoted .plain cs).isSome)
      (hd : (denoted .plain ds).isSome) (before : cs <+: ds) : cs = ds := by
    obtain ⟨bytes, read⟩ := Option.isSome_iff_exists.mp hc
    obtain ⟨more, rfl⟩ := before
    cases more with
    | nil => rw [List.append_nil]
    | cons c rest =>
      rw [denoted_append read] at hd
      cases hd
  have lists := congrArg String.toList same
  rw [String.toList_append, String.toList_append, spelledA, spelledB, List.cons_append,
    List.cons_append, List.cons.injEq] at lists
  have equal : as = bs := by
    rcases List.append_eq_append_iff.mp lists.2 with ⟨more, later, -⟩ | ⟨more, later, -⟩
    · exact apart readA readB ⟨more, later.symm⟩
    · exact (apart readB readA ⟨more, later.symm⟩).symm
  rw [← String.toList_inj, spelledA, spelledB, equal]

/-- After `before` the source has a literal that denotes the text and ends where `after` starts,
and no other one. -/
structure Denotes (source before text after : String) : Prop where
  spelled : ∃ literal, source = before ++ literal ++ after ∧ unquote literal = some (bytes text)
  ends (literal rest : String) : source = before ++ literal ++ rest →
    (unquote literal).isSome → rest = after

private theorem denotes_betweenQuotes_iff {before text after : String} :
    Denotes (before ++ betweenQuotes text ++ after) before text after ↔ Verbatim text := by
  rw [← unquote_betweenQuotes_iff]
  constructor
  · intro h
    obtain ⟨literal, same, denotes⟩ := h.spelled
    rw [String.append_left_inj, String.append_right_inj] at same
    rwa [same]
  · intro denotes
    refine ⟨⟨_, rfl, denotes⟩, ?_⟩
    intro literal rest same reads
    rw [String.append_assoc, String.append_assoc, String.append_right_inj] at same
    have read : (unquote (betweenQuotes text)).isSome := by rw [denotes]; rfl
    have equal := eq_of_unquote read reads same
    rw [equal, String.append_right_inj] at same
    exact same.symm

/-- The source has the piece, and wherever it has it, what stands between the ends of the piece is
a literal that denotes the text. -/
structure Spells (source piece opening text closing : String) : Prop where
  has : Contains source piece
  denotes (before after : String) : source = before ++ piece ++ after →
    Denotes source (before ++ opening) text (closing ++ after)

private theorem spells_iff {source piece opening text closing : String}
    (has : Contains source piece) (spelled : piece = opening ++ betweenQuotes text ++ closing) :
    Spells source piece opening text closing ↔ Verbatim text := by
  have split (before after : String) : before ++ piece ++ after =
      before ++ opening ++ betweenQuotes text ++ (closing ++ after) := by
    simp only [spelled, String.append_assoc]
  constructor
  · intro h
    obtain ⟨before, after, same⟩ := has
    have denotes := h.denotes before after same
    rw [same, split] at denotes
    exact denotes_betweenQuotes_iff.mp denotes
  · intro clean
    refine ⟨has, fun before after same => ?_⟩
    rw [same, split]
    exact denotes_betweenQuotes_iff.mpr clean

/-! ## Names and paths -/

def ExtractionView.opening (x : ExtractionView) : String :=
  "\n\t" ++ x.var ++ onlyIf x.fallible ", applicationErr" ++ " := handler." ++ x.helper ++ "(r, "

def ExtractionView.closing (x : ExtractionView) : String :=
  ")" ++ onlyIf x.fallible
    ("\n\tif applicationErr != nil \x7b" ++ handleFailure "\t" "applicationErr")

theorem extractionText_eq (x : ExtractionView) :
    extractionText x = x.opening ++ betweenQuotes x.name ++ x.closing := by
  rw [← String.toList_inj]
  cases fallible : x.fallible <;>
    simp [extractionText, ExtractionView.opening, ExtractionView.closing, betweenQuotes, onlyIf,
      fallible, toString]

def RouteView.opening (r : RouteView) (router : String) : String :=
  "\n" ++ router ++ onlyIf r.paged ".With(pagingMiddleware.Paging)" ++ "." ++ r.method ++ "("

def RouteView.closing (r : RouteView) : String := ", " ++ r.handler ++ ")"

private theorem routeLine_eq (router : String) (r : RouteView) :
    routeLine router r = r.opening router ++ betweenQuotes r.path ++ r.closing := by
  rw [← String.toList_inj]
  simp [routeLine, RouteView.opening, RouteView.closing, betweenQuotes, toString]

private theorem name_of_ofExtraction {x : Extraction} {view : ExtractionView}
    (h : ExtractionView.ofExtraction x = .ok view) : view.name = x.param.name := by
  obtain ⟨helper, -, h⟩ := Outcome.bind_eq_ok.mp h
  cases h
  rfl

def Takes (source : String) (x : Extraction) (view : ExtractionView) : Prop :=
  Spells source (extractionText view) view.opening x.param.name view.closing

def RoutesTo (source router : String) (r : Route) : Prop :=
  let view := RouteView.ofRoute r
  Spells source (routeLine router view) (view.opening router) r.path view.closing

private theorem takes_iff {source : String} {x : Extraction} {view : ExtractionView}
    (h : ExtractionView.ofExtraction x = .ok view) (has : Contains source (extractionText view)) :
    Takes source x view ↔ Verbatim x.param.name := by
  refine spells_iff has ?_
  rw [extractionText_eq, name_of_ofExtraction h]

private theorem routesTo_iff {t : RouteTable} {module router : String} {r : Route}
    (line : (router, RouteView.ofRoute r) ∈ (RegisterView.ofTable module t).lines) :
    RoutesTo (registerText (.ofTable module t)) router r ↔ Verbatim r.path :=
  spells_iff (contains_routeLine line) (routeLine_eq router _)

/-- The source has literals for the names of all parameters that its handlers take. -/
def HandlerPackageView.Takes (view : HandlerPackageView) (source : String) (p : HandlerPackage) :
    Prop :=
  List.Forall₂ (fun plan h => List.Forall₂ (Go.Takes source) plan.extractions h.extractions)
    p.handlers view.handlers

theorem forall₂_iff_left {α β : Type} {R S : α → β → Prop} {P : α → Prop} {as : List α}
    {bs : List β} (related : List.Forall₂ R as bs)
    (same : ∀ a ∈ as, ∀ b ∈ bs, R a b → (S a b ↔ P a)) :
    List.Forall₂ S as bs ↔ ∀ a ∈ as, P a := by
  induction related with
  | nil => simp
  | cons first _ ih =>
    rw [List.forall₂_cons, List.forall_mem_cons,
      same _ List.mem_cons_self _ List.mem_cons_self first]
    refine and_congr_right fun _ => ih fun a ha b hb => ?_
    exact same a (List.mem_cons_of_mem _ ha) b (List.mem_cons_of_mem _ hb)

private theorem takes_package_iff {module : String} {p : HandlerPackage} {view : HandlerPackageView}
    (h : HandlerPackageView.ofPackage module p = .ok view) :
    view.Takes (handlerPackageText module view) p ↔
      ∀ plan ∈ p.handlers, ∀ x ∈ plan.extractions, Verbatim x.param.name := by
  refine forall₂_iff_left (handlers_of_ofPackage h) fun plan _ handler among spelled => ?_
  refine forall₂_iff_left (extractions_of_ofPlan spelled) fun x _ taken inside viewed => ?_
  have has := (contains_handlerText among module).trans (contains_extractionText inside)
  exact takes_iff viewed has

end ApiScaffold.Go

namespace ApiScaffold

open Go

/-! ## Declared names -/

/-- The endpoint has the path of the operation and, unless its handler is custom, a parameter for
each one that the operation or its path declares and that takes part. -/
structure Endpoint.Follows (place : String × List Parameter × Method × Operation) (e : Endpoint) :
    Prop where
  path : e.path = place.1
  names : (e.params.params.map (·.name)).Perm <|
    if e.customHandler then []
    else (ParameterPlan.kept e.isPaged (place.2.2.2.parameters ++ place.2.1)).map (·.2.name)

private theorem Endpoint.follows_of_ofDocument {d : Document} {endpoints : List Endpoint}
    (h : (ofDocument d).result = .ok endpoints) :
    List.Forall₂ Follows (operations d) endpoints := by
  refine (forall₂_of_ofDocument h).imp ?_
  intro place e classified
  obtain ⟨path, shared, method, operation⟩ := place
  obtain ⟨directives, _, _, _, shape, _, params, -, -, -, -, given, rfl⟩ :=
    ofOperation_eq_ok classified
  refine ⟨rfl, ?_⟩
  dsimp only
  split at given
  case isTrue custom =>
    obtain ⟨-, rfl⟩ := given
    simp [custom, ParameterPlan.params]
  case isFalse generated =>
    obtain ⟨specs, found, perm⟩ := ParameterPlan.exists_specs_of_plan given.2
    obtain ⟨all, -, -⟩ := ParameterPlan.specs_eq_ok_iff.mp found
    have names := ParameterPlan.names_of_specifies all
    rw [if_neg generated]
    exact (perm.map _).trans (.of_eq names)

/-! ## Services -/

open Generation in
/-- The files have literals for the names of all parameters that are taken from a request, and for
the paths of all routes. -/
structure Service.Quotes (s : Service) (files : List Artifact) : Prop where
  names : ∀ p ∈ s.handlers.packages, ∃ view, HandlerPackageView.ofPackage s.module p = .ok view ∧
    file (handlerPath p.name) (handlerPackageText s.module view) ∈ files ∧
    view.Takes (handlerPackageText s.module view) p
  register : file "internal/rest/register/generated.go"
    (registerText (.ofTable s.module s.routes)) ∈ files
  free : ∀ r ∈ s.routes.free, RoutesTo (registerText (.ofTable s.module s.routes)) "\t\tr" r
  guarded : ∀ r ∈ s.routes.guarded,
    RoutesTo (registerText (.ofTable s.module s.routes)) "\t\t\tprotected" r

namespace Service

variable {d : Document} {c : Context} {s : Service}

private theorem names_verbatim_iff (h : s.Compiled d c) :
    (∀ p ∈ s.handlers.packages, ∀ plan ∈ p.handlers, ∀ x ∈ plan.extractions,
        Verbatim x.param.name) ↔
      ∀ e ∈ s.endpoints, ∀ p ∈ e.params.params, Verbatim p.name := by
  rw [Handlers.forall_plans_iff h.handlers]
  refine forall₂_congr fun e member => ?_
  obtain ⟨plan, made, -, params, -⟩ := HandlerPlan.exists_ofEndpoint e
  have taken : (∀ x ∈ plan.extractions, Verbatim x.param.name) ↔
      ∀ p ∈ e.params.params, Verbatim p.name := by
    rw [ParameterPlan.params, ← params, List.forall_mem_map]
  rw [← taken]
  cases custom : e.customHandler with
  | false =>
    constructor
    · exact fun all => all rfl plan made
    · rintro clean - _ other
      cases made.symm.trans other
      exact clean
  | true =>
    -- a custom handler takes its parameters itself, so that it declares none
    obtain ⟨_, -, follows⟩ :=
      Outcome.left_of_mem (Endpoint.follows_of_ofDocument h.endpoints) member
    have none := follows.names
    rw [if_pos custom, List.perm_nil, List.map_eq_nil_iff] at none
    rw [taken, none]
    exact iff_of_true nofun (List.forall_mem_nil _)

private theorem paths_verbatim_iff (h : s.Compiled d c) :
    ((∀ r ∈ s.routes.free, Verbatim r.path) ∧ ∀ r ∈ s.routes.guarded, Verbatim r.path) ↔
      ∀ e ∈ s.endpoints, Verbatim e.path := by
  have routes : ∀ r, r ∈ s.routes.routes ↔ ∃ e ∈ s.endpoints, Route.ofEndpoint e = r := by
    intro r
    rw [h.routes, (RouteTable.routes_perm s.endpoints).mem_iff, List.mem_map]
  rw [← List.forall_mem_append]
  constructor
  · intro clean e member
    exact clean _ ((routes _).mpr ⟨e, member, rfl⟩)
  · intro clean r member
    obtain ⟨e, inside, rfl⟩ := (routes r).mp member
    exact clean e inside

private theorem quotes_iff (h : s.Compiled d c) {files : List Artifact}
    (written : Generation.render s = .ok files) :
    s.Quotes files ↔
      ∀ e ∈ s.endpoints, Verbatim e.path ∧ ∀ p ∈ e.params.params, Verbatim p.name := by
  have line {routes : List Route} {r : Route} (member : r ∈ routes) (router : String) :
      (router, RouteView.ofRoute r) ∈ (routes.map RouteView.ofRoute).map (router, ·) :=
    List.mem_map_of_mem (List.mem_map_of_mem member)
  have free (r : Route) (member : r ∈ s.routes.free) :
      RoutesTo (registerText (.ofTable s.module s.routes)) "\t\tr" r ↔ Verbatim r.path :=
    routesTo_iff (List.mem_append_left _ (line member _))
  have guarded (r : Route) (member : r ∈ s.routes.guarded) :
      RoutesTo (registerText (.ofTable s.module s.routes)) "\t\t\tprotected" r ↔
        Verbatim r.path :=
    routesTo_iff (List.mem_append_right _ (line member _))
  rw [forall₂_and, ← names_verbatim_iff h, ← paths_verbatim_iff h]
  constructor
  · intro quotes
    refine ⟨⟨fun r member => (free r member).mp (quotes.free r member), ?_⟩, ?_⟩
    · exact fun r member => (guarded r member).mp (quotes.guarded r member)
    · intro p member
      obtain ⟨view, spelled, -, takes⟩ := quotes.names p member
      exact (takes_package_iff spelled).mp takes
  · rintro ⟨⟨clean, cleanGuarded⟩, names⟩
    refine
      { names := fun p member => ?_
        register := Generation.register_of_render written
        free := fun r member => (free r member).mpr (clean r member)
        guarded := fun r member => (guarded r member).mpr (cleanGuarded r member) }
    obtain ⟨view, spelled, rendered⟩ := Generation.exists_view_of_render written member
    exact ⟨view, spelled, rendered, (takes_package_iff spelled).mpr (names p member)⟩

/-- A compiled service has files, and its endpoints have the paths and the parameters of the
operations. The files have literals for all of these texts exactly if there is no quote, no
backslash and no line break in any of them. -/
theorem quotes_iff_verbatim (h : (Service.ofDocument d c).result = .ok s) :
    ∃ files, Generation.render s = .ok files ∧
      List.Forall₂ Endpoint.Follows (Endpoint.operations d) s.endpoints ∧
      (s.Quotes files ↔
        ∀ e ∈ s.endpoints, Verbatim e.path ∧ ∀ p ∈ e.params.params, Verbatim p.name) := by
  have compiled := compiled_of_ofDocument h
  obtain ⟨files, written⟩ := Generation.exists_render (handlers_supported h)
  exact ⟨files, written, Endpoint.follows_of_ofDocument compiled.endpoints,
    quotes_iff compiled written⟩

def searchDescription (path parameter : String) : Json :=
  Description.assemble []
    [(path, .object [("get", Description.generatedOperation "listTickets" "ticket"
      [("parameters", .array [.object [
        ("in", .string "query"), ("name", .string parameter),
        ("schema", .object [("type", .string "string")])]])])])] []

/-- Nothing but the quotes of Go needs an escape. -/
theorem quotes_iff_verbatim_apostrophe :
    ∃ d c s files, Description.read (searchDescription "/größe" "'id'") = .ok d ∧
      Context.ofDocument d .go (some "example.com/queue") = .ok c ∧
      (Service.ofDocument d c).result = .ok s ∧ Generation.render s = .ok files ∧
      List.Forall₂ Endpoint.Follows (Endpoint.operations d) s.endpoints ∧
      (s.Quotes files ↔
        ∀ e ∈ s.endpoints, Verbatim e.path ∧ ∀ p ∈ e.params.params, Verbatim p.name) ∧
      (s.endpoints.map fun e => (e.path, e.params.params.map (·.name))) = [("/größe", ["'id'"])] ∧
      s.Quotes files := by
  have compiles : ∃ d c s, Description.read (searchDescription "/größe" "'id'") = .ok d ∧
      Context.ofDocument d .go (some "example.com/queue") = .ok c ∧
      (Service.ofDocument d c).result = .ok s ∧
      (s.endpoints.map fun e => (e.path, e.params.params.map (·.name))) = [("/größe", ["'id'"])] ∧
      ∀ e ∈ s.endpoints, Verbatim e.path ∧ ∀ p ∈ e.params.params, Verbatim p.name :=
    ⟨_, _, _, rfl, rfl, rfl, by decide +kernel⟩
  obtain ⟨d, c, s, read, context, compiled, texts, clean⟩ := compiles
  obtain ⟨files, written, follows, same⟩ := quotes_iff_verbatim compiled
  exact ⟨d, c, s, files, read, context, compiled, written, follows, same, texts, same.mpr clean⟩

/-- A quote in the name of a parameter ends the literal, and the rest of the name is code. -/
theorem not_quotes_panic :
    ∃ d c s files, Description.read (searchDescription "/tickets" "id\"); panic(\"x") = .ok d ∧
      Context.ofDocument d .go (some "example.com/queue") = .ok c ∧
      (Service.ofDocument d c).result = .ok s ∧ Generation.render s = .ok files ∧
      ¬ s.Quotes files ∧
      ∃ p ∈ s.handlers.packages, ∃ plan ∈ p.handlers, ∃ x ∈ plan.extractions, ∃ view,
        ExtractionView.ofExtraction x = .ok view ∧ view.name = "id\"); panic(\"x" ∧
        Denotes (extractionText view) view.opening "id" ("); panic(\"x\"" ++ view.closing) := by
  have compiles : ∃ d c s,
      Description.read (searchDescription "/tickets" "id\"); panic(\"x") = .ok d ∧
      Context.ofDocument d .go (some "example.com/queue") = .ok c ∧
      (Service.ofDocument d c).result = .ok s ∧
      ∃ p ∈ s.handlers.packages, ∃ plan ∈ p.handlers, ∃ x ∈ plan.extractions,
        x.param.name = "id\"); panic(\"x" :=
    ⟨_, _, _, rfl, rfl, rfl, by decide +kernel⟩
  obtain ⟨d, c, s, read, context, compiled, p, member, plan, planned, x, taken, name⟩ := compiles
  have supported := handlers_supported compiled
  have stages := compiled_of_ofDocument compiled
  obtain ⟨files, written⟩ := Generation.exists_render supported
  obtain ⟨view, viewed, helps⟩ := exists_extractionView (supported p member plan planned x taken)
  refine ⟨d, c, s, files, read, context, compiled, written, ?_, p, member, plan, planned, x, taken,
    view, viewed, helps.1.trans name, ?_⟩
  · intro quotes
    have clean := (quotes_iff stages written).mp quotes
    have names := (names_verbatim_iff stages).mpr fun e member => (clean e member).2
    have verbatim := names p member plan planned x taken
    rw [name] at verbatim
    revert verbatim
    decide
  · have split : extractionText view =
        view.opening ++ betweenQuotes "id" ++ ("); panic(\"x\"" ++ view.closing) := by
      have between : betweenQuotes "id\"); panic(\"x" = betweenQuotes "id" ++ "); panic(\"x\"" := by
        decide
      rw [extractionText_eq, helps.1.trans name, between]
      simp only [String.append_assoc]
    rw [split]
    exact denotes_betweenQuotes_iff.mpr (by decide)

end Service

end ApiScaffold
