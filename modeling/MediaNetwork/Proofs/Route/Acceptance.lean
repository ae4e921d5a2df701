/-
  Which endpoints a route table accepts.

  Five checks run while routes are assembled.  `Route.Consistent` says what they come to, in terms
  of what the network sockets of the endpoints declare: no two sources of one name, the same names
  among sources and sinks, no id asked for by two pairs, and enough free ids for the pairs that ask
  for none.

  1. `freeFrom` lists the free ids; drawing an automatic id takes its first member
     (`freeFrom_of_drawId`).
  2. `Fits` says when the ids of the pairs still to come can be given, and each pair takes its part
     of it away, so `assign` ends well exactly if the pairs fit (`assign_eq_ok_iff`), and the
     automatic ids are the first of the free ones (`automatic_of_assign`).
  3. Terminals say what endpoints declare (`declarations_eq`, `declaredPairs_eq`), so the checks are
     those of `Consistent` (`checks_iff_consistent`).
  4. `assemble_exact` puts them together; what stops the assembly is always a reference
     (`assemble_error`).
-/
import Mathlib.Data.List.ProdSigma
import MediaNetwork.Proofs.Route.Table

namespace MediaNetwork

open MediaNetwork.Outcome

/-- What the network socket with this handle declares, if it is one. -/
def Arena.routeDecl? (a : Arena) (id : ResourceId) : Option RouteDecl :=
  match a.get? id with
  | some (.socket ⟨_, _, _, .network _ decl⟩) => some decl
  | _ => none

/-- An endpoint declares what the network socket it faces declares. -/
theorem Endpoint.declares_iff {a : Arena} {e : Endpoint} {decl : RouteDecl} :
    e.Declares a decl ↔ a.routeDecl? e.networkSocket = some decl := by
  unfold Declares Arena.routeDecl?
  constructor
  · rintro ⟨port, direction, dataType, bandwidth, hget⟩
    rw [hget]
  · intro h
    split at h
    · rename_i port direction dataType bandwidth decl' hget
      cases h
      exact ⟨port, direction, dataType, bandwidth, hget⟩
    · nomatch h

namespace Route

/-! ## Consistent endpoints -/

/-- The id a pair of declarations asks for: that of the sink, else that of the source. -/
def effectiveId (pair : RouteDecl × RouteDecl) : Option UInt16 :=
  pair.2.routeId <|> pair.1.routeId

/-- The ids from `first` up to 0xFFFF that are not taken, in increasing order. -/
def freeFrom (first : Nat) (taken : List UInt16) : List UInt16 :=
  ((List.range' first (0x10000 - first)).map UInt16.ofNat).filter fun id => !taken.contains id

section Endpoints

variable (a : Arena) (endpoints : List Endpoint)

/-- What the endpoints of a kind declare, in the order of the endpoints. -/
def declarations (kind : EndpointKind) : List RouteDecl :=
  (endpoints.filter fun e => e.kind == kind).filterMap fun e => a.routeDecl? e.networkSocket

/-- The ids that the endpoints declare. -/
def declaredIds : List UInt16 :=
  endpoints.filterMap fun e => (a.routeDecl? e.networkSocket).bind RouteDecl.routeId

/-- A source and a sink that declare one name, source by source. -/
def declaredPairs : List (RouteDecl × RouteDecl) :=
  (declarations a endpoints .source ×ˢ declarations a endpoints .sink).filter fun pair =>
    pair.1.name == pair.2.name

/-- How many pairs ask for no id. -/
def automaticCount : Nat := (declaredPairs a endpoints).countP fun pair =>
  (effectiveId pair).isNone

/-- The endpoints can be joined to routes. -/
structure Consistent : Prop where
  oneSource : ((declarations a endpoints .source).map RouteDecl.name).Nodup
  sameNames : ∀ name, name ∈ (declarations a endpoints .source).map RouteDecl.name ↔
    name ∈ (declarations a endpoints .sink).map RouteDecl.name
  distinctIds : ((declaredPairs a endpoints).filterMap effectiveId).Nodup
  enoughIds : automaticCount a endpoints ≤ (freeFrom 0x8000 (declaredIds a endpoints)).length

/-- What the ends of a route declare. -/
def ends? (r : Route) : Option (RouteDecl × RouteDecl) :=
  match endpoints[r.source.index]?, endpoints[r.sink.index]? with
  | some source, some sink =>
    match a.routeDecl? source.networkSocket, a.routeDecl? sink.networkSocket with
    | some decl, some decl' => some (decl, decl')
    | _, _ => none
  | _, _ => none

/-- Whether the ends of a route ask for no id. -/
def isAutomatic (r : Route) : Bool :=
  (ends? a endpoints r).any fun pair => (effectiveId pair).isNone

end Endpoints

/-! ## Free ids -/

variable {reserved : List UInt16}

/-- One place after another, from the first that has not been passed. -/
theorem freeFrom_succ {left : Nat} (hleft : left < 0x10000) :
    freeFrom (0x10000 - (left + 1)) reserved =
      if reserved.contains (UInt16.ofNat (0xFFFF - left)) then freeFrom (0x10000 - left) reserved
      else UInt16.ofNat (0xFFFF - left) :: freeFrom (0x10000 - left) reserved := by
  have hfirst : 0x10000 - (left + 1) = 0xFFFF - left := by omega
  have hcount : 0x10000 - (0xFFFF - left) = left + 1 := by omega
  have hnext : 0xFFFF - left + 1 = 0x10000 - left := by omega
  have hrest : 0x10000 - (0x10000 - left) = left := by omega
  unfold freeFrom
  rw [hfirst, hcount, hrest, List.range'_succ, hnext, List.map_cons, List.filter_cons]
  cases reserved.contains (UInt16.ofNat (0xFFFF - left)) with
  | true => rfl
  | false => rfl

/-- Drawing an id takes the first free one, if there is one. -/
theorem freeFrom_of_drawId {left : Nat} (hleft : left ≤ automaticIds) :
    freeFrom (0x10000 - left) reserved = match drawId reserved left with
      | none => []
      | some (id, rest) => id :: freeFrom (0x10000 - rest) reserved := by
  have hbound : left ≤ 0x8000 := hleft
  induction left with
  | zero => rfl
  | succ left ih =>
    rw [freeFrom_succ (by omega)]
    unfold drawId
    by_cases hres : reserved.contains (UInt16.ofNat (0xFFFF - left)) = true
    · simp only [hres, if_true]
      exact ih (Nat.le_of_succ_le hleft) (by omega)
    · simp only [hres]
      rfl

/-! ## Pairs that fit -/

/-- The ids that pairs of terminals ask for. -/
def askedIds (pairs : List (Terminal × Terminal)) : List UInt16 :=
  pairs.filterMap fun p => declaredId p.1 p.2

/-- How many pairs of terminals ask for none. -/
def unasked (pairs : List (Terminal × Terminal)) : Nat :=
  pairs.countP fun p => (declaredId p.1 p.2).isNone

/-- The ids of these pairs can be given, when those in `used` were given and only the last `left`
    automatic ones have not been passed. -/
def Fits (reserved used : List UInt16) (left : Nat) (pairs : List (Terminal × Terminal)) : Prop :=
  (askedIds pairs).Nodup ∧ (∀ id ∈ askedIds pairs, id ∉ used) ∧
    unasked pairs ≤ (freeFrom (0x10000 - left) reserved).length

section Pairs

variable {source sink : Terminal} {pairs : List (Terminal × Terminal)} {used : List UInt16}
  {left : Nat}

/-- A pair that asks for an id takes it from the later ones. -/
theorem fits_cons_asked {id : UInt16} (hid : declaredId source sink = some id) :
    Fits reserved used left ((source, sink) :: pairs) ↔
      id ∉ used ∧ Fits reserved (id :: used) left pairs := by
  have hasked : askedIds ((source, sink) :: pairs) = id :: askedIds pairs := by
    simp [askedIds, hid]
  have hunasked : unasked ((source, sink) :: pairs) = unasked pairs := by
    simp [unasked, hid]
  unfold Fits
  rw [hasked, hunasked, List.nodup_cons, List.forall_mem_cons]
  constructor
  · rintro ⟨⟨hnot, hnodup⟩, ⟨hfresh, hothers⟩, hroom⟩
    refine ⟨hfresh, hnodup, fun x hx => ?_, hroom⟩
    rw [List.mem_cons, not_or]
    refine ⟨?_, hothers x hx⟩
    rintro rfl
    exact hnot hx
  · rintro ⟨hfresh, hnodup, hothers, hroom⟩
    have hnot : id ∉ askedIds pairs := fun hin => hothers id hin List.mem_cons_self
    exact ⟨⟨hnot, hnodup⟩, ⟨hfresh, fun x hx hin => hothers x hx (List.mem_cons_of_mem _ hin)⟩,
      hroom⟩

/-- A pair that asks for no id is one more. -/
theorem unasked_cons (hnone : declaredId source sink = none) :
    unasked ((source, sink) :: pairs) = unasked pairs + 1 := by
  simp [unasked, hnone]

/-- A pair that asks for none needs a free id, and leaves those behind it. -/
theorem fits_cons_unasked (hnone : declaredId source sink = none) (rest : Nat)
    (first : Option UInt16) (hfree : freeFrom (0x10000 - left) reserved =
      match first with
      | none => []
      | some id => id :: freeFrom (0x10000 - rest) reserved) :
    Fits reserved used left ((source, sink) :: pairs) ↔
      first.isSome ∧ Fits reserved used rest pairs := by
  have hasked : askedIds ((source, sink) :: pairs) = askedIds pairs := by
    simp [askedIds, hnone]
  unfold Fits
  rw [hasked, unasked_cons hnone, hfree]
  cases first with
  | none => simp
  | some id => simp

/-- An id that no pair asks for takes nothing from them. -/
theorem fits_cons_used {id : UInt16} (hid : id ∉ askedIds pairs) :
    Fits reserved (id :: used) left pairs ↔ Fits reserved used left pairs := by
  have hsame : (∀ x ∈ askedIds pairs, x ∉ id :: used) ↔ ∀ x ∈ askedIds pairs, x ∉ used := by
    refine forall₂_congr fun x hx => ?_
    have hne : x ≠ id := fun h => hid (h ▸ hx)
    rw [List.mem_cons, not_or, and_iff_right hne]
  unfold Fits
  rw [hsame]

end Pairs

/-- **Ids can be given** exactly if the pairs fit.  The ids that pairs ask for are reserved, and so
    are those given so far unless they were passed, so only ids that are asked for can clash. -/
theorem assign_eq_ok_iff {pairs : List (Terminal × Terminal)} {used : List UInt16} {left : Nat}
    (done : List Route) (hleft : left ≤ automaticIds)
    (hreserved : ∀ pair ∈ pairs, ∀ id, declaredId pair.1 pair.2 = some id → id ∈ reserved)
    (hpassed : Passed reserved used left) :
    (∃ routes, assign reserved left used done pairs = .ok routes) ↔
      Fits reserved used left pairs := by
  -- on the pairs; `Passed` is kept over either kind of id, and lets no drawn id be a used one
  induction pairs generalizing used left done with
  | nil => simp [assign, Fits, askedIds, unasked]
  | cons pair pairs ih =>
    obtain ⟨source, sink⟩ := pair
    have hrest : ∀ pair ∈ pairs, ∀ id, declaredId pair.1 pair.2 = some id → id ∈ reserved :=
      fun pair hpair => hreserved pair (List.mem_cons_of_mem _ hpair)
    simp only [assign_cons_eq_ok, pickId_eq_ok]
    cases hasked : declaredId source sink with
    | some id =>
      have hmem : id ∈ reserved := hreserved _ List.mem_cons_self id hasked
      rw [fits_cons_asked hasked, ← ih (ofPair source sink id :: done) hleft hrest
        (hpassed.declared hmem)]
      simp
    | none =>
      have hfree : freeFrom (0x10000 - left) reserved = _ := freeFrom_of_drawId hleft
      cases hdraw : drawId reserved left with
      | none =>
        rw [hdraw] at hfree
        rw [fits_cons_unasked hasked 0 none hfree]
        simp
      | some drawn =>
        obtain ⟨id, rest⟩ := drawn
        obtain ⟨hnot, hlt, -⟩ := drawId_spec hleft hdraw
        obtain ⟨hfresh, hpassed⟩ := hpassed.drawn hleft hdraw
        -- a drawn id is not reserved, so no later pair asks for it
        have hunasked : id ∉ askedIds pairs := by
          intro hin
          obtain ⟨pair, hpair, hid⟩ := List.mem_filterMap.mp hin
          exact hnot (hrest pair hpair id hid)
        rw [hdraw] at hfree
        rw [fits_cons_unasked hasked rest (some id) hfree, ← fits_cons_used hunasked,
          ← ih (ofPair source sink id :: done) (Nat.le_trans (Nat.le_of_lt hlt) hleft) hrest
            hpassed]
        simp [hfresh]

/-- The ids of the routes whose pairs ask for none are the first of the free ones. -/
theorem automatic_of_assign {auto : Route → Bool} {pairs : List (Terminal × Terminal)}
    {used : List UInt16} {left : Nat} {done routes : List Route} (hleft : left ≤ automaticIds)
    (hauto : ∀ p ∈ pairs, ∀ id, auto (ofPair p.1 p.2 id) = (declaredId p.1 p.2).isNone)
    (h : assign reserved left used done pairs = .ok routes) :
    ∃ more, routes = done.reverse ++ more ∧ (more.filter auto).map Route.routeId =
      (freeFrom (0x10000 - left) reserved).take (unasked pairs) := by
  induction pairs generalizing used left done with
  | nil =>
    cases h
    exact ⟨[], by simp, rfl⟩
  | cons pair pairs ih =>
    obtain ⟨source, sink⟩ := pair
    obtain ⟨id, rest, hpick, -, hlater⟩ := assign_cons_eq_ok.mp h
    have hfirst := hauto _ List.mem_cons_self id
    have hrest : ∀ p ∈ pairs, ∀ id, auto (ofPair p.1 p.2 id) = (declaredId p.1 p.2).isNone :=
      fun p hp => hauto p (List.mem_cons_of_mem _ hp)
    have hfront : ∀ more, (ofPair source sink id :: done).reverse ++ more =
        done.reverse ++ ofPair source sink id :: more := by
      intro more
      rw [List.reverse_cons, ← List.append_cons]
    rcases pickId_eq_ok.mp hpick with ⟨hid, rfl⟩ | ⟨hnone, hdraw⟩
    · -- a declared id takes nothing from the free ones
      obtain ⟨more, hroutes, hids⟩ := ih hleft hrest hlater
      refine ⟨ofPair source sink id :: more, hroutes.trans (hfront more), ?_⟩
      have hskip : auto (ofPair source sink id) = false := by
        rw [hfirst]
        simp [hid]
      rw [List.filter_cons, hskip, if_neg Bool.false_ne_true, hids]
      simp [unasked, hid]
    · -- an automatic id is the first of them
      have hlt := (drawId_spec hleft hdraw).2.1
      have hfree : freeFrom (0x10000 - left) reserved = _ := freeFrom_of_drawId hleft
      rw [hdraw] at hfree
      obtain ⟨more, hroutes, hids⟩ := ih (Nat.le_trans (Nat.le_of_lt hlt) hleft) hrest hlater
      refine ⟨ofPair source sink id :: more, hroutes.trans (hfront more), ?_⟩
      have hkeep : auto (ofPair source sink id) = true := by
        rw [hfirst]
        simp [hnone]
      rw [List.filter_cons, hkeep, if_pos rfl, List.map_cons, hids, hfree, unasked_cons hnone,
        List.take_succ_cons]
      rfl

/-! ## What terminals say -/

section Terminals

variable {a : Arena} {endpoints : List Endpoint} {terminals : List (EndpointKind × Terminal)}
  (h : Terminal.ofEndpoints a endpoints = .ok terminals)

include h

/-- The terminals of a kind declare what its endpoints do. -/
theorem declarations_eq (kind : EndpointKind) :
    (Terminal.ofKind kind terminals).map Terminal.decl = declarations a endpoints kind := by
  have hall := Terminal.forall₂_of_ofEndpoints h
  clear h
  -- the numbers of the endpoints do not matter here
  generalize 0 = first at hall
  induction endpoints generalizing first terminals with
  | nil =>
    cases hall
    rfl
  | cons e endpoints ih =>
    rw [List.zipIdx_cons] at hall
    obtain ⟨⟨kind', t⟩, rest, ⟨hkind, -, -, hdecl⟩, hrest, rfl⟩ :=
      List.forall₂_cons_left_iff.mp hall
    obtain rfl : kind' = e.kind := hkind
    have ih := ih _ hrest
    have hsome : a.routeDecl? e.networkSocket = some t.decl := Endpoint.declares_iff.mp hdecl
    unfold Terminal.ofKind declarations at ih ⊢
    rw [List.filter_cons, List.filter_cons]
    cases e.kind == kind with
    | true =>
      rw [if_pos rfl, if_pos rfl, List.map_cons, List.map_cons, ih, List.filterMap_cons, hsome]
    | false =>
      rw [if_neg Bool.false_ne_true, if_neg Bool.false_ne_true, ih]

/-- **Pairs** of terminals are the pairs of what is declared. -/
theorem declaredPairs_eq :
    (pairs (Terminal.ofKind .source terminals) (Terminal.ofKind .sink terminals)).map
      (fun p => (p.1.decl, p.2.decl)) = declaredPairs a endpoints := by
  unfold declaredPairs pairs
  rw [← declarations_eq h, ← declarations_eq h]
  simp only [SProd.sprod, List.product, List.filter_flatMap, List.flatMap_map, List.map_flatMap,
    List.filter_map, List.map_map]
  rfl

/-- They ask for the same ids. -/
theorem askedIds_eq :
    askedIds (pairs (Terminal.ofKind .source terminals) (Terminal.ofKind .sink terminals)) =
      (declaredPairs a endpoints).filterMap effectiveId := by
  rw [← declaredPairs_eq h, List.filterMap_map]
  rfl

/-- As many of them ask for none. -/
theorem unasked_eq :
    unasked (pairs (Terminal.ofKind .source terminals) (Terminal.ofKind .sink terminals)) =
      automaticCount a endpoints := by
  unfold automaticCount
  rw [← declaredPairs_eq h, List.countP_map]
  rfl

/-- Terminals declare the ids that endpoints declare. -/
theorem mem_reserved_iff {id : UInt16} :
    id ∈ (Terminal.ofKind .source terminals ++ Terminal.ofKind .sink terminals).filterMap
      (fun t => t.decl.routeId) ↔ id ∈ declaredIds a endpoints := by
  unfold declaredIds
  rw [List.mem_filterMap, List.mem_filterMap]
  constructor
  · rintro ⟨t, ht, hid⟩
    obtain ⟨e, he, hdecl⟩ : ∃ e ∈ endpoints, e.Declares a t.decl := by
      rcases List.mem_append.mp ht with ht | ht
      · obtain ⟨e, he, -, -, hdecl⟩ := (Terminal.mem_ofKind h).mp ht
        exact ⟨e, List.mem_of_getElem? he, hdecl⟩
      · obtain ⟨e, he, -, -, hdecl⟩ := (Terminal.mem_ofKind h).mp ht
        exact ⟨e, List.mem_of_getElem? he, hdecl⟩
    refine ⟨e, he, ?_⟩
    rw [Endpoint.declares_iff.mp hdecl]
    exact hid
  · rintro ⟨e, he, hid⟩
    -- the place of the endpoint tells its terminal, and this one declares the same
    obtain ⟨decl, hsome, hid⟩ := Option.bind_eq_some_iff.mp hid
    obtain ⟨i, hi⟩ := List.mem_iff_getElem?.mp he
    have hi' : endpoints[(EndpointId.mk i).index]? = some e := hi
    obtain ⟨t, ht, hindex⟩ := Terminal.exists_standsFor h hi'
    have hdecl : t.decl = decl := by
      obtain ⟨e', he', -, -, hdecl⟩ := ht
      rw [hindex, hi] at he'
      cases he'
      exact (Endpoint.declares_iff.mpr hsome).unique hdecl
    refine ⟨t, ?_, by rw [hdecl, hid]⟩
    rw [List.mem_append]
    cases hkind : e.kind with
    | source => exact Or.inl ((Terminal.mem_ofKind h).mpr (hkind ▸ ht))
    | sink => exact Or.inr ((Terminal.mem_ofKind h).mpr (hkind ▸ ht))

/-- Only the ids that endpoints declare are not free. -/
theorem freeFrom_reserved (first : Nat) :
    freeFrom first ((Terminal.ofKind .source terminals ++
      Terminal.ofKind .sink terminals).filterMap fun t => t.decl.routeId) =
      freeFrom first (declaredIds a endpoints) := by
  unfold freeFrom
  refine List.filter_congr fun id _ => ?_
  congr 1
  rw [Bool.eq_iff_iff, List.contains_iff_mem, List.contains_iff_mem]
  exact mem_reserved_iff h

/-- **The checks** are those of consistent endpoints. -/
theorem checks_iff_consistent :
    (checkTerminals (Terminal.ofKind .source terminals) (Terminal.ofKind .sink terminals) = .ok () ∧
      Fits ((Terminal.ofKind .source terminals ++ Terminal.ofKind .sink terminals).filterMap
        fun t => t.decl.routeId) [] automaticIds
        (pairs (Terminal.ofKind .source terminals) (Terminal.ofKind .sink terminals))) ↔
      Consistent a endpoints := by
  have hfirst : 0x10000 - automaticIds = 0x8000 := rfl
  have hsources := declarations_eq h .source
  have hsinks := declarations_eq h .sink
  -- the check compares a source with those before it, distinctness with those behind
  have hnames : ((declarations a endpoints .source).map RouteDecl.name).Nodup ↔
      (Terminal.ofKind .source terminals).Pairwise fun s t => t.decl.name ≠ s.decl.name := by
    rw [← hsources, List.map_map, List.Nodup, List.pairwise_map]
    exact ⟨fun h => h.imp Ne.symm, fun h => h.imp Ne.symm⟩
  unfold Fits
  rw [checkTerminals_eq_ok, askedIds_eq h, unasked_eq h, hfirst, freeFrom_reserved h, ← hnames]
  constructor
  · rintro ⟨⟨hone, hsink, hsource⟩, hdistinct, -, henough⟩
    refine ⟨hone, fun name => ?_, hdistinct, henough⟩
    rw [← hsources, ← hsinks, List.map_map, List.map_map, List.mem_map, List.mem_map]
    constructor
    · rintro ⟨s, hs, rfl⟩
      obtain ⟨t, ht, hname⟩ := hsink s hs
      exact ⟨t, ht, hname.symm⟩
    · rintro ⟨t, ht, rfl⟩
      exact hsource t ht
  · rintro ⟨hone, hsame, hdistinct, henough⟩
    rw [← hsources, ← hsinks, List.map_map, List.map_map] at hsame
    refine ⟨⟨hone, fun s hs => ?_, fun t ht => ?_⟩, hdistinct, fun _ _ hin => (nomatch hin),
      henough⟩
    · obtain ⟨t, ht, hname⟩ := List.mem_map.mp ((hsame _).mp (List.mem_map_of_mem hs))
      exact ⟨t, ht, hname.symm⟩
    · exact List.mem_map.mp ((hsame _).mpr (List.mem_map_of_mem ht))

end Terminals

/-! ## Assembly -/

/-- The computation can only fail for a reference. -/
abbrev FailsByReference {α : Type} (x : Except CompileError α) : Prop :=
  FailsWith (fun e => ∃ fault, e = .reference fault) x

/-- **Faults**: the terminals are refused for a reference. -/
theorem checkTerminals_error (sources sinks : List Terminal) :
    FailsByReference (checkTerminals sources sinks) := by
  unfold checkTerminals
  split
  · exact .error ⟨_, rfl⟩
  split
  · exact .error ⟨_, rfl⟩
  split
  · exact .error ⟨_, rfl⟩
  · exact .ok _

/-- So is an id. -/
theorem pickId_error (left : Nat) (source sink : Terminal) :
    FailsByReference (pickId reserved left source sink) := by
  unfold pickId
  split
  · exact .ok _
  split
  · exact .ok _
  · exact .error ⟨_, rfl⟩

/-- Ids run out, or one of them is given twice; both are references. -/
theorem assign_error (left : Nat) (used : List UInt16) (done : List Route)
    (pairs : List (Terminal × Terminal)) :
    FailsByReference (assign reserved left used done pairs) := by
  induction pairs generalizing used left done with
  | nil => exact .ok _
  | cons pair pairs ih =>
    rw [assign]
    refine .bind (pickId_error left pair.1 pair.2) ?_
    rintro ⟨id, rest⟩ -
    dsimp only
    split
    · exact .error ⟨_, rfl⟩
    · exact ih _ _ _

section Assembly

variable {a : Arena} {endpoints : List Endpoint} {terminals : List (EndpointKind × Terminal)}

/-- Counting the routes at the end changes nothing. -/
theorem assemble_eq (h : Terminal.ofEndpoints a endpoints = .ok terminals) :
    assemble a endpoints = (checkTerminals (Terminal.ofKind .source terminals)
        (Terminal.ofKind .sink terminals) >>= fun _ =>
      assign ((Terminal.ofKind .source terminals ++ Terminal.ofKind .sink terminals).filterMap
        fun t => t.decl.routeId) automaticIds [] []
        (pairs (Terminal.ofKind .source terminals) (Terminal.ofKind .sink terminals))) := by
  unfold assemble
  simp only [h, ok_bind]
  congr 1
  funext u
  generalize hx : assign _ _ _ _ _ = x
  cases x with
  | error e => rfl
  | ok routes =>
    rw [ok_bind, checkCount, if_pos (length_of_assign hx)]
    rfl

/-- The terminals of endpoints that face the network are there. -/
theorem exists_ofEndpoints (hnetwork : ∀ e ∈ endpoints, a.IsNetwork e.networkSocket) :
    ∃ terminals, Terminal.ofEndpoints a endpoints = .ok terminals := by
  cases hx : Terminal.ofEndpoints a endpoints with
  | ok terminals => exact ⟨terminals, rfl⟩
  | error e =>
    have hnever : FailsWith (fun _ => False) (Terminal.ofEndpoints a endpoints) := by
      refine .mapM fun p hp => ?_
      obtain ⟨decl, hdecl⟩ := exists_declares (hnetwork p.1 (List.fst_mem_of_mem_zipIdx hp))
      simp only [Terminal.routeDecl_eq_ok.mpr hdecl, ok_bind]
      exact .ok _
    exact (hnever e hx).elim

/-- The ends of the route of a pair declare what its terminals say. -/
theorem ends?_ofPair {source sink : Terminal} (hs : source.StandsFor a endpoints .source)
    (ht : sink.StandsFor a endpoints .sink) (id : UInt16) :
    ends? a endpoints (ofPair source sink id) = some (source.decl, sink.decl) := by
  obtain ⟨e, he, -, -, hdecl⟩ := hs
  obtain ⟨e', he', -, -, hdecl'⟩ := ht
  simp only [ends?, ofPair, he, he', Endpoint.declares_iff.mp hdecl,
    Endpoint.declares_iff.mp hdecl']

/-- The routes that were assembled join the declared pairs, and the automatic ids are the first
    free ones. -/
theorem ids_of_assemble {routes : List Route}
    (hterminals : Terminal.ofEndpoints a endpoints = .ok terminals)
    (h : assemble a endpoints = .ok routes) :
    routes.map (ends? a endpoints) = (declaredPairs a endpoints).map some ∧
      (routes.filter (isAutomatic a endpoints)).map Route.routeId =
        (freeFrom 0x8000 (declaredIds a endpoints)).take (automaticCount a endpoints) := by
  -- a route refers to its ends by place, where the declarations of the pair are found again
  have hends : ∀ p ∈ pairs (Terminal.ofKind .source terminals) (Terminal.ofKind .sink terminals),
      ∀ id, ends? a endpoints (ofPair p.1 p.2 id) = some (p.1.decl, p.2.decl) := by
    intro p hp id
    obtain ⟨hs, ht, -⟩ := mem_pairs.mp hp
    exact ends?_ofPair ((Terminal.mem_ofKind hterminals).mp hs)
      ((Terminal.mem_ofKind hterminals).mp ht) id
  rw [assemble_eq hterminals] at h
  obtain ⟨u, -, hassign⟩ := bind_eq_ok.mp h
  constructor
  · obtain ⟨more, hroutes, hgets, -⟩ :=
      assign_spec (Nat.le_refl _) (fun _ hpair _ hid => declaredId_mem hpair hid) hassign
    obtain rfl : routes = more := hroutes
    rw [← declaredPairs_eq hterminals, List.map_map, map_eq_map_iff_forall₂]
    have hjoin := (List.forall₂_and_left _ _).mpr ⟨hends, hgets⟩
    exact hjoin.flip.imp fun r p ⟨hp, hr⟩ => hr.1 ▸ hp _
  · have hauto : ∀ p ∈ pairs (Terminal.ofKind .source terminals) (Terminal.ofKind .sink terminals),
        ∀ id, isAutomatic a endpoints (ofPair p.1 p.2 id) = (declaredId p.1 p.2).isNone := by
      intro p hp id
      rw [isAutomatic, hends p hp id]
      rfl
    obtain ⟨more, hroutes, hids⟩ := automatic_of_assign (Nat.le_refl _) hauto hassign
    obtain rfl : routes = more := hroutes
    rw [hids, unasked_eq hterminals, freeFrom_reserved hterminals]
    rfl

/-- What stops the assembly is a reference. -/
theorem assemble_error (hnetwork : ∀ e ∈ endpoints, a.IsNetwork e.networkSocket) :
    FailsByReference (assemble a endpoints) := by
  obtain ⟨terminals, hterminals⟩ := exists_ofEndpoints hnetwork
  rw [assemble_eq hterminals]
  exact .bind (checkTerminals_error _ _) fun _ _ => assign_error _ _ _ _

/-- **Acceptance**: endpoints that face the network are joined to routes exactly if they are
    consistent.  Then the automatic ids, in the order of the routes, are the first free ones; and
    otherwise the error is about a reference. -/
theorem assemble_exact (hnetwork : ∀ e ∈ endpoints, a.IsNetwork e.networkSocket) :
    ((∃ routes, assemble a endpoints = .ok routes) ↔ Consistent a endpoints) ∧
      (∀ routes, assemble a endpoints = .ok routes →
        routes.map (ends? a endpoints) = (declaredPairs a endpoints).map some ∧
          (routes.filter (isAutomatic a endpoints)).map Route.routeId =
            (freeFrom 0x8000 (declaredIds a endpoints)).take (automaticCount a endpoints)) ∧
      (¬ Consistent a endpoints → ∃ fault, assemble a endpoints = .error (.reference fault)) := by
  obtain ⟨terminals, hterminals⟩ := exists_ofEndpoints hnetwork
  have hiff : (∃ routes, assemble a endpoints = .ok routes) ↔ Consistent a endpoints := by
    rw [← checks_iff_consistent hterminals, ← assign_eq_ok_iff [] (Nat.le_refl _)
      (fun _ hpair _ hid => declaredId_mem hpair hid) passed_nil, assemble_eq hterminals]
    simp only [bind_eq_ok]
    constructor
    · rintro ⟨routes, u, hcheck, hassign⟩
      exact ⟨hcheck, routes, hassign⟩
    · rintro ⟨hcheck, routes, hassign⟩
      exact ⟨routes, (), hcheck, hassign⟩
  refine ⟨hiff, fun routes h => ids_of_assemble hterminals h, fun hnot => ?_⟩
  cases hx : assemble a endpoints with
  | ok routes => exact absurd (hiff.mp ⟨routes, hx⟩) hnot
  | error e =>
    obtain ⟨fault, rfl⟩ := assemble_error hnetwork e hx
    exact ⟨fault, rfl⟩

end Assembly

/-! ## A table with a declared id among the automatic ones -/

/-- Three network sockets, for a source and two sinks; the first sink asks for the id 0x8000. -/
def sharedArena : Arena :=
  ⟨#[.socket ⟨⟨0⟩, .output, .isochronous, .network 4 ⟨"a", true, none⟩⟩,
    .socket ⟨⟨0⟩, .input, .isochronous, .network 4 ⟨"a", true, some 0x8000⟩⟩,
    .socket ⟨⟨0⟩, .input, .isochronous, .network 4 ⟨"a", true, none⟩⟩]⟩

/-- A source and two sinks of one route. -/
def sharedEndpoints : List Endpoint :=
  [⟨.source, 512, ⟨[]⟩, ⟨3⟩, ⟨0⟩, none⟩, ⟨.sink, 513, ⟨[]⟩, ⟨4⟩, ⟨1⟩, none⟩,
    ⟨.sink, 514, ⟨[]⟩, ⟨5⟩, ⟨2⟩, none⟩]

theorem assemble_sharedEndpoints :
    assemble sharedArena sharedEndpoints =
        .ok [⟨"a", ⟨0⟩, ⟨1⟩, 0x8000, true⟩, ⟨"a", ⟨0⟩, ⟨2⟩, 0x8001, true⟩] ∧
      Consistent sharedArena sharedEndpoints ∧
      [0x8001] = (freeFrom 0x8000 (declaredIds sharedArena sharedEndpoints)).take
        (automaticCount sharedArena sharedEndpoints) := by
  have hnetwork : ∀ e ∈ sharedEndpoints, sharedArena.IsNetwork e.networkSocket := by
    simp only [sharedEndpoints, List.forall_mem_cons]
    exact ⟨⟨_, rfl, rfl⟩, ⟨_, rfl, rfl⟩, ⟨_, rfl, rfl⟩, fun _ h => (nomatch h)⟩
  have hroutes : assemble sharedArena sharedEndpoints =
      .ok [⟨"a", ⟨0⟩, ⟨1⟩, 0x8000, true⟩, ⟨"a", ⟨0⟩, ⟨2⟩, 0x8001, true⟩] := by
    decide
  obtain ⟨hiff, hids, -⟩ := assemble_exact hnetwork
  exact ⟨hroutes, hiff.mp ⟨_, hroutes⟩, (hids _ hroutes).2⟩

end Route

end MediaNetwork
