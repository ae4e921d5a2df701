/-
  Printed drivers read back.

  The records of a configuration are, link by link, the inferred record or one record for each
  binding of the driver that names the link: a list of `Service`s, one for each link.

  1. Deriving — what `derive` gives are the records of services, whose links differ
     (`derive_spec`); inferring does not depend on lines (`infer_of_key`).
  2. Printing — a service that has bindings is printed as a driver with these bindings, the others
     are not printed (`drivers_printed`).
  3. Reading — the drivers that are printed are given to their links, and expand to the records
     again (`derive_printed`).
-/
import Mathlib.Data.List.Nodup
import MediaNetwork.Proofs.Collection
import MediaNetwork.Proofs.Driver.Interfaces
import MediaNetwork.Proofs.Print.Nodes

namespace MediaNetwork

open MediaNetwork.Markup MediaNetwork.Markup.Element MediaNetwork.Outcome MediaNetwork.Configuration

/-! ## Services -/

/-- The inferred record of a link and the bindings of its driver, none if no driver names it. -/
structure Service where
  record : DriverRecord
  bindings : List DriverBinding

namespace Service

/-- The link that is served. -/
def link (s : Service) : String := s.record.link

/-- The records of the link. -/
def records (s : Service) : List DriverRecord :=
  match s.bindings with
  | [] => [s.record]
  | bindings => bindings.map s.record.bound

/-- The element of the driver. -/
def printed (s : Service) : Printed :=
  .block Schema.driver [(Schema.link, s.link)] (s.bindings.map printBinding)

/-- Whether a driver names the link. -/
def isBound (s : Service) : Bool := !s.bindings.isEmpty

theorem link_of_mem {s : Service} : ∀ r ∈ s.records, r.link = s.link := by
  intro r hr
  unfold records at hr
  split at hr
  · rw [List.mem_singleton.mp hr]
    rfl
  · obtain ⟨b, -, rfl⟩ := List.mem_map.mp hr
    rfl

end Service

namespace DriverRecord

/-! ## Inferring -/

section Infer

variable {arena : Arena}

/-- What is inferred, with all that is looked up for it. -/
theorem infer_eq_ok {c : LinkCandidate} {r : DriverRecord} : infer arena c = .ok r ↔
    ∃ k output input bandwidth host interface channelName packets,
      arena.get c.connection = .ok (.connection k) ∧
      arena.get k.socketOut = .ok output ∧ arena.get k.socketIn = .ok input ∧
      (networkBandwidth? output <|> networkBandwidth? input) = some bandwidth ∧
      hostSocket arena (if output.isNetworkSocket then k.socketIn else k.socketOut) = .ok host ∧
      channel? host.kind = some (interface, channelName, packets) ∧
      r = ⟨c.link, c.node, interface, channelName, hostDirection host.direction,
        k.kind.dataType, subBuffer bandwidth k.kind, packets, none⟩ := by
  constructor
  · intro h
    obtain ⟨x, hx, h⟩ := bind_eq_ok.mp h
    split at h
    · rename_i k
      obtain ⟨output, hout, h⟩ := bind_eq_ok.mp h
      obtain ⟨input, hin, h⟩ := bind_eq_ok.mp h
      split at h
      · nomatch h
      · rename_i bandwidth hbandwidth
        obtain ⟨host, hhost, h⟩ := bind_eq_ok.mp h
        split at h
        · nomatch h
        · rename_i interface channelName packets hchannel
          cases h
          exact ⟨k, output, input, bandwidth, host, interface, channelName, packets, hx, hout,
            hin, hbandwidth, hhost, hchannel, rfl⟩
    · nomatch h
  · rintro ⟨k, output, input, bandwidth, host, interface, channelName, packets, hx, hout, hin,
      hbandwidth, hhost, hchannel, rfl⟩
    unfold infer
    rw [hx, ok_bind]
    simp only [hout, hin, ok_bind, hbandwidth, hhost, hchannel]
    rfl

/-- An inferred record is that of its link and has no binding yet. -/
theorem infer_spec {c : LinkCandidate} {r : DriverRecord} (h : infer arena c = .ok r) :
    r.link = c.link ∧ r.binding = none := by
  obtain ⟨_, _, _, _, _, _, _, _, -, -, -, -, -, -, rfl⟩ := infer_eq_ok.mp h
  exact ⟨rfl, rfl⟩

/-- A record does not depend on the line of the connection element. -/
theorem infer_of_key {c c' : LinkCandidate} {r : DriverRecord} (hkey : c'.key = c.key)
    (h : infer arena c = .ok r) : infer arena c' = .ok r := by
  obtain ⟨link, node, connection, line⟩ := c
  obtain ⟨link', node', connection', line'⟩ := c'
  cases hkey
  rw [infer_eq_ok] at h ⊢
  exact h

/-- The first candidates of the links are the same but for their lines. -/
theorem candidates_of_key {links links' : List LinkCandidate}
    (hkeys : links'.map LinkCandidate.key = links.map LinkCandidate.key) (seen : List String) :
    (candidates seen links').map LinkCandidate.key =
      (candidates seen links).map LinkCandidate.key := by
  induction links generalizing links' seen with
  | nil =>
    rw [List.map_eq_nil_iff.mp hkeys]
  | cons c links ih =>
    obtain ⟨c', rest, rfl, hkey, hrest⟩ := List.map_eq_cons_iff.mp hkeys
    have hlink : c'.link = c.link := congrArg Prod.fst hkey
    unfold candidates
    rw [hlink]
    split
    · exact ih hrest seen
    · rw [List.map_cons, List.map_cons, hkey, ih hrest]

/-- Inference does not look at lines. -/
theorem mapM_infer_of_key {cs cs' : List LinkCandidate} {rs : List DriverRecord}
    (hkeys : cs'.map LinkCandidate.key = cs.map LinkCandidate.key)
    (h : cs.mapM (infer arena) = .ok rs) : cs'.mapM (infer arena) = .ok rs := by
  rw [mapM_eq_ok] at h ⊢
  induction h generalizing cs' with
  | nil =>
    rw [List.map_eq_nil_iff.mp hkeys]
    exact List.Forall₂.nil
  | cons hr _ ih =>
    obtain ⟨c', rest, rfl, hkey, hrest⟩ := List.map_eq_cons_iff.mp hkeys
    exact List.Forall₂.cons (infer_of_key hkey hr) (ih hrest)

theorem candidates_eq_firsts (seen : List String) (cs : List LinkCandidate) :
    candidates seen cs = Keyed.firsts LinkCandidate.link seen cs := by
  induction cs generalizing seen with
  | nil => rfl
  | cons c cs ih =>
    unfold candidates Keyed.firsts
    rw [ih, ih]

end Infer

/-! ## Deriving -/

/-- The records of one link are those of a service. -/
theorem expand_spec {r : DriverRecord} {driver : Option Element} {rs : List DriverRecord}
    (h : expand r driver = .ok rs) : ∃ bs, rs = Service.records ⟨r, bs⟩ := by
  cases driver with
  | none =>
    cases h
    exact ⟨[], rfl⟩
  | some driver =>
    obtain ⟨hchildren, bs, hbs, rfl⟩ := expand_eq_ok.mp h
    cases bs with
    | nil => exact absurd (List.forall₂_nil_right_iff.mp hbs) hchildren
    | cons b bs => exact ⟨b :: bs, rfl⟩

theorem exists_services {driver? : DriverRecord → Option Element} {inferred : List DriverRecord}
    {expanded : List (List DriverRecord)}
    (h : List.Forall₂ (fun r rs => expand r (driver? r) = .ok rs) inferred expanded) :
    ∃ services : List Service, inferred = services.map Service.record ∧
      expanded = services.map Service.records := by
  induction h with
  | nil => exact ⟨[], rfl, rfl⟩
  | cons hrs _ ih =>
    obtain ⟨bs, rfl⟩ := expand_spec hrs
    obtain ⟨services, rfl, rfl⟩ := ih
    exact ⟨⟨_, bs⟩ :: services, rfl, rfl⟩

/-- **What is derived**: the records of services, one for each link. -/
theorem derive_spec {arena : Arena} {links : List LinkCandidate} {drivers : List Element}
    {records : List DriverRecord} (h : derive arena links drivers = .ok records) :
    ∃ services : List Service,
      (candidates [] links).mapM (infer arena) = .ok (services.map Service.record) ∧
        records = services.flatMap Service.records ∧ (services.map Service.link).Nodup ∧
        ∀ s ∈ services, s.record.binding = none := by
  obtain ⟨inferred, hinferred, h⟩ := bind_eq_ok.mp h
  obtain ⟨given, -, h⟩ := bind_eq_ok.mp h
  obtain ⟨expanded, hexpanded, h⟩ := bind_eq_ok.mp h
  cases h
  -- one record is inferred for each first candidate, and these have distinct links
  have hnodup : (inferred.map DriverRecord.link).Nodup := by
    have hsame : inferred.map DriverRecord.link =
        (candidates [] links).map LinkCandidate.link := by
      rw [map_eq_map_iff_forall₂]
      exact (mapM_eq_ok.mp hinferred).flip.imp fun r c hr => (infer_spec hr).1
    rw [hsame, candidates_eq_firsts]
    exact (Keyed.firsts_spec _ _ _).1
  have hunbound : ∀ r ∈ inferred, r.binding = none := by
    intro r hr
    obtain ⟨c, -, hc⟩ := exists_of_forall₂ (mapM_eq_ok.mp hinferred) hr
    exact (infer_spec hc).2
  obtain ⟨services, rfl, rfl⟩ := exists_services (mapM_eq_ok.mp hexpanded)
  refine ⟨services, hinferred, rfl, ?_, fun s hs => hunbound _ (List.mem_map_of_mem hs)⟩
  rw [List.map_map] at hnodup
  exact hnodup

end DriverRecord

/-! ## Printing -/

namespace Service

variable {services : List Service}

/-- Further records of a link that was printed before print nothing. -/
theorem boundLinks_of_seen {seen : List String} {rs : List DriverRecord}
    (h : ∀ r ∈ rs, r.link ∈ seen) (more : List DriverRecord) :
    boundLinks seen (rs ++ more) = boundLinks seen more := by
  induction rs with
  | nil => rfl
  | cons r rs ih =>
    have hseen : seen.contains r.link = true := by
      simpa using h r List.mem_cons_self
    rw [List.cons_append, boundLinks, hseen, Bool.not_true, Bool.and_false,
      if_neg Bool.false_ne_true]
    exact ih fun x hx => h x (List.mem_cons_of_mem _ hx)

/-- The links that are printed are those of the services that have bindings. -/
theorem boundLinks_records (seen : List String) (hdistinct : (services.map link).Nodup)
    (hnew : ∀ s ∈ services, s.link ∉ seen) (hunbound : ∀ s ∈ services, s.record.binding = none) :
    boundLinks seen (services.flatMap records) = (services.filter isBound).map link := by
  induction services generalizing seen with
  | nil => rfl
  | cons s services ih =>
    rw [List.map_cons, List.nodup_cons] at hdistinct
    have hlater := fun t ht => hnew t (List.mem_cons_of_mem _ ht)
    have hlater' := fun t ht => hunbound t (List.mem_cons_of_mem _ ht)
    obtain ⟨r, bindings⟩ := s
    rw [List.flatMap_cons]
    cases bindings with
    | nil =>
      -- An inferred record has no binding, so its link is passed over.
      have hnone : r.binding.isSome = false := by
        rw [hunbound _ List.mem_cons_self]
        rfl
      show boundLinks seen (r :: services.flatMap records) = _
      rw [boundLinks, hnone, Bool.false_and, if_neg Bool.false_ne_true,
        ih seen hdistinct.2 hlater hlater']
      rfl
    | cons b bs =>
      -- The first record of the link prints it, and the others find it printed.
      have hlink : r.link ∉ seen := hnew _ List.mem_cons_self
      have hfresh : (!seen.contains r.link) = true := by
        simpa using hlink
      show boundLinks seen (r.bound b :: (bs.map r.bound ++ services.flatMap records)) = _
      have hrest : ∀ x ∈ bs.map r.bound, x.link ∈ r.link :: seen := by
        intro x hx
        obtain ⟨b', -, rfl⟩ := List.mem_map.mp hx
        exact List.mem_cons_self
      have hnew' : ∀ t ∈ services, t.link ∉ r.link :: seen := by
        intro t ht hmem
        rcases List.mem_cons.mp hmem with heq | hmem
        · exact hdistinct.1 (List.mem_map.mpr ⟨t, ht, heq⟩)
        · exact hlater t ht hmem
      have hbound : ((r.bound b).binding.isSome && !seen.contains (r.bound b).link) = true := hfresh
      rw [boundLinks, if_pos hbound]
      show r.link :: boundLinks (r.link :: seen) (bs.map r.bound ++ services.flatMap records) = _
      rw [boundLinks_of_seen hrest, ih (r.link :: seen) hdistinct.2 hnew' hlater']
      rfl

/-- The driver of a link is printed from its service. -/
theorem printDriver_records (hdistinct : (services.map link).Nodup) {s : Service}
    (hs : s ∈ services) (hbound : s.isBound = true) :
    printDriver (services.flatMap records) s.link = s.printed := by
  have hrecords : ((services.flatMap records).filter fun r => r.link == s.link) = s.records :=
    Keyed.filter_of_key hdistinct (fun t _ => t.link_of_mem) hs
  obtain ⟨r, bindings⟩ := s
  cases bindings with
  | nil => nomatch hbound
  | cons b bs =>
    have hbindings : ((b :: bs).map r.bound).filterMap DriverRecord.binding = b :: bs := by
      rw [List.filterMap_map]
      exact List.filterMap_some
    rw [printDriver, hrecords]
    show Printed.block _ _ ((((b :: bs).map r.bound).filterMap DriverRecord.binding).map _) = _
    rw [hbindings]
    rfl

/-- **Printing**: what is printed of the records are the services that have bindings. -/
theorem drivers_printed (hdistinct : (services.map link).Nodup)
    (hunbound : ∀ s ∈ services, s.record.binding = none) :
    (boundLinks [] (services.flatMap records)).map (printDriver (services.flatMap records)) =
      (services.filter isBound).map printed := by
  have hnew : ∀ s ∈ services, s.link ∉ ([] : List String) := fun _ _ h => nomatch h
  rw [boundLinks_records [] hdistinct hnew hunbound, List.map_map]
  apply List.map_congr_left
  intro s hs
  obtain ⟨hmem, hbound⟩ := List.mem_filter.mp hs
  exact printDriver_records hdistinct hmem hbound

end Service

/-! ## Reading -/

namespace DriverRecord

/-- A printed binding carries the binding. -/
theorem carries_printBinding {b : DriverBinding} {e : Element} (h : (printBinding b).Shows e) :
    Carries e b := by
  obtain ⟨kind, name, count, size⟩ := b
  obtain ⟨hname, hattributes, -⟩ := h
  have hdevice : e.attribute? Schema.name = name := by
    refine attribute?_of hattributes ?_
    cases name <;> cases kind <;> rfl
  have hcount : e.word Schema.bufferCount = .ok count := by
    refine word_decimal (attribute?_of hattributes ?_)
    cases name <;> rfl
  have hsize : e.word Schema.bufferSize = .ok size := by
    refine word_decimal (attribute?_of hattributes ?_)
    cases name <;> rfl
  refine ⟨hname.symm, hdevice.symm, hcount, hsize, fun channels resolution halsa => ?_⟩
  cases halsa
  constructor
  · refine byte_decimal (attribute?_of hattributes ?_)
    cases name <;> rfl
  · refine keyword_name readsBack_resolution (attribute?_of hattributes ?_)
    cases name <;> rfl

/-- A printed driver expands to the records of its service. -/
theorem expand_printed {s : Service} (hbound : s.isBound = true) {e : Element}
    (h : s.printed.Shows e) : expand s.record (some e) = .ok s.records := by
  obtain ⟨r, bindings⟩ := s
  obtain ⟨-, -, hchildren⟩ := h
  rw [Printed.allShow_iff, List.forall₂_map_left_iff] at hchildren
  cases bindings with
  | nil => nomatch hbound
  | cons b bs =>
    refine expand_eq_ok.mpr ⟨fun hnil => ?_, b :: bs, ?_, rfl⟩
    · rw [hnil] at hchildren
      nomatch hchildren
    · exact hchildren.flip.imp fun child b hb => carries_printBinding hb

/-- Printed drivers are given to their links, one after the other. -/
theorem foldlM_assign_printed {links : List String} {services : List Service}
    (hlinks : ∀ s ∈ services, s.link ∈ links) (hdistinct : (services.map Service.link).Nodup)
    {es : List Element} (hes : List.Forall₂ Printed.Shows (services.map Service.printed) es) :
    ∃ given, es.foldlM (assign links) [] = .ok given ∧
      List.Forall₂ (fun s g => g.1 = s.link ∧ s.printed.Shows g.2) services given := by
  have hshows := (List.forall₂_and_left services es).mpr
    ⟨hlinks, List.forall₂_map_left_iff.mp hes⟩
  -- each element names the link of its own service, so the links are distinct as those of services
  obtain ⟨given, hread, hgiven⟩ : ∃ given : List (String × Element),
      List.Forall₂ (fun e g => e.text Schema.link = .ok g.1 ∧ g.1 ∈ links ∧ g.2 = e) es given ∧
      List.Forall₂ (fun s g => g.1 = s.link ∧ s.printed.Shows g.2) services given := by
    clear hes hlinks hdistinct
    induction hshows with
    | nil => exact ⟨[], List.Forall₂.nil, List.Forall₂.nil⟩
    | @cons s e _ _ he _ ih =>
      obtain ⟨given, hread, hgiven⟩ := ih
      have hlink : e.text Schema.link = .ok s.link :=
        text_eq_ok.mpr (attribute?_of he.2.2.1 rfl)
      exact ⟨(s.link, e) :: given, List.Forall₂.cons ⟨hlink, he.1, rfl⟩ hread,
        List.Forall₂.cons ⟨rfl, he.2⟩ hgiven⟩
  have hkeys : given.map Prod.fst = services.map Service.link := by
    rw [map_eq_map_iff_forall₂]
    exact hgiven.flip.imp fun _ _ h => h.1
  refine ⟨given, ?_, hgiven⟩
  refine (Keyed.collect_nil_eq_ok (assign_eq_ok links)).mpr ⟨hread, ?_⟩
  rw [hkeys]
  exact hdistinct

/-- The drivers that were given to links expand to the records of every service, with a driver or
    without. -/
theorem expand_given {services : List Service} {given : List (String × Element)}
    (hdistinct : (services.map Service.link).Nodup)
    (hshows : List.Forall₂ (fun s g => g.1 = Service.link s ∧ s.printed.Shows g.2)
      (services.filter Service.isBound) given) {s : Service} (hs : s ∈ services) :
    expand s.record (given.lookup s.link) = .ok s.records := by
  cases hb : s.isBound with
  | true =>
    have hbound : ((services.filter Service.isBound).map Service.link).Nodup :=
      hdistinct.sublist (List.filter_sublist.map _)
    obtain ⟨e, he, hprinted⟩ := Keyed.lookup_of_key hshows hbound (List.mem_filter.mpr ⟨hs, hb⟩)
    rw [he]
    exact expand_printed hb hprinted
  | false =>
    -- No other service has the link, so no driver was given to it.
    have hnone : s.link ∉ (services.filter Service.isBound).map Service.link := by
      intro hmem
      obtain ⟨t, ht, hlink⟩ := List.mem_map.mp hmem
      obtain ⟨ht, htb⟩ := List.mem_filter.mp ht
      rw [List.inj_on_of_nodup_map hdistinct ht hs hlink, hb] at htb
      nomatch htb
    rw [Keyed.lookup_eq_none hshows hnone]
    obtain ⟨r, bindings⟩ := s
    cases bindings with
    | nil => rfl
    | cons b bs => nomatch hb

/-- **Reading**: where the links are the same but for their lines, the printed drivers give the
    same records. -/
theorem derive_printed {arena : Arena} {links links' : List LinkCandidate}
    {drivers es : List Element} {records : List DriverRecord}
    (h : derive arena links drivers = .ok records)
    (hlinks : links'.map LinkCandidate.key = links.map LinkCandidate.key)
    (hes : List.Forall₂ Printed.Shows ((boundLinks [] records).map (printDriver records)) es) :
    derive arena links' es = .ok records := by
  obtain ⟨services, hinferred, rfl, hdistinct, hunbound⟩ := derive_spec h
  rw [Service.drivers_printed hdistinct hunbound] at hes
  have hbound : ((services.filter Service.isBound).map Service.link).Nodup :=
    hdistinct.sublist (List.filter_sublist.map _)
  have hknown : ∀ s ∈ services.filter Service.isBound,
      s.link ∈ (services.map Service.record).map fun r => r.link := by
    intro s hs
    rw [List.map_map]
    exact List.mem_map_of_mem (List.mem_filter.mp hs).1
  obtain ⟨given, hgiven, hshows⟩ := foldlM_assign_printed hknown hbound hes
  have hexpanded : (services.map Service.record).mapM (fun r => expand r (given.lookup r.link)) =
      .ok (services.map Service.records) := by
    refine mapM_eq_ok.mpr (List.forall₂_map_left_iff.mpr (List.forall₂_map_right_iff.mpr ?_))
    exact List.forall₂_same.mpr fun s hs => expand_given hdistinct hshows hs
  have hagain := mapM_infer_of_key (candidates_of_key hlinks []) hinferred
  rw [derive, hagain, ok_bind, hgiven, ok_bind]
  simp only [hexpanded, ok_bind]
  rfl

end DriverRecord

end MediaNetwork
