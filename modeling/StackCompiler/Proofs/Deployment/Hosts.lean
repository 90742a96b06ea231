import Mathlib.Algebra.BigOperators.Group.List.Lemmas
import Mathlib.Algebra.Order.BigOperators.Group.List
import Mathlib.Algebra.Order.Ring.Nat
import Mathlib.Data.Finset.Card
import StackCompiler.Proofs.Deployment.Obligation
import StackCompiler.Proofs.Routing

/-!
# Two checks of hosts

Hosts are checked twice: when a declaration is validated, service by service and host by host, and
when routes are requested, in one pass over the hosts. `Deployment.hosts_agree` says that the two
checks find the same faults, kind by kind. For shared hosts the one pass reports every service on a
host but the first, and validation one violation that names them all.
-/

namespace StackCompiler

/-! ## Kinds of problems -/

namespace RouteProblem

/-- What the message of a problem begins with. -/
def title : RouteProblem → String
  | duplicate _ => "Duplicate host"
  | malformed _ => "Invalid host slug"
  | reserved _ => "Reserved host"

theorem exists_message (p : RouteProblem) :
    ∃ rest, p.message.toList = p.title.toList ++ ':' :: rest := by
  cases p with
  | duplicate host =>
    refine ⟨' ' :: '"' :: (host ++ "\" is defined multiple times").toList, ?_⟩
    change ("Duplicate host: \"" ++ host ++ "\" is defined multiple times").toList = _
    rw [String.append_assoc, String.toList_append, title]
    rfl
  | malformed host =>
    refine ⟨' ' :: '"' :: (host ++ "\" must be lowercase alphanumeric with hyphens").toList, ?_⟩
    change ("Invalid host slug: \"" ++ host ++
      "\" must be lowercase alphanumeric with hyphens").toList = _
    rw [String.append_assoc, String.toList_append, title]
    rfl
  | reserved host =>
    refine ⟨' ' :: '"' :: (host ++ "\" is reserved for core infrastructure").toList, ?_⟩
    change ("Reserved host: \"" ++ host ++ "\" is reserved for core infrastructure").toList = _
    rw [String.append_assoc, String.toList_append, title]
    rfl

/-- Whether the message of a problem begins with a text. -/
def beginsWith (start : String) (p : RouteProblem) : Bool :=
  start.toList.isPrefixOf p.message.toList

/-- No title is the beginning of another one. -/
theorem beginsWith_title (p q : RouteProblem) : p.beginsWith q.title = (p.title == q.title) := by
  obtain ⟨rest, hrest⟩ := p.exists_message
  rw [beginsWith, hrest]
  cases p <;> cases q <;> simp only [title] <;> rfl

end RouteProblem

/-! ## One pass over the hosts -/

/-- How many problems have a message that begins with a text. -/
def countProblems (start : String) (problems : List RouteProblem) : Nat :=
  problems.countP (·.beginsWith start)

section Pass

variable {hosts seen : List String} {host : String}

theorem countProblems_append {start : String} {ps qs : List RouteProblem} :
    countProblems start (ps ++ qs) = countProblems start ps + countProblems start qs :=
  List.countP_append

/-- Of each kind a host has one problem or none. -/
theorem countProblems_hostProblems (p : RouteProblem) :
    countProblems p.title (hostProblems seen host) = match p with
      | .duplicate _ => if host ∈ seen then 1 else 0
      | .malformed _ => if Text.isSlug host then 0 else 1
      | .reserved _ => if host ∈ reservedHosts then 1 else 0 := by
  simp only [countProblems, hostProblems, List.countP_append, RouteProblem.beginsWith_title]
  by_cases hseen : host ∈ seen <;> by_cases hslug : Text.isSlug host <;>
    by_cases hreserved : host ∈ reservedHosts <;> cases p <;>
    simp [hseen, hslug, hreserved, RouteProblem.title]

/-- Problems of a kind that a host has or has not whatever came before it. -/
theorem countProblems_hostListProblems {start : String} {q : String → Bool}
    (h : ∀ seen host, countProblems start (hostProblems seen host) = if q host then 1 else 0) :
    ∀ {hosts seen : List String},
      countProblems start (hostListProblems seen hosts) = hosts.countP q
  | [], _ => rfl
  | host :: hosts, seen => by
    rw [hostListProblems, countProblems_append, h, countProblems_hostListProblems h,
      List.countP_cons, Nat.add_comm]

theorem countProblems_malformed :
    countProblems "Invalid host slug" (hostListProblems seen hosts) =
      hosts.countP fun host => !Text.isSlug host := by
  refine countProblems_hostListProblems fun seen host => ?_
  have hhost : countProblems "Invalid host slug" (hostProblems seen host) =
      if Text.isSlug host then 0 else 1 := countProblems_hostProblems (.malformed host)
  rw [hhost]
  cases Text.isSlug host <;> rfl

theorem countProblems_reserved :
    countProblems "Reserved host" (hostListProblems seen hosts) =
      hosts.countP reservedHosts.contains := by
  refine countProblems_hostListProblems fun seen host => ?_
  have hhost : countProblems "Reserved host" (hostProblems seen host) =
      if host ∈ reservedHosts then 1 else 0 := countProblems_hostProblems (.reserved host)
  rw [hhost]
  simp only [List.contains_iff_mem]

/-- Each host of the pass is new or is reported as a duplicate. -/
theorem countProblems_duplicate_add_card : ∀ {hosts seen : List String},
    countProblems "Duplicate host" (hostListProblems seen hosts) +
      (hosts.toFinset \ seen.toFinset).card = hosts.length
  | [], _ => by simp [hostListProblems, countProblems]
  | host :: hosts, seen => by
    have hhost : countProblems "Duplicate host" (hostProblems seen host) =
        if host ∈ seen then 1 else 0 := countProblems_hostProblems (.duplicate host)
    have ih : countProblems "Duplicate host" (hostListProblems (host :: seen) hosts) +
        (hosts.toFinset \ insert host seen.toFinset).card = hosts.length := by
      rw [← List.toFinset_cons]
      exact countProblems_duplicate_add_card
    rw [hostListProblems, countProblems_append, hhost, List.toFinset_cons, List.length_cons]
    by_cases hseen : host ∈ seen
    · rw [Finset.insert_eq_of_mem (by simpa using hseen)] at ih
      rw [if_pos hseen, Finset.insert_sdiff_of_mem _ (by simpa using hseen)]
      omega
    · have hinsert : insert host hosts.toFinset \ seen.toFinset =
          insert host (hosts.toFinset \ insert host seen.toFinset) := by
        ext x
        by_cases hx : x = host <;> simp [hx, hseen]
      rw [if_neg hseen, hinsert, Finset.card_insert_of_notMem (by simp)]
      omega

/-- Every host is reported once less than it occurs. -/
theorem countProblems_duplicate :
    countProblems "Duplicate host" (hostListProblems [] hosts) =
      (hosts.dedup.map fun host => hosts.count host - 1).sum := by
  have hpass : countProblems "Duplicate host" (hostListProblems [] hosts) + hosts.dedup.length =
      hosts.length := by
    rw [← List.card_toFinset, ← Finset.sdiff_empty (s := hosts.toFinset), ← List.toFinset_nil]
    exact countProblems_duplicate_add_card
  have hoccurs : (hosts.dedup.map fun host => hosts.count host - 1 + 1).sum = hosts.length := by
    rw [← List.sum_map_count_dedup_eq_length hosts]
    refine congrArg List.sum (List.map_congr_left fun host hhost => ?_)
    exact Nat.sub_add_cancel (List.count_pos_iff.2 (List.mem_dedup.1 hhost))
  rw [List.sum_map_add, List.map_const', List.sum_replicate_nat, Nat.mul_one] at hoccurs
  omega

end Pass

theorem routeProblems_eq_nil_iff_count {problems : List RouteProblem} :
    problems = [] ↔ countProblems "Invalid host slug" problems = 0 ∧
      countProblems "Reserved host" problems = 0 ∧ countProblems "Duplicate host" problems = 0 := by
  constructor
  · rintro rfl
    exact ⟨rfl, rfl, rfl⟩
  · rintro ⟨hmalformed, hreserved, hduplicate⟩
    refine List.eq_nil_iff_forall_not_mem.2 fun p hp => ?_
    have hown : p.beginsWith p.title := by rw [p.beginsWith_title, beq_self_eq_true]
    cases p with
    | duplicate host => exact List.countP_eq_zero.1 hduplicate _ hp hown
    | malformed host => exact List.countP_eq_zero.1 hmalformed _ hp hown
    | reserved host => exact List.countP_eq_zero.1 hreserved _ hp hown

/-! ## Host by host -/

/-- How many violations have a code. -/
def countViolations (code : String) (vs : List Violation) : Nat := vs.countP (·.code == code)

theorem countViolations_append {code : String} {vs ws : List Violation} :
    countViolations code (vs ++ ws) = countViolations code vs + countViolations code ws :=
  List.countP_append

theorem countViolations_eq_length {code : String} {vs : List Violation}
    (h : ∀ v ∈ vs, v.code = code) : countViolations code vs = vs.length :=
  List.countP_eq_length.2 fun v hv => beq_iff_eq.2 (h v hv)

theorem countViolations_eq_zero {code : String} {vs : List Violation}
    (h : ∀ v ∈ vs, v.code ≠ code) : countViolations code vs = 0 :=
  List.countP_eq_zero.2 fun v hv heq => h v hv (beq_iff_eq.1 heq)

/-- How many services are on a shared host besides the first. -/
def Violation.surplus : Violation → Nat
  | duplicateHost _ ids => ids.length - 1
  | _ => 0

namespace Deployment

/-- What the checks on names, on reserved hosts and on shared hosts find. -/
def hostViolations (d : Deployment) : List Violation :=
  d.invalidNames ++ d.claimedHosts ++ d.sharedHosts

variable {d : Deployment} {v : Violation}

theorem mem_invalidNames (h : v ∈ d.invalidNames) :
    ∃ s ∈ d.services, v = .invalidServiceId s.id ∨ v = .invalidHost s.id s.host := by
  obtain ⟨s, hs, hv⟩ := List.mem_flatMap.1 h
  refine ⟨s, hs, ?_⟩
  rcases List.mem_append.1 hv with hv | hv
  · split at hv
    · exact absurd hv List.not_mem_nil
    · exact .inl (List.mem_singleton.1 hv)
  · split at hv
    · exact absurd hv List.not_mem_nil
    · exact .inr (List.mem_singleton.1 hv)

theorem mem_claimedHosts (h : v ∈ d.claimedHosts) :
    ∃ s ∈ d.services, v = .reservedHost s.id s.host := by
  obtain ⟨s, hs, hv⟩ := List.mem_filterMap.1 h
  split at hv
  · exact ⟨s, hs, (Option.some.inj hv).symm⟩
  · cases hv

theorem mem_sharedHosts (h : v ∈ d.sharedHosts) :
    ∃ host, v = .duplicateHost host (d.owners host) ∧ 1 < (d.owners host).length := by
  obtain ⟨host, -, hv⟩ := List.mem_filterMap.1 h
  split at hv
  · rename_i hshared
    exact ⟨host, (Option.some.inj hv).symm, hshared⟩
  · cases hv

theorem code_of_mem_invalidNames (h : v ∈ d.invalidNames) :
    v.code ∈ ["INVALID_SERVICE_ID", "INVALID_HOST"] ∧ v.surplus = 0 := by
  obtain ⟨s, -, rfl | rfl⟩ := mem_invalidNames h
  · exact ⟨List.mem_cons_self .., rfl⟩
  · exact ⟨List.mem_cons_of_mem _ (List.mem_cons_self ..), rfl⟩

theorem code_of_mem_claimedHosts (h : v ∈ d.claimedHosts) :
    v.code = "RESERVED_HOST" ∧ v.surplus = 0 := by
  obtain ⟨s, -, rfl⟩ := mem_claimedHosts h
  exact ⟨rfl, rfl⟩

theorem code_of_mem_sharedHosts (h : v ∈ d.sharedHosts) :
    v.code = "DUPLICATE_HOST" ∧ v.surplus ≠ 0 := by
  obtain ⟨host, rfl, hshared⟩ := mem_sharedHosts h
  exact ⟨rfl, Nat.sub_ne_zero_of_lt hshared⟩

/-- The violations of each kind are found by one of the checks. -/
theorem countViolations_hostViolations (d : Deployment) :
    countViolations "INVALID_HOST" d.hostViolations =
      countViolations "INVALID_HOST" d.invalidNames ∧
    countViolations "RESERVED_HOST" d.hostViolations = d.claimedHosts.length ∧
    countViolations "DUPLICATE_HOST" d.hostViolations = d.sharedHosts.length := by
  have hnames : ∀ code ∉ ["INVALID_SERVICE_ID", "INVALID_HOST"],
      countViolations code d.invalidNames = 0 := fun code hcode =>
    countViolations_eq_zero fun v hv heq => hcode (heq ▸ (code_of_mem_invalidNames hv).1)
  have hclaimed : ∀ code ≠ "RESERVED_HOST", countViolations code d.claimedHosts = 0 :=
    fun code hcode =>
      countViolations_eq_zero fun v hv heq => hcode (heq ▸ (code_of_mem_claimedHosts hv).1)
  have hshared : ∀ code ≠ "DUPLICATE_HOST", countViolations code d.sharedHosts = 0 :=
    fun code hcode =>
      countViolations_eq_zero fun v hv heq => hcode (heq ▸ (code_of_mem_sharedHosts hv).1)
  simp only [hostViolations, countViolations_append]
  refine ⟨?_, ?_, ?_⟩
  · rw [hclaimed _ (by decide), hshared _ (by decide), Nat.add_zero]
  · rw [hnames _ (by decide), hshared _ (by decide), Nat.zero_add, Nat.add_zero]
    exact countViolations_eq_length fun v hv => (code_of_mem_claimedHosts hv).1
  · rw [hnames _ (by decide), hclaimed _ (by decide), Nat.zero_add]
    exact countViolations_eq_length fun v hv => (code_of_mem_sharedHosts hv).1

theorem countViolations_invalidNames (d : Deployment) :
    countViolations "INVALID_HOST" d.invalidNames =
      (d.services.map (·.host)).countP fun host => !Text.isSlug host := by
  rw [invalidNames]
  induction d.services with
  | nil => rfl
  | cons s services ih =>
    rw [List.flatMap_cons, countViolations_append, ih, List.map_cons, List.countP_cons,
      Nat.add_comm, countViolations_append]
    refine congrArg _ ?_
    by_cases hid : Text.isSlug s.id <;> by_cases hhost : Text.isSlug s.host <;>
      simp [hid, hhost, countViolations, Violation.code]

theorem length_claimedHosts (d : Deployment) :
    d.claimedHosts.length = (d.services.map (·.host)).countP reservedHosts.contains := by
  rw [claimedHosts, List.length_filterMap_eq_countP, List.countP_map]
  refine List.countP_congr fun s _ => ?_
  by_cases h : s.host ∈ reservedHosts <;> simp [h]

theorem length_owners_eq_count (d : Deployment) (host : String) :
    (d.owners host).length = (d.services.map (·.host)).count host := by
  rw [length_owners, List.count_eq_countP, List.countP_map]
  rfl

theorem sum_surplus_sharedHosts (d : Deployment) : (d.sharedHosts.map Violation.surplus).sum =
    ((d.services.map (·.host)).dedup.map fun host =>
      (d.services.map (·.host)).count host - 1).sum := by
  have hperm : (Text.sortIds d.hosts).Perm (d.services.map (·.host)).dedup := by
    refine (Text.sortById_perm id d.hosts).trans ?_
    refine (List.perm_ext_iff_of_nodup (nodup_eraseDups _) (List.nodup_dedup _)).2 fun host => ?_
    rw [List.mem_eraseDups, List.mem_dedup]
  rw [← (hperm.map _).sum_eq, sharedHosts]
  induction Text.sortIds d.hosts with
  | nil => rfl
  | cons host hosts ih =>
    rw [List.map_cons, List.sum_cons, ← ih, List.filterMap_cons, ← length_owners_eq_count]
    by_cases hshared : 1 < (d.owners host).length
    · rw [if_pos hshared]
      rfl
    · have hnone : (d.owners host).length - 1 = 0 := by omega
      rw [if_neg hshared, hnone, Nat.zero_add]

/-- Only services on shared hosts are in surplus. -/
theorem sum_surplus (d : Deployment) :
    (d.hostViolations.map Violation.surplus).sum = (d.sharedHosts.map Violation.surplus).sum := by
  have hzero : ((d.invalidNames ++ d.claimedHosts).map Violation.surplus).sum = 0 := by
    rw [List.sum_eq_zero_iff, List.forall_mem_map]
    intro v hv
    rcases List.mem_append.1 hv with hv | hv
    · exact (code_of_mem_invalidNames hv).2
    · exact (code_of_mem_claimedHosts hv).2
  rw [hostViolations, List.map_append, List.sum_append, hzero, Nat.zero_add]

theorem sharedHosts_eq_nil_iff (d : Deployment) :
    d.sharedHosts = [] ↔ (d.sharedHosts.map Violation.surplus).sum = 0 := by
  rw [List.sum_eq_zero_iff, List.forall_mem_map, List.eq_nil_iff_forall_not_mem]
  exact forall_congr' fun v =>
    ⟨fun h hv => absurd hv h, fun h hv => (code_of_mem_sharedHosts hv).2 (h hv)⟩

/-! ## Agreement -/

/-- The codes of violations that are about a host. -/
def hostCodes : List String := ["INVALID_HOST", "RESERVED_HOST", "DUPLICATE_HOST"]

theorem forall_code_notMem_iff {vs : List Violation} : (∀ v ∈ vs, v.code ∉ hostCodes) ↔
    countViolations "INVALID_HOST" vs = 0 ∧ countViolations "RESERVED_HOST" vs = 0 ∧
      countViolations "DUPLICATE_HOST" vs = 0 := by
  simp only [countViolations, List.countP_eq_zero, beq_iff_eq, hostCodes, List.mem_cons,
    List.not_mem_nil, or_false, not_or, forall_and]

/-- Where the catalog has all services that are reached without a sidecar, validation finds no fault
with a host just where the requested routes have no problem. The two count the hosts that are
malformed or reserved alike, and a host of several services is a problem for all but one of them. -/
theorem hosts_agree (settings : Settings) {catalog : Catalog} {d : Deployment}
    (hcatalog : ∀ s ∈ d.services, ¬s.hasSidecar → (catalog.port? s.id).isSome) :
    ∃ routes, Routing.requests settings catalog d = .ok routes ∧
      ((∀ v ∈ d.hostViolations, v.code ∉ hostCodes) ↔ routeProblems routes = []) ∧
      countProblems "Invalid host slug" (routeProblems routes) =
        countViolations "INVALID_HOST" d.hostViolations ∧
      countProblems "Reserved host" (routeProblems routes) =
        countViolations "RESERVED_HOST" d.hostViolations ∧
      countProblems "Duplicate host" (routeProblems routes) =
        (d.hostViolations.map Violation.surplus).sum := by
  obtain ⟨routes, hroutes⟩ : ∃ routes, Routing.requests settings catalog d = .ok routes :=
    Routing.exists_requests hcatalog
  obtain ⟨hinvalid, hreserved, hduplicate⟩ := d.countViolations_hostViolations
  rw [countViolations_invalidNames] at hinvalid
  rw [length_claimedHosts] at hreserved
  have hmalformed : countProblems "Invalid host slug" (routeProblems routes) =
      countViolations "INVALID_HOST" d.hostViolations := by
    rw [hinvalid, routeProblems, countProblems_malformed, Routing.hosts_of_requests hroutes]
  have hclaimed : countProblems "Reserved host" (routeProblems routes) =
      countViolations "RESERVED_HOST" d.hostViolations := by
    rw [hreserved, routeProblems, countProblems_reserved, Routing.hosts_of_requests hroutes]
  have hsurplus : countProblems "Duplicate host" (routeProblems routes) =
      (d.sharedHosts.map Violation.surplus).sum := by
    rw [sum_surplus_sharedHosts, routeProblems, countProblems_duplicate,
      Routing.hosts_of_requests hroutes]
  refine ⟨routes, hroutes, ?_, hmalformed, hclaimed, hsurplus.trans d.sum_surplus.symm⟩
  rw [forall_code_notMem_iff, routeProblems_eq_nil_iff_count, hmalformed, hclaimed, hsurplus,
    ← sharedHosts_eq_nil_iff, hduplicate, List.length_eq_zero_iff]

/-- Three services on one host that is reserved, one of them behind a sidecar, and one on a host
that is no slug. -/
def crowded : Deployment where
  environment := "local"
  roles := ["staff"]
  services := [
    { id := "docs", displayName := "Docs", host := "portal", access := .free },
    { id := "wiki", displayName := "Wiki", host := "portal", access := .proxy, roles := ["staff"] },
    { id := "chat", displayName := "Chat", host := "portal", access := .free },
    { id := "mail", displayName := "Mail", host := "Mail", access := .free }]

theorem hosts_agree_crowded :
    let settings : Settings := { deploymentId := "demo", environment := "local", realm := "main" }
    ∃ routes, Routing.requests settings [("docs", 80), ("chat", 81), ("mail", 25)] crowded =
        .ok routes ∧
      countProblems "Invalid host slug" (routeProblems routes) = 1 ∧
      countProblems "Reserved host" (routeProblems routes) = 3 ∧
      countProblems "Duplicate host" (routeProblems routes) = 2 := by
  have hcatalog : ∀ s ∈ crowded.services, ¬s.hasSidecar →
      (Catalog.port? [("docs", 80), ("chat", 81), ("mail", 25)] s.id).isSome := by decide
  obtain ⟨routes, hroutes, -, hmalformed, hreserved, hduplicate⟩ := hosts_agree
    { deploymentId := "demo", environment := "local", realm := "main" } hcatalog
  obtain ⟨hinvalid, hclaimed, -⟩ := countViolations_hostViolations crowded
  have hsurplus := (sum_surplus crowded).trans (sum_surplus_sharedHosts crowded)
  exact ⟨routes, hroutes, hmalformed.trans (hinvalid.trans (by decide +kernel)),
    hreserved.trans (hclaimed.trans (by decide +kernel)),
    hduplicate.trans (hsurplus.trans (by decide +kernel))⟩

end Deployment

end StackCompiler
