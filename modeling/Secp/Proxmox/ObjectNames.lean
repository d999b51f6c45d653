import Secp.Proxmox.Records

/-!
# The names of a compiled network

A VNet's name is one an SDN VNet may have. The name of a firewall object goes on from one of two openings,
with characters of what it stands for; that it is valid tells what a team it is made from may be called.
-/

namespace Secp.Proxmox

open Secp.Python Secp.Logic AllocationLedger

/-- An ASCII letter or digit. -/
def isAsciiAlnum (c : Char) : Bool := isAsciiLower c || isAsciiUpper c || isAsciiDigit c

/-! ## Grammars -/

theorem isAscii_of_isAsciiAlnum {c : Char} (h : isAsciiAlnum c = true) : isAscii c = true := by
  simp [isAsciiAlnum, isAsciiLower, isAsciiUpper, isAsciiDigit] at h
  simp [isAscii]
  omega

/-- What matches up to a line break at the end has the characters of a match, and perhaps a line break. -/
theorem mem_of_endsAt {matched : Str → Bool} {s : Str} (h : endsAt matched s = true) :
    ∃ body, matched body = true ∧ ∀ c ∈ s, c ∈ body ∨ c = '\n' := by
  rcases Bool.or_eq_true_iff.mp h with hmatched | hbreak
  · exact ⟨s, hmatched, fun c hc => .inl hc⟩
  · obtain ⟨hlast, hmatched⟩ := Bool.and_eq_true_iff.mp hbreak
    refine ⟨s.dropLast, hmatched, fun c hc => ?_⟩
    have hsplit : s.dropLast ++ ['\n'] = s :=
      List.dropLast_append_getLast? '\n' (by simpa using hlast)
    rw [← hsplit] at hc
    rcases List.mem_append.mp hc with hc | hc
    · exact .inl hc
    · exact .inr (List.mem_singleton.mp hc)

/-- The characters of an SDN name. -/
theorem chars_of_isSdnName {name : Str} (h : isSdnName name = true) :
    ∀ c ∈ name, isAsciiAlnum c = true ∨ c = '\n' := by
  obtain ⟨body, hbody, hchars⟩ := mem_of_endsAt h
  intro c hc
  refine (hchars c hc).imp_left fun hc => ?_
  cases body with
  | nil => cases hc
  | cons first rest =>
      obtain ⟨hfirst, hrest⟩ := Bool.and_eq_true_iff.mp hbody
      have hlower := (Bool.and_eq_true_iff.mp hfirst).1
      unfold isAsciiAlnum
      rcases List.mem_cons.mp hc with rfl | hc
      · rw [hlower]
        rfl
      · rcases Bool.or_eq_true_iff.mp (List.all_eq_true.mp hrest c hc) with hc | hc <;> simp [hc]

/-- A name opens with the letter its body opens with. -/
theorem head_of_endsAt {p : Str → Bool} {name : Str} (h : endsAt p name = true)
    (hp : ∀ body, p body = true → ∃ c rest, body = c :: rest ∧ isAsciiLower c = true) :
    ∃ c rest, name = c :: rest ∧ isAsciiLower c = true := by
  rcases Bool.or_eq_true_iff.mp h with hmatched | hbreak
  · exact hp name hmatched
  · obtain ⟨c, rest, hname, hc⟩ := hp name.dropLast (Bool.and_eq_true_iff.mp hbreak).2
    cases name with
    | nil => cases hname
    | cons d tail =>
        cases tail with
        | nil => cases hname
        | cons e tail =>
            rw [List.dropLast_cons_cons] at hname
            cases hname
            exact ⟨_, _, rfl, hc⟩

/-- An SDN name opens with a letter. -/
theorem head_of_isSdnName {name : Str} (h : isSdnName name = true) :
    ∃ c rest, name = c :: rest ∧ isAsciiLower c = true := by
  refine head_of_endsAt h fun body hbody => ?_
  cases body with
  | nil => cases hbody
  | cons c rest =>
      obtain ⟨hfirst, -⟩ := Bool.and_eq_true_iff.mp hbody
      exact ⟨c, rest, rfl, (Bool.and_eq_true_iff.mp hfirst).1⟩

/-- A firewall name is within ASCII. -/
theorem isAscii_of_isFirewallName {name : Str} (h : isFirewallName name = true) :
    ∀ c ∈ name, isAscii c = true := by
  obtain ⟨body, hbody, hchars⟩ := mem_of_endsAt h
  intro c hc
  rcases hchars c hc with hc | rfl
  · cases body with
    | nil => cases hc
    | cons first rest =>
        obtain ⟨hfirst, hrest⟩ := Bool.and_eq_true_iff.mp hbody
        have hletter := (Bool.and_eq_true_iff.mp hfirst).1
        rcases List.mem_cons.mp hc with rfl | hc
        · exact isAscii_of_isAsciiAlnum (by rw [isAsciiAlnum, hletter]; rfl)
        · have hallowed := List.all_eq_true.mp hrest c hc
          simp only [Bool.or_eq_true, decide_eq_true_eq] at hallowed
          rcases hallowed with ((hallowed | rfl) | rfl) | rfl
          · exact isAscii_of_isAsciiAlnum (by simpa [isAsciiAlnum] using hallowed)
          all_goals rfl
  · rfl

section
variable [Unicode]

/-- Within ASCII only letters and digits are alphanumeric. -/
theorem isAsciiAlnum_of_isAlnum {c : Char} (h : isAlnum c = true) (hascii : isAscii c = true) :
    isAsciiAlnum c = true := by
  unfold isAlnum at h
  rwa [if_pos hascii] at h

/-! ## Names drawn -/

omit [Unicode] in
theorem isAsciiAlnum_of_mem_hex2 {n : Nat} {c : Char} (h : c ∈ hex2 (n % 256)) : isAsciiAlnum c = true := by
  have hdigit : ∀ i < 16, isAsciiAlnum (hexDigit i) = true := by decide
  rcases List.mem_pair.mp h with rfl | rfl
  · exact hdigit _ (Nat.mod_lt _ (by decide))
  · exact hdigit _ (Nat.mod_lt _ (by decide))

/-- A name drawn for an opening and what it stands for: the opening stays, and so do the first fifteen
characters of the rest. -/
theorem rest_of_freeName {opening rest purpose name : Str} {scope : Scope} {taken : List Str}
    (hopening : opening.length ≤ 10)
    (h : freeName .firewallObjectName (some 27) ⟨scope, purpose, opening ++ rest⟩ taken = some name) :
    ∃ rest', name = opening ++ rest' ∧ (∀ c ∈ rest', c ∈ rest ∨ isAsciiAlnum c = true) ∧
      ∀ c ∈ rest.take 15, c ∈ rest' := by
  have htake : ∀ n, 25 ≤ n → (opening ++ rest).take n = opening ++ rest.take (n - opening.length) := by
    intro n hn
    rw [List.take_append, List.take_of_length_le (by omega)]
  have hkept : ∀ n, 15 ≤ n → ∀ c ∈ rest.take 15, c ∈ rest.take n := by
    intro n hn c hc
    rw [← Nat.min_eq_left hn, ← List.take_take] at hc
    exact List.mem_of_mem_take hc
  rcases @shape_of_freeName _ _ 27 _ _ _ (by decide) h with rfl | hcut
  · rw [htake 27 (by decide)]
    exact ⟨_, rfl, fun c hc => .inl (List.mem_of_mem_take hc), hkept _ (by omega)⟩
  · obtain ⟨n, rfl⟩ := hcut
    rw [List.take_take, htake (min (27 - 2) 27) (by decide), List.append_assoc]
    refine ⟨_, rfl, fun c hc => ?_, fun c hc => List.mem_append_left _ (hkept _ (by omega) c hc)⟩
    rcases List.mem_append.mp hc with hc | hc
    · exact .inl (List.mem_of_mem_take hc)
    · exact .inr (isAsciiAlnum_of_mem_hex2 hc)

variable {request : WebBreachLabRequest} {o : TargetObservation} {ledger : AllocationLedger}
  {network : SegregatedNetworkPlan}

omit [Unicode] in
/-- What a name is recorded under tells which kind of firewall object it is for. -/
theorem purpose_ne {team vnetAlias : Str} : team ++ str "/ipset" ≠ vnetAlias ++ str "/secgroup" := by
  intro h
  have hlast := congrArg List.getLast? h
  simp [str] at hlast

/-- The IPSet of a team of alphanumeric characters goes on with ASCII letters and digits, among them the
team's first fifteen. -/
theorem TeamIpSet.rest (hrecords : ∀ a ∈ ledger.records, OfNetwork a) {team : Str × List VNetSpec}
    {item : IpSetSpec} (h : TeamIpSet request ledger team item)
    (halnum : ∀ c ∈ team.1, isAlnum c = true) :
    ∃ rest, item.name = str "secp-team-" ++ rest ∧ (∀ c ∈ rest, isAsciiAlnum c = true) ∧
      ∀ c ∈ team.1.take 15, c ∈ rest := by
  obtain ⟨candidate, taken, hask, hfree⟩ := (hrecords _ h.name).drawn rfl
  have hcandidate : candidate = str "secp-team-" ++ team.1 := by
    rcases hask with hteam | hgroup
    · obtain ⟨other, hpurpose, rfl⟩ := hteam
      rw [List.append_cancel_right hpurpose]
    · obtain ⟨v, hpurpose, -⟩ := hgroup
      exact absurd hpurpose purpose_ne
  rw [hcandidate] at hfree
  obtain ⟨rest, hname, hrest, hkept⟩ := rest_of_freeName (by simp [str]) hfree
  refine ⟨rest, hname, fun c hc => ?_, hkept⟩
  rcases hrest c hc with hteam | hascii
  · refine isAsciiAlnum_of_isAlnum (halnum c hteam) (isAscii_of_isFirewallName item.name_valid c ?_)
    rw [show item.name = _ from hname]
    exact List.mem_append_right _ hc
  · exact hascii

/-- The security group of a VNet goes on with characters of an SDN name. -/
theorem VnetGroup.rest (hrecords : ∀ a ∈ ledger.records, OfNetwork a) {teamIpset : Dict Str Str}
    {scoring : List VNetSpec} {vnet : VNetSpec} {group : SecurityGroupSpec}
    (h : VnetGroup request ledger teamIpset scoring vnet group) :
    ∃ rest, group.name = str "secp-sg-" ++ rest ∧ ∀ c ∈ rest, isAsciiAlnum c = true ∨ c = '\n' := by
  obtain ⟨candidate, taken, hask, hfree⟩ := (hrecords _ h.name).drawn rfl
  obtain ⟨v, rfl⟩ : ∃ v : VNetSpec, candidate = str "secp-sg-" ++ v.name := by
    rcases hask with hteam | hgroup
    · obtain ⟨team, hpurpose, -⟩ := hteam
      exact absurd hpurpose.symm purpose_ne
    · obtain ⟨v, -, hcandidate⟩ := hgroup
      exact ⟨v, hcandidate⟩
  obtain ⟨rest, hname, hrest, -⟩ := rest_of_freeName (by simp [str]) hfree
  exact ⟨rest, hname, fun c hc => (hrest c hc).elim (chars_of_isSdnName v.name_valid c) .inl⟩

/-! ## The network -/

/-- What the objects of a compiled network are called: no two of a kind alike, and with which
characters. -/
structure NamesDrawn (network : SegregatedNetworkPlan) : Prop where
  vnets_nodup : (network.vnets.map VNetSpec.name).Nodup
  ipSets_nodup : (network.ipSets.map IpSetSpec.name).Nodup
  groups_nodup : (network.securityGroups.map SecurityGroupSpec.name).Nodup
  ipSets : ∀ item ∈ network.ipSets, ReservedIpset item.name ∨
    ∃ rest, item.name = str "secp-team-" ++ rest ∧ ∀ c ∈ rest, isAsciiAlnum c = true
  groups : ∀ group ∈ network.securityGroups,
    ∃ rest, group.name = str "secp-sg-" ++ rest ∧ ∀ c ∈ rest, isAsciiAlnum c = true ∨ c = '\n'
  /-- A team's IPSet shows the first characters of its reference. -/
  teams : ∀ v ∈ network.vnets, ∀ team, v.ownership.teamRef = some team →
    team ≠ [] ∧ ∀ c ∈ team.take 15, isAsciiAlnum c = true

/-- The team of a compiled VNet is one of the request's. -/
theorem SegmentVnets.team_valid {vnets : List VNetSpec} (h : SegmentVnets request ledger vnets)
    {v : VNetSpec} (hv : v ∈ vnets) {team : Str} (hteam : v.ownership.teamRef = some team) :
    team ≠ [] ∧ ∀ c ∈ team, isAlnum c = true := by
  obtain ⟨segment, hsegment, hvnet⟩ := h.exists_segment hv
  have hsame : segment.teamRef = some team := (ownershipOf_eq_ok hvnet.ownership).1.symm.trans hteam
  rw [segments_eq] at hsegment
  rcases List.mem_cons.mp hsegment with rfl | hsegment
  · cases hsame
  · obtain ⟨entry, -, hentry⟩ := List.mem_flatMap.mp hsegment
    rw [(teamRef_of_mem_teamSegments hentry).1] at hsame
    obtain rfl := Option.some.inj hsame
    obtain ⟨hne, hvalid⟩ := entry.1.teamRef_valid
    exact ⟨hne, List.all_eq_true.mp (Bool.and_eq_true_iff.mp hvalid).2⟩

theorem namesDrawn_of_compileWebBreachLab
    (h : compileWebBreachLab request o AllocationLedger.empty = .ok (.plan network, ledger)) :
    NamesDrawn network := by
  have hrecords := ofNetwork_of_compileWebBreachLab h
  obtain ⟨s, t, htidy, hvnets, -, hfirewall, hblocked, rfl, -⟩ := run_compileWebBreachLab h
  obtain ⟨hevolves, ownership, shared, sets, howner, hshared, hipSets, hsets, hgroups, -⟩ :=
    run_firewallLoops htidy hvnets hfirewall hblocked
  have htidy' := hevolves.tidy htidy
  have hvnets' := hvnets.mono hevolves.keeps
  obtain ⟨hpairs, -⟩ := sharedIpSets_eq_ok (ownershipOf_eq_ok howner).1 hshared
  -- the team of a group is that of its VNets
  have hteams : ∀ team ∈ teamGroups network.vnets, ∀ c ∈ team.1, isAlnum c = true := by
    intro team hteam
    obtain ⟨hmember, -⟩ := (@mem_teamGroups network.vnets team.1 team.2).mp hteam
    obtain ⟨v, hv, hvteam⟩ := hmember
    exact (hvnets.team_valid hv hvteam).2
  constructor
  case vnets_nodup => exact hvnets'.names_nodup htidy'.sound
  case ipSets_nodup =>
    have hnodup := ipSetNames_nodup htidy' hpairs hsets
    rw [← hipSets, List.map_map] at hnodup
    exact hnodup
  case groups_nodup => exact groups_nodup htidy'.sound hvnets' hgroups
  case ipSets =>
    intro item hitem
    rw [hipSets] at hitem
    rcases List.mem_append.mp hitem with hitem | hitem
    · have hpair : (item.name, item.cidrs) ∈ sharedPairs request o := by
        rw [← hpairs]
        exact List.mem_map.mpr ⟨item, hitem, rfl⟩
      exact .inl (sharedPairs_reserved hpair)
    · obtain ⟨team, hteam, hset⟩ := forall₂_exists_left hsets hitem
      obtain ⟨rest, hname, hrest, -⟩ := hset.rest hrecords (hteams team hteam)
      exact .inr ⟨rest, hname, hrest⟩
  case groups =>
    intro group hgroup
    obtain ⟨v, -, hgroup⟩ := forall₂_exists_left hgroups hgroup
    exact hgroup.rest hrecords
  case teams =>
    intro v hv team hteam
    have hmember : (team, network.vnets.filter fun v => v.ownership.teamRef = some team) ∈
        teamGroups network.vnets := mem_teamGroups.mpr ⟨⟨v, hv, hteam⟩, rfl⟩
    obtain ⟨item, -, hset⟩ := forall₂_exists_right hsets hmember
    obtain ⟨rest, -, hrest, hkept⟩ := hset.rest hrecords (hteams _ hmember)
    exact ⟨(hvnets.team_valid hv hteam).1, fun c hc => hrest c (hkept c hc)⟩

end

end Secp.Proxmox
