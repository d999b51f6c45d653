import Mathlib.Data.List.Flatten
import Secp.Worker.BundleStructure
import Secp.Worker.RenderOrder

/-!
# The addresses of a rendered workspace

A resource is addressed by its type and label, and an entry of a map by its key. Each address and key of a
workspace comes from one text of the desired state, a name, a team or a reference, through `hclLabel`. So
they are unique exactly when the labels of these texts are.
-/

namespace Secp.Worker

open Secp.Python Secp.Logic Secp.Proxmox

/-! ## What a workspace declares -/

/-- The addresses of the resources in a file. -/
def addressesOf (items : List HclItem) : List (Str × Str) :=
  (resourcesOf items).map fun r => (r.type, r.label)

/-- The key an item of an object is written under. -/
def HclItem.entryKey : HclItem → Option Str
  | .attribute _ key _ => some key
  | .object key _ => some key
  | _ => none

def entryKeys (body : List HclItem) : List Str := body.filterMap HclItem.entryKey

/-- The bodies of the objects a block holds under a key. -/
def HclItem.objectsUnder (keyword : Str) (labels : List Str) (key : Str) : HclItem → List (List HclItem)
  | .block keyword' labels' body =>
      if keyword' = keyword ∧ labels' = labels then
        body.filterMap fun item =>
          match item with
          | .object key' entries => if key' = key then some entries else none
          | _ => none
      else []
  | _ => []

/-- The bodies of the objects a file holds under a key, in the blocks of a keyword. -/
def objectsUnder (keyword : Str) (labels : List Str) (key : Str) (items : List HclItem) :
    List (List HclItem) := items.flatMap (HclItem.objectsUnder keyword labels key)

/-- The outputs that are maps from guests. -/
def guestOutputs : List Str :=
  [str "secp_published_addresses", str "secp_probe_addresses", str "secp_guest_ids"]

/-- No two teams have one key among the segments of a file, and no two guests one key in an output. -/
structure UniqueKeys (items : List HclItem) : Prop where
  segments : ∀ teams ∈ objectsUnder (str "locals") [] (str "secp_segments") items,
    (entryKeys teams).Nodup
  outputs : ∀ name ∈ guestOutputs,
    ∀ entries ∈ objectsUnder (str "output") [name] (str "value") items, (entryKeys entries).Nodup

/-- No two resources of a workspace have one address, and the keys of its maps are unique. -/
structure UniqueAddresses (files : List (Str × List HclItem)) : Prop where
  resources : (files.flatMap fun file => addressesOf file.2).Nodup
  keys : ∀ file ∈ files, UniqueKeys file.2

/-! ## Files of resources -/

/-- The keywords of the blocks that hold maps. -/
def mapKeywords : List Str := [str "locals", str "output"]

/-- A file without maps that declares these resources. -/
structure Declares (items : List HclItem) (addresses : List (Str × Str)) : Prop where
  addresses : addressesOf items = addresses
  mapless : ∀ keyword ∈ mapKeywords, ∀ labels key, objectsUnder keyword labels key items = []

section
variable {rest items : List HclItem} {addresses addresses' : List (Str × Str)}

@[simp] theorem addressesOf_append : addressesOf (items ++ rest) = addressesOf items ++ addressesOf rest := by
  unfold addressesOf resourcesOf
  rw [List.filterMap_append, List.map_append]

@[simp] theorem objectsUnder_append {keyword key : Str} {labels : List Str} :
    objectsUnder keyword labels key (items ++ rest) =
      objectsUnder keyword labels key items ++ objectsUnder keyword labels key rest :=
  List.flatMap_append

@[simp] theorem objectsUnder_cons {keyword key : Str} {labels : List Str} {item : HclItem} :
    objectsUnder keyword labels key (item :: rest) =
      item.objectsUnder keyword labels key ++ objectsUnder keyword labels key rest :=
  List.flatMap_cons

theorem declares_nil : Declares [] [] := ⟨rfl, fun _ _ _ _ => rfl⟩

theorem Declares.append (h : Declares items addresses) (h' : Declares rest addresses') :
    Declares (items ++ rest) (addresses ++ addresses') := by
  refine ⟨by rw [addressesOf_append, h.addresses, h'.addresses], fun keyword hkeyword labels key => ?_⟩
  rw [objectsUnder_append, h.mapless keyword hkeyword, h'.mapless keyword hkeyword, List.append_nil]

theorem declares_comment (h : Declares rest addresses) (text : Str) :
    Declares (.comment text :: rest) addresses :=
  ⟨h.addresses, fun keyword hkeyword labels key => h.mapless keyword hkeyword labels key⟩

theorem declares_blank (h : Declares rest addresses) : Declares (.blank :: rest) addresses :=
  ⟨h.addresses, fun keyword hkeyword labels key => h.mapless keyword hkeyword labels key⟩

theorem declares_comments (h : Declares rest addresses) (lines : List String) :
    Declares (comments lines ++ rest) addresses := by
  induction lines with
  | nil => exact h
  | cons line lines ih => exact declares_comment ih (str line)

/-- A block of another keyword declares nothing, unless it is a resource. -/
theorem declares_block (h : Declares rest addresses) {keyword : Str} {labels : List Str}
    {body : List HclItem} (hkeyword : keyword ∉ mapKeywords) (hresource : keyword ≠ str "resource") :
    Declares (.block keyword labels body :: rest) addresses := by
  constructor
  · have hnone : resourceOf (.block keyword labels body) = none := by
      unfold resourceOf
      split
      · next hblock =>
          cases hblock
          exact if_neg hresource
      · rfl
    unfold addressesOf resourcesOf
    rw [List.filterMap_cons_none hnone]
    exact h.addresses
  · intro other hother labels' key
    rw [objectsUnder_cons, h.mapless other hother, List.append_nil]
    refine if_neg fun hsame => hkeyword ?_
    rw [hsame.1]
    exact hother

theorem resource_notMem_mapKeywords : str "resource" ∉ mapKeywords := by
  simp [mapKeywords]

theorem declares_resource (h : Declares rest addresses) (type label : Str) (body : List HclItem) :
    Declares (resource type label body :: rest) ((type, label) :: addresses) := by
  constructor
  · have hsome : resourceOf (resource type label body) = some ⟨type, label, body⟩ := if_pos rfl
    unfold addressesOf resourcesOf
    rw [List.filterMap_cons_some hsome, List.map_cons]
    exact congrArg ((type, label) :: ·) h.addresses
  · intro keyword hkeyword labels key
    rw [objectsUnder_cons, h.mapless keyword hkeyword, List.append_nil]
    refine if_neg fun hsame => resource_notMem_mapKeywords ?_
    rw [hsame.1]
    exact hkeyword

/-- A file without maps has no keys to repeat. -/
theorem Declares.uniqueKeys (h : Declares items addresses) : UniqueKeys items := by
  constructor
  · intro teams hteams
    rw [h.mapless (str "locals") (by simp [mapKeywords])] at hteams
    cases hteams
  · intro name _ entries hentries
    rw [h.mapless (str "output") (by simp [mapKeywords])] at hentries
    cases hentries

end

/-! ## The texts that become labels -/

section
variable [Unicode]

/-- The texts of a field, of the items where it is there. -/
def textsAt (items : List Json) (key : String) : List Str :=
  items.filterMap fun item => (textAt item key).toOption

/-- The teams that segments are listed under. -/
def teamsOf (vnets : List Json) : List Str := vnets.filterMap fun vnet => (segmentTeam vnet).toOption

/-- The labels of different texts are different. -/
def DistinctLabels (names : List Str) : Prop := (names.map hclLabel).Nodup

omit [Unicode] in
theorem distinctLabels_perm {names names' : List Str} (h : names.Perm names') :
    DistinctLabels names ↔ DistinctLabels names' := (h.map hclLabel).nodup_iff

omit [Unicode] in
theorem DistinctLabels.sublist {names names' : List Str} (h : DistinctLabels names')
    (hsublist : names.Sublist names') : DistinctLabels names := List.Nodup.sublist (hsublist.map hclLabel) h

theorem textsAt_cons {item : Json} {items : List Json} {key : String} {name : Str}
    (h : textAt item key = .ok name) : textsAt (item :: items) key = name :: textsAt items key := by
  unfold textsAt
  rw [List.filterMap_cons, h]
  rfl

theorem textsAt_perm {items items' : List Json} (h : items.Perm items') (key : String) :
    (textsAt items key).Perm (textsAt items' key) := h.filterMap _

/-- Items rendered one by one declare the resources of their names. -/
theorem declares_mapM {ε : Type} {render : Json → Except ε (List HclItem)} {key : String}
    {declared : Str → List (Str × Str)}
    (h : ∀ item, Returns (render item) fun items => ∃ name, textAt item key = .ok name ∧
      Declares items (declared name)) (items : List Json) :
    Returns (items.mapM render) fun parts =>
      Declares parts.flatten ((textsAt items key).flatMap declared) := by
  intro parts hparts
  have hall := mapM_eq_ok_iff.mp hparts
  clear hparts
  induction hall with
  | nil => exact declares_nil
  | @cons item part _ _ hfirst _ ih =>
      obtain ⟨name, hname, hdeclares⟩ := h item part hfirst
      rw [List.flatten_cons, textsAt_cons hname, List.flatMap_cons]
      exact hdeclares.append ih

/-! ## The network -/

theorem declares_renderZone (zone : Json) :
    Returns (renderZone zone) fun items => ∃ name, Declares items [(sdnZoneType, hclLabel name)] := by
  refine .bind_any fun name => .bind_any fun _ => .bind_any fun _ => .bind_any fun _ =>
    .bind_any fun _ => .bind_any fun _ => .bind_any fun _ => .bind_any fun _ => .pure ⟨name, ?_⟩
  exact declares_comment (declares_comments (declares_resource declares_nil _ _ _) _) _

/-- The addresses of a VNet and its subnet. -/
def vnetAddresses (name : Str) : List (Str × Str) :=
  [(sdnVNetType, hclLabel name), (sdnSubnetType, hclLabel name)]

theorem declares_renderVNet (vnet : Json) : Returns (renderVNet vnet) fun items =>
    ∃ name, textAt vnet "name" = .ok name ∧ Declares items (vnetAddresses name) := by
  refine .bind (returns_value _) fun name hname => .bind_any fun _ => .bind_any fun _ =>
    .bind_any fun _ => .bind_any fun _ => .bind_any fun _ => .bind_any fun _ => .bind_any fun _ =>
    .bind_any fun _ => .bind_any fun _ => .bind_any fun _ => .pure ⟨name, hname, ?_⟩
  exact declares_resource (declares_blank (declares_resource (declares_blank declares_nil) _ _ _)) _ _ _

theorem declares_renderVNets (vnets : List Json) : Returns (renderVNets vnets) fun items =>
    Declares items ((textsAt vnets "name").flatMap vnetAddresses) := by
  refine .bind (declares_mapM declares_renderVNet vnets) fun rendered hrendered => .pure ?_
  rw [List.append_assoc, List.append_assoc]
  exact declares_comment (declares_comments (declares_blank hrendered) _) _

theorem declares_renderIpSet (ipSet : Json) : Returns (renderIpSet ipSet) fun items =>
    ∃ name, textAt ipSet "name" = .ok name ∧ Declares items [(ipSetType, hclLabel name)] := by
  refine .bind (returns_value _) fun name hname => .bind_any fun _ => .bind_any fun _ =>
    .bind_any fun _ => .bind_any fun _ => .pure ⟨name, hname, ?_⟩
  exact declares_resource (declares_blank declares_nil) _ _ _

theorem declares_renderSecurityGroup (group : Json) :
    Returns (renderSecurityGroup group) fun items =>
      ∃ name, textAt group "name" = .ok name ∧ Declares items [(securityGroupType, hclLabel name)] := by
  refine .bind (returns_value _) fun name hname => .bind_any fun _ => .bind_any fun _ =>
    .bind_any fun _ => .bind_any fun _ => .bind_any fun _ => .pure ⟨name, hname, ?_⟩
  exact declares_resource (declares_blank declares_nil) _ _ _

/-- The addresses of one type. -/
def typed (type : Str) (names : List Str) : List (Str × Str) :=
  names.flatMap fun name => [(type, hclLabel name)]

theorem declares_renderFirewall {network : Json} {ipSets groups : List Json}
    (hipSets : listAt network "ip_sets" = .ok ipSets)
    (hgroups : listAt network "security_groups" = .ok groups) :
    Returns (renderFirewall network) fun items => ∃ sets sorted,
      sets.Perm (textsAt ipSets "name") ∧ sorted.Perm (textsAt groups "name") ∧
        Declares items (typed ipSetType sets ++ typed securityGroupType sorted) := by
  refine .bind (returns_value _) fun listed hlisted => .bind (returns_value _) fun sets hsets =>
    .bind (declares_mapM declares_renderIpSet sets) fun renderedSets hdeclares =>
    .bind (returns_value _) fun listedGroups hlistedGroups => .bind (returns_value _) fun sorted hsorted =>
    .bind (declares_mapM declares_renderSecurityGroup sorted) fun renderedGroups hdeclaresGroups =>
    .pure ⟨textsAt sets "name", textsAt sorted "name", ?_, ?_, ?_⟩
  · rw [hipSets, Except.ok.injEq] at hlisted
    exact textsAt_perm (hlisted ▸ perm_of_sortedOn hsets) "name"
  · rw [hgroups, Except.ok.injEq] at hlistedGroups
    exact textsAt_perm (hlistedGroups ▸ perm_of_sortedOn hsorted) "name"
  · rw [List.append_assoc, List.append_assoc, List.append_assoc]
    exact declares_comment (declares_comments (declares_blank (hdeclares.append hdeclaresGroups)) _) _

/-! ## Guests -/

theorem declares_renderQemuGuest (index : Dict Str Json) (guest : Json) :
    Returns (renderQemuGuest index guest) fun items =>
      ∃ ref, textAt guest "guest_ref" = .ok ref ∧ Declares items [(qemuGuestType, hclLabel ref)] := by
  refine .bind (returns_lift (returns_value _)) fun ref href => .bind_any fun _ => .bind_any fun _ =>
    .bind_any fun _ => .bind_any fun _ => .bind_any fun _ => .bind_any fun _ => .bind_any fun _ =>
    .bind_any fun _ => .bind_any fun _ => .bind_any fun _ => .bind_any fun _ => .bind_any fun _ =>
    .bind_any fun _ => .bind_any fun _ => .pure ⟨ref, href, ?_⟩
  exact declares_resource (declares_blank declares_nil) _ _ _

theorem declares_renderQemuGuests (guests vnets : List Json) :
    Returns (renderQemuGuests guests vnets) fun items =>
      Declares items (typed qemuGuestType (textsAt guests "guest_ref")) := by
  refine .bind_any fun index => ?_
  split
  · next hnone =>
      rw [List.isEmpty_iff.mp hnone]
      refine .pure ?_
      rw [← List.append_nil ([header] ++ _), List.append_assoc]
      exact declares_comment (declares_comments declares_nil _) _
  · refine .bind (declares_mapM (declares_renderQemuGuest index) guests) fun rendered hrendered =>
      .pure ?_
    exact declares_comment hrendered _

theorem declares_renderLxcGuest (index : Dict Str Json) (guest : Json) :
    Returns (renderLxcGuest index guest) fun items =>
      ∃ ref, textAt guest "guest_ref" = .ok ref ∧ Declares items [(lxcGuestType, hclLabel ref)] := by
  refine .bind (returns_lift (returns_value _)) fun ref href => .bind_any fun _ => .bind_any fun _ =>
    .bind_any fun _ => .bind_any fun _ => .bind_any fun _ => .bind_any fun _ => .bind_any fun _ =>
    .bind_any fun _ => .bind_any fun _ => .bind_any fun _ => .bind_any fun _ =>
    .pure ⟨ref, href, ?_⟩
  exact declares_resource (declares_blank declares_nil) _ _ _

/-- The file of the containers, when there is one. -/
theorem declares_renderLxcFiles (guests vnets : List Json) :
    Returns (renderLxcFiles guests vnets) fun files => ∃ items,
      Declares items (typed lxcGuestType (textsAt guests "guest_ref")) ∧
        (files = [] ∧ items = [] ∨ files = [(str "guests_lxc.tf", items)]) := by
  unfold renderLxcFiles
  split
  · next hnone =>
      rw [List.isEmpty_iff.mp hnone]
      exact .pure ⟨[], declares_nil, .inl ⟨rfl, rfl⟩⟩
  · refine .bind (P := fun items => Declares items (typed lxcGuestType (textsAt guests "guest_ref"))) ?_
      fun items hitems => .pure ⟨items, hitems, .inr rfl⟩
    refine .bind_any fun index => .bind (declares_mapM (declares_renderLxcGuest index) guests)
      fun rendered hrendered => .pure ?_
    exact declares_comment hrendered _

/-! ## Maps -/

/-- Items rendered one by one into the entries of a map stand under the labels of their texts. -/
theorem entryKeys_mapM {render : Json → Except PayloadError HclItem} {key : String}
    (h : ∀ item, Returns (render item) fun entry => ∃ name, textAt item key = .ok name ∧
      entry.entryKey = some (hclLabel name)) (items : List Json) :
    Returns (items.mapM render) fun entries => entryKeys entries = (textsAt items key).map hclLabel := by
  intro entries hentries
  have hall := mapM_eq_ok_iff.mp hentries
  clear hentries
  induction hall with
  | nil => rfl
  | @cons item entry _ _ hfirst _ ih =>
      obtain ⟨name, hname, hkey⟩ := h item entry hfirst
      rw [textsAt_cons hname, List.map_cons, ← ih]
      exact List.filterMap_cons_some hkey

/-- The segments' map has one key for each team. -/
theorem uniqueKeys_renderSegments (vnets : List Json) : Returns (renderSegments vnets) fun items =>
    addressesOf items = [] ∧ (UniqueKeys items ↔ DistinctLabels (teamsOf vnets).dedup) := by
  refine .bind (returns_value _) fun byTeam hbyTeam => .bind (returns_value _) fun teams hteams =>
    .pure ⟨rfl, ?_⟩
  have hkeys : entryKeys teams = (sortedBy id (teamsOf vnets).dedup).map hclLabel := by
    have hread : teamsOf vnets = byTeam.map Prod.fst := filterMap_key_eq (mapM_eq_ok_iff.mp hbyTeam)
    rw [hread]
    have hall := mapM_eq_ok_iff.mp hteams
    clear hteams
    generalize sortedBy id (byTeam.map Prod.fst).dedup = sorted at hall
    induction hall with
    | nil => rfl
    | cons hfirst _ ih =>
        obtain ⟨_, _, hfirst⟩ := except_bind_eq_ok.mp hfirst
        obtain ⟨_, _, hfirst⟩ := except_bind_eq_ok.mp hfirst
        cases hfirst
        exact congrArg _ ih
  have hsegments : objectsUnder (str "locals") [] (str "secp_segments")
      [header, nested "locals" [.object (str "secp_segments") teams]] = [teams] := by
    simp [objectsUnder, HclItem.objectsUnder, header, nested]
  have houtputs : ∀ name, objectsUnder (str "output") [name] (str "value")
      [header, nested "locals" [.object (str "secp_segments") teams]] = [] := by
    simp [objectsUnder, HclItem.objectsUnder, header, nested]
  have hsame : (entryKeys teams).Nodup ↔ DistinctLabels (teamsOf vnets).dedup := by
    rw [hkeys]
    exact ((sortedBy_perm id _).map hclLabel).nodup_iff
  rw [← hsame]
  refine ⟨fun h => h.segments teams (by rw [hsegments]; exact List.mem_singleton_self _),
    fun h => ⟨fun entries hentries => ?_, fun name _ entries hentries => ?_⟩⟩
  · rw [hsegments] at hentries
    rw [List.mem_singleton.mp hentries]
    exact h
  · rw [houtputs] at hentries
    cases hentries

/-- The addresses of a kind are listed by references of guests. -/
theorem refs_addressesAt (guests : List Json) (key : String) :
    Returns (addressesAt guests key) fun addresses => (addresses.map Prod.fst).Nodup ∧
      ∀ entry ∈ addresses, entry.1 ∈ textsAt guests "guest_ref" := by
  refine .bind (returns_value _) fun found hfound => .pure ⟨Dict.nodup_keys_ofPairs _, ?_⟩
  intro entry hentry
  have hpair := Dict.mem_of_get?_ofPairs (Dict.get?_of_mem (Dict.nodup_keys_ofPairs _) hentry)
  obtain ⟨part, hpart, hmem⟩ := List.mem_flatten.mp hpair
  obtain ⟨guest, hguest, hread⟩ := forall₂_exists_left (mapM_eq_ok_iff.mp hfound) hpart
  obtain ⟨address, -, hread⟩ := except_bind_eq_ok.mp hread
  obtain ⟨value, -, hread⟩ := except_bind_eq_ok.mp hread
  split at hread
  · obtain ⟨ref, href, hread⟩ := except_bind_eq_ok.mp hread
    obtain ⟨_, -, hread⟩ := except_bind_eq_ok.mp hread
    obtain ⟨_, -, hread⟩ := except_bind_eq_ok.mp hread
    cases hread
    obtain ⟨hsame, -⟩ := Prod.mk.inj (List.mem_singleton.mp hmem)
    rw [hsame]
    exact List.mem_filterMap.mpr ⟨guest, hguest, by rw [href]; rfl⟩
  · cases hread
    cases hmem

/-- An output of addresses has as many keys as entries where the references of guests have different
labels. -/
theorem nodup_addressOutput {addresses : Dict Str Str} {guests : List Json}
    (hkeys : (addresses.map Prod.fst).Nodup)
    (hrefs : ∀ entry ∈ addresses, entry.1 ∈ textsAt guests "guest_ref")
    (hlabels : DistinctLabels (textsAt guests "guest_ref")) :
    (entryKeys ((sortedBy Prod.fst addresses).map fun entry =>
      .attribute 0 (hclLabel entry.1) (.scalar (.text entry.2)))).Nodup := by
  have hentries : entryKeys ((sortedBy Prod.fst addresses).map fun entry =>
      .attribute 0 (hclLabel entry.1) (.scalar (.text entry.2))) =
        ((sortedBy Prod.fst addresses).map Prod.fst).map hclLabel := by
    rw [entryKeys, List.filterMap_map, List.map_map, ← List.filterMap_eq_map]
    rfl
  rw [hentries]
  refine List.Nodup.map_on (fun ref href ref' href' hsame => ?_)
    (((sortedBy_perm Prod.fst addresses).map Prod.fst).nodup_iff.mpr hkeys)
  obtain ⟨entry, hentry, rfl⟩ := List.mem_map.mp href
  obtain ⟨entry', hentry', rfl⟩ := List.mem_map.mp href'
  exact List.inj_on_of_nodup_map hlabels (hrefs entry (mem_sortedBy.mp hentry))
    (hrefs entry' (mem_sortedBy.mp hentry')) hsame

/-- The outputs have unique keys exactly when the references of the guests have different labels. -/
theorem uniqueKeys_renderOutputs (zone : Json) (guests : List Json) :
    Returns (renderOutputs zone guests) fun items => addressesOf items = [] ∧
      (UniqueKeys items ↔ DistinctLabels (textsAt guests "guest_ref")) := by
  refine .bind_any fun zoneName => .bind (refs_addressesAt guests _) fun published hpublished =>
    .bind (refs_addressesAt guests _) fun probe hprobe => .bind (returns_value _) fun sorted hsorted =>
    .bind (@entryKeys_mapM _ _ "guest_ref" (fun guest => ?_) sorted) fun ids hids => .pure ⟨?_, ?_⟩
  · exact .bind (returns_value _) fun ref href => .bind_any fun vmid => .pure ⟨ref, href, rfl⟩
  · simp [addressesOf, resourcesOf, resourceOf, addressOutput, comments, header]
  · have hsame : (entryKeys ids).Nodup ↔ DistinctLabels (textsAt guests "guest_ref") := by
      rw [hids]
      exact ((textsAt_perm (perm_of_sortedOn hsorted) "guest_ref").map hclLabel).nodup_iff
    constructor
    · intro h
      refine hsame.mp (h.outputs (str "secp_guest_ids") (by simp [guestOutputs]) ids ?_)
      simp [objectsUnder, HclItem.objectsUnder, addressOutput, comments, header]
    · intro h
      constructor
      · intro teams hteams
        simp [objectsUnder, HclItem.objectsUnder, addressOutput, comments, header] at hteams
      · intro name hname entries hentries
        simp only [guestOutputs, List.mem_cons, List.not_mem_nil, or_false] at hname
        rcases hname with rfl | rfl | rfl
        · obtain rfl : entries = (sortedBy Prod.fst published).map fun entry =>
              .attribute 0 (hclLabel entry.1) (.scalar (.text entry.2)) := by
            simpa [objectsUnder, HclItem.objectsUnder, addressOutput, comments, header] using hentries
          exact nodup_addressOutput hpublished.1 hpublished.2 h
        · obtain rfl : entries = (sortedBy Prod.fst probe).map fun entry =>
              .attribute 0 (hclLabel entry.1) (.scalar (.text entry.2)) := by
            simpa [objectsUnder, HclItem.objectsUnder, addressOutput, comments, header] using hentries
          exact nodup_addressOutput hprobe.1 hprobe.2 h
        · obtain rfl : entries = ids := by
            simpa [objectsUnder, HclItem.objectsUnder, addressOutput, comments, header] using hentries
          exact hsame.mpr h

/-! ## The workspace -/

omit [Unicode] in
theorem declares_fixed (version : Str) : Declares (renderVersions version) [] ∧
    Declares renderVariables [] ∧ Declares renderProvider [] := by
  refine ⟨?_, ?_, ?_⟩
  · exact declares_comment (declares_block declares_nil (by simp [mapKeywords]) (by simp)) _
  · unfold renderVariables
    rw [List.append_assoc]
    refine declares_comment (declares_comments ?_ _) _
    refine declares_block (declares_blank ?_) (by simp [mapKeywords]) (by simp)
    exact declares_block declares_nil (by simp [mapKeywords]) (by simp)
  · exact declares_comment (declares_block declares_nil (by simp [mapKeywords]) (by simp)) _

omit [Unicode] in
theorem typed_eq (type : Str) (names : List Str) :
    typed type names = (names.map hclLabel).map fun label => (type, label) := by
  rw [typed, List.map_map, List.map_eq_flatMap]
  rfl

omit [Unicode] in
/-- Addresses by type, of different types: they are unique if those of each type are. -/
theorem nodup_typed {parts : List (Str × List Str)} (htypes : (parts.map Prod.fst).Nodup) :
    (parts.flatMap fun part => typed part.1 part.2).Nodup ↔ ∀ part ∈ parts, DistinctLabels part.2 := by
  have hpart : ∀ part : Str × List Str, (typed part.1 part.2).Nodup ↔ DistinctLabels part.2 := by
    intro part
    rw [typed_eq]
    exact List.nodup_map_iff fun _ _ hsame => (Prod.mk.inj hsame).2
  have hdisjoint : parts.Pairwise fun part part' => (typed part.1 part.2).Disjoint (typed part'.1 part'.2) := by
    refine (List.pairwise_map.mp htypes).imp fun hne address haddress haddress' => hne ?_
    rw [typed_eq] at haddress haddress'
    obtain ⟨_, -, rfl⟩ := List.mem_map.mp haddress
    obtain ⟨_, -, hsame⟩ := List.mem_map.mp haddress'
    exact (Prod.mk.inj hsame).1.symm
  rw [List.nodup_flatMap]
  simp only [hpart, and_iff_left hdisjoint]

omit [Unicode] in
theorem vnetAddresses_perm (names : List Str) :
    (names.flatMap vnetAddresses).Perm (typed sdnVNetType names ++ typed sdnSubnetType names) :=
  (List.flatMap_append_perm names (fun name => [(sdnVNetType, hclLabel name)])
    fun name => [(sdnSubnetType, hclLabel name)]).symm

omit [Unicode] in
theorem resourceTypes_nodup : resourceTypes.Nodup := by
  decide +kernel

omit [Unicode] in
/-- Files that declare what these parts list, in whatever order. -/
theorem uniqueAddresses_parts {files : List (Str × List HclItem)} {parts : List (Str × List Str)}
    (htypes : (parts.map Prod.fst).Nodup)
    (hresources : (files.flatMap fun file => addressesOf file.2).Perm
      (parts.flatMap fun part => typed part.1 part.2)) :
    UniqueAddresses files ↔
      (∀ part ∈ parts, DistinctLabels part.2) ∧ ∀ file ∈ files, UniqueKeys file.2 := by
  rw [← nodup_typed htypes, ← hresources.nodup_iff]
  exact ⟨fun h => ⟨h.resources, h.keys⟩, fun h => ⟨h.1, h.2⟩⟩

/-- The guests of a kind are among the guests, in their order. -/
theorem textsAt_guestsOfKind (guests : List Json) (kind key : String) :
    Returns (guestsOfKind guests kind) fun found =>
      (textsAt found key).Sublist (textsAt guests key) := by
  refine .bind (returns_value _) fun kinds hkinds => .pure ?_
  have hsame : kinds.map Prod.snd = guests := by
    have hall := mapM_eq_ok_iff.mp hkinds
    clear hkinds
    induction hall with
    | nil => rfl
    | cons hfirst _ ih =>
        obtain ⟨_, -, hfirst⟩ := except_bind_eq_ok.mp hfirst
        cases hfirst
        rw [List.map_cons, ih]
  rw [← hsame]
  exact (List.filter_sublist.map Prod.snd).filterMap _

/-- The addresses of a workspace are unique exactly when the texts they come from have different
labels, those of each kind. -/
theorem uniqueAddresses_iff {desired profile network : Json} {vnets ipSets groups guests : List Json}
    (hnetwork : desired.getOr (str "network") .null = .ok network)
    (hvnets : listAt network "vnets" = .ok vnets) (hipSets : listAt network "ip_sets" = .ok ipSets)
    (hgroups : listAt network "security_groups" = .ok groups)
    (hguests : listAt desired "guests" = .ok guests) :
    Returns (renderWorkspace desired profile) fun files =>
      (UniqueAddresses files ↔ DistinctLabels (textsAt vnets "name") ∧
        DistinctLabels (textsAt ipSets "name") ∧ DistinctLabels (textsAt groups "name") ∧
        DistinctLabels (teamsOf vnets).dedup ∧ DistinctLabels (textsAt guests "guest_ref")) := by
  unfold renderWorkspace
  split
  · exact .throw _
  refine .bind_any fun version =>
    .bind (returns_lift (returns_value _)) fun read hread => ?_
  obtain rfl : network = read := Except.ok.inj (hnetwork.symm.trans hread)
  dsimp only
  split
  · exact .throw_bind _
  refine .bind_any fun zone => ?_
  split
  · exact .throw_bind _
  refine .bind (returns_lift (returns_value _)) fun listed hlisted =>
    .bind (returns_lift (returns_value _)) fun sorted hsorted => ?_
  obtain rfl : vnets = listed := Except.ok.inj (hvnets.symm.trans hlisted)
  split
  · exact .throw_bind _
  refine .bind (returns_lift (returns_value _)) fun listedGuests hlistedGuests =>
    .bind (returns_lift (returns_value _)) fun sortedGuests hsortedGuests => ?_
  obtain rfl : guests = listedGuests := Except.ok.inj (hguests.symm.trans hlistedGuests)
  refine .bind (returns_lift (declares_renderZone zone)) fun foundation hfoundation =>
    .bind (returns_lift (declares_renderVNets sorted)) fun range hrange =>
    .bind (returns_lift (uniqueKeys_renderSegments sorted)) fun segments hsegments =>
    .bind (returns_lift (declares_renderFirewall hipSets hgroups)) fun firewall hfirewall =>
    .bind (returns_lift (uniqueKeys_renderOutputs zone sortedGuests)) fun outputs houtputs =>
    .bind (returns_lift (textsAt_guestsOfKind sortedGuests "qemu" "guest_ref")) fun qemu hqemu =>
    .bind (returns_lift (textsAt_guestsOfKind sortedGuests "lxc" "guest_ref")) fun lxc hlxc => ?_
  split
  · exact .throw_bind _
  refine .bind (declares_renderQemuGuests qemu sorted) fun qemuFile hqemuFile =>
    .bind (declares_renderLxcFiles lxc sorted) fun lxcFiles hlxcFiles => .pure ?_
  -- what the files declare, and what their maps need
  obtain ⟨zoneName, hfoundation⟩ := hfoundation
  obtain ⟨sets, sortedGroups, hsets, hsortedGroups, hfirewall⟩ := hfirewall
  obtain ⟨lxcItems, hlxcItems, hlxcFiles⟩ := hlxcFiles
  obtain ⟨hversions, hvariables, hprovider⟩ := declares_fixed version
  have hsortedNames := textsAt_perm (perm_of_sortedOn hsorted) "name"
  have hrefs := textsAt_perm (perm_of_sortedOn hsortedGuests) "guest_ref"
  have hteams : (teamsOf sorted).dedup.Perm (teamsOf vnets).dedup :=
    ((perm_of_sortedOn hsorted).filterMap _).dedup
  rw [distinctLabels_perm hteams] at hsegments
  rw [distinctLabels_perm hrefs] at houtputs
  have hlxcAddresses : (lxcFiles.flatMap fun file => addressesOf file.2) =
      typed lxcGuestType (textsAt lxc "guest_ref") := by
    rw [← hlxcItems.addresses]
    rcases hlxcFiles with hnone | rfl
    · obtain ⟨rfl, rfl⟩ := hnone
      rfl
    · exact List.flatMap_singleton _ _
  have hlxcKeys : ∀ file ∈ lxcFiles, UniqueKeys file.2 := by
    intro file hfile
    rcases hlxcFiles with hnone | rfl
    · rw [hnone.1] at hfile
      cases hfile
    · rw [List.mem_singleton.mp hfile]
      exact hlxcItems.uniqueKeys
  have hparts := @uniqueAddresses_parts ([(str "versions.tf", renderVersions version),
    (str "variables.tf", renderVariables), (str "provider.tf", renderProvider),
    (str "network_foundation.tf", foundation), (str "network_range.tf", range),
    (str "network_segments.tf", segments), (str "firewall.tf", firewall), (str "outputs.tf", outputs),
    (str "guests_qemu.tf", qemuFile)] ++ lxcFiles)
    [(sdnZoneType, [zoneName]), (sdnVNetType, textsAt sorted "name"),
      (sdnSubnetType, textsAt sorted "name"), (securityGroupType, sortedGroups), (ipSetType, sets),
      (qemuGuestType, textsAt qemu "guest_ref"), (lxcGuestType, textsAt lxc "guest_ref")]
    resourceTypes_nodup ?_
  · rw [hparts]
    simp only [List.forall_mem_append, List.forall_mem_cons, List.not_mem_nil, false_implies, implies_true,
      hversions.uniqueKeys, hvariables.uniqueKeys, hprovider.uniqueKeys, hfoundation.uniqueKeys,
      hrange.uniqueKeys, hfirewall.uniqueKeys, hqemuFile.uniqueKeys, hsegments.2, houtputs.2,
      true_and, and_true, and_iff_left hlxcKeys, distinctLabels_perm hsets,
      distinctLabels_perm hsortedGroups, distinctLabels_perm hsortedNames]
    have hone : DistinctLabels [zoneName] := List.nodup_singleton _
    constructor
    · intro h
      obtain ⟨hresources, hteams, hguests⟩ := h
      exact ⟨hresources.2.1, hresources.2.2.2.2.1, hresources.2.2.2.1, hteams, hguests⟩
    · intro h
      obtain ⟨hvnets, hsets, hgroups, hteams, hguests⟩ := h
      have hsortedGuests := (distinctLabels_perm hrefs).mpr hguests
      exact ⟨⟨hone, hvnets, hvnets, hgroups, hsets, hsortedGuests.sublist hqemu,
        hsortedGuests.sublist hlxc⟩, hteams, hguests⟩
  · simp only [List.flatMap_append, List.flatMap_cons, hlxcAddresses, hversions.addresses,
      hvariables.addresses, hprovider.addresses, hfoundation.addresses, hrange.addresses, hsegments.1,
      hfirewall.addresses, houtputs.1, hqemuFile.addresses, List.nil_append, List.append_assoc,
      List.flatMap_nil]
    refine .append_left _ ?_
    refine (List.Perm.append_right _ (vnetAddresses_perm _)).trans ?_
    rw [List.append_assoc]
    refine .append_left _ (.append_left _ ?_)
    rw [← List.append_assoc, ← List.append_assoc (typed securityGroupType _), List.append_nil]
    exact List.Perm.append_right _ List.perm_append_comm

end

end Secp.Worker
