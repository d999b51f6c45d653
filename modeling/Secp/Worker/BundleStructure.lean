import Secp.Worker.BundleBindings
import Secp.Worker.HclStructure

/-!
# The structure of a rendered workspace

Whatever the desired state says, the trees the bundle renders are in order: their keys and keywords
are code and their labels need no escape. So a printed workspace is read back as the trees it was
printed from exactly when the texts it quotes are plain, provided that the two things the bundle
writes unquoted, the version and the ownership stamps in comments, stay in their places.
-/

namespace Secp.Worker

open Secp.Python Secp.Logic Secp.Proxmox

/-! ## Words of the bundle -/

/-- The words a nested block opens with. -/
def blockKeywords : List String :=
  ["terraform", "required_providers", "locals", "cidr", "rule", "network_device", "dns", "ip_config",
    "ipv4", "user_account", "initialization", "clone", "cpu", "memory", "disk", "network_interface"]

def resourceTypes : List Str :=
  [sdnZoneType, sdnVNetType, sdnSubnetType, securityGroupType, ipSetType, qemuGuestType,
    lxcGuestType]

/-- The other words of a file. -/
def settingWords : List String :=
  ["value", "output", "variable", "provider", "secp_segments", "local.secp_segments", "type",
    "string", "endpoint", "var.pm_endpoint", "api_token", "var.pm_api_token", "sensitive",
    "insecure", "description", "required_version", "version", "source", "vnet", "vlan", "cidr"]

/-- The names of outputs and variables. -/
def settingLabels : List String :=
  ["secp_zone", "secp_segments", "secp_published_addresses", "secp_probe_addresses",
    "secp_guest_ids", "pm_endpoint", "pm_api_token"]

/-- The characters of a literal, without computing them. -/
theorem str_ofList (chars : List Char) : str (String.ofList chars) = chars := by
  unfold str
  exact String.toList_ofList

theorem codeText_resourceKeys : ∀ key ∈ resourceKeys, CodeText (str key) := by with_unfolding_all decide

theorem codeText_blockKeywords : ∀ key ∈ blockKeywords, CodeText (str key) := by with_unfolding_all decide

@[simp] theorem codeText_settingWords :
    ∀ word ∈ settingWords, CodeText (str word) := by with_unfolding_all decide

@[simp] theorem rawText_settingLabels :
    ∀ label ∈ settingLabels, RawText (str label) := by with_unfolding_all decide

@[simp] theorem inOrder_providerLocalName : CodeText providerLocalName ∧ RawText providerLocalName := by
  with_unfolding_all decide

@[simp] theorem rawText_providerPin : RawText (str "= " ++ providerVersion) := by with_unfolding_all decide

theorem codeText_resource : CodeText (str "resource") := by
  rw [str_ofList]
  decide

@[simp] theorem mem_resourceTypes : sdnZoneType ∈ resourceTypes ∧ sdnVNetType ∈ resourceTypes ∧
    sdnSubnetType ∈ resourceTypes ∧ securityGroupType ∈ resourceTypes ∧
    ipSetType ∈ resourceTypes ∧ qemuGuestType ∈ resourceTypes ∧ lxcGuestType ∈ resourceTypes := by
  simp [resourceTypes]

theorem inOrder_resourceTypes : ∀ type ∈ resourceTypes, CodeText type ∧ RawText type := by
  decide +kernel

/-- The characters of a label. -/
def isLabelChar (c : Char) : Bool := isAsciiLetter c || isAsciiDigit c || c = '_'

/-- A text with everything else replaced. -/
def labelText (value : Str) : Str := value.map fun c => if isLabelChar c then c else '_'

/-- Whether a text opens with what a label may open with once everything else is replaced. -/
def opensLabel : Str → Bool
  | c :: _ => !isAsciiDigit c
  | [] => false

/-- A label is the text with everything else replaced, with two characters put before it if it
does not open with a letter or an underscore. -/
theorem hclLabel_eq (value : Str) :
    hclLabel value = (if opensLabel value then [] else str "r_") ++ labelText value := by
  have hcleaned : subChars (fun c => !(isAsciiLetter c || isAsciiDigit c || c = '_')) '_' value =
      labelText value := by
    refine List.map_congr_left fun c _ => ?_
    show (if (!isLabelChar c) = true then '_' else c) = if isLabelChar c = true then c else '_'
    cases isLabelChar c <;> rfl
  unfold hclLabel
  rw [hcleaned]
  cases value with
  | nil => simp [labelText, opensLabel]
  | cons c rest =>
      have hhead : labelText (c :: rest) =
          (if isLabelChar c then c else '_') :: labelText rest := rfl
      rw [hhead, opensLabel]
      dsimp only
      by_cases hdigit : isAsciiDigit c = true
      · -- a digit is kept, and it is neither a letter nor an underscore
        have hletter : isAsciiLetter c = false ∧ c ≠ '_' := by
          simp only [isAsciiDigit, Bool.and_eq_true, decide_eq_true_eq] at hdigit
          refine ⟨?_, ?_⟩
          · simp [isAsciiLetter, isAsciiLower, isAsciiUpper]
            omega
          · rintro rfl
            have : '_'.toNat = 95 := rfl
            omega
        simp [isLabelChar, hdigit, hletter]
      · rw [Bool.not_eq_true] at hdigit
        by_cases hlabel : isLabelChar c = true
        · have hopens : (isAsciiLetter c || decide (c = '_')) = true := by
            simpa [isLabelChar, hdigit] using hlabel
          rw [if_pos hlabel, if_pos hopens, hdigit]
          rfl
        · rw [if_neg hlabel, hdigit]
          rfl

theorem isLabelChar_of_mem_hclLabel {value : Str} {c : Char} (h : c ∈ hclLabel value) :
    isLabelChar c = true := by
  have hprefix : (str "r_").all isLabelChar = true := by
    rw [str_ofList]
    decide
  rw [hclLabel_eq] at h
  rcases List.mem_append.mp h with h | h
  · split at h
    · cases h
    · exact List.all_eq_true.mp hprefix c h
  · obtain ⟨d, _, rfl⟩ := List.mem_map.mp h
    split
    · assumption
    · rfl

/-- A character of a label is none that means something in code or between quotes. -/
theorem ne_of_isLabelChar {c d : Char} (h : isLabelChar c = true) (hd : isLabelChar d = false) :
    c ≠ d := by
  rintro rfl
  rw [h] at hd
  cases hd

theorem codeText_hclLabel (value : Str) : CodeText (hclLabel value) := by
  intro c hc
  have hlabel := isLabelChar_of_mem_hclLabel hc
  have hne : ∀ d, isLabelChar d = false → c ≠ d := fun d => ne_of_isLabelChar hlabel
  simp [isCodeChar, hne '"' rfl, hne '#' rfl, hne '/' rfl, hne '<' rfl]

theorem rawText_hclLabel (value : Str) : RawText (hclLabel value) := by
  have hne : ∀ c ∈ hclLabel value, ∀ d, isLabelChar d = false → c ≠ d :=
    fun c hc d => ne_of_isLabelChar (isLabelChar_of_mem_hclLabel hc)
  have hmem : ∀ d, isLabelChar d = false → d ∉ hclLabel value :=
    fun d hd h => hne d h d hd rfl
  refine ⟨⟨fun c hc => ?_, ?_⟩, hmem '"' rfl, hmem '\\' rfl⟩
  · simp [isLineBreak, hne c hc '\n' rfl, hne c hc '\r' rfl]
  · -- no mark occurs at all
    have hmark : ∀ c ∈ hclLabel value, isMark c = false := by
      intro c hc
      simp [isMark, hne c hc '$' rfl, hne c hc '%' rfl]
    generalize hclLabel value = label at hmark
    induction label with
    | nil => exact .nil
    | cons c rest ih =>
        obtain ⟨hc, hrest⟩ := List.forall_mem_cons.mp hmark
        cases rest with
        | nil => exact .singleton c
        | cons d rest =>
            refine .cons_cons ?_ (ih hrest)
            rw [hc]
            simp

/-! ## Items -/

section
variable {key : String} {width : Nat} {body : List HclItem}

theorem inOrder_attribute {key : Str} {value : HclValue} :
    (HclItem.attribute width key value).InOrder ↔ CodeText key ∧ value.InOrder := by
  rw [HclItem.InOrder]

theorem inOrder_object {key : Str} :
    (HclItem.object key body).InOrder ↔ CodeText key ∧ ItemsInOrder body := by
  rw [HclItem.InOrder]

theorem inOrder_labelled {keyword label : Str} :
    (HclItem.block keyword [label] body).InOrder ↔
      CodeText keyword ∧ RawText label ∧ ItemsInOrder body := by
  rw [HclItem.InOrder]
  simp

@[simp] theorem inOrder_textAttribute {value : Str} (h : key ∈ resourceKeys) :
    (textAttribute width key value).InOrder := by
  rw [textAttribute, HclItem.InOrder]
  exact ⟨codeText_resourceKeys key h, trivial⟩

@[simp] theorem inOrder_numberAttribute {value : Int} (h : key ∈ resourceKeys) :
    (numberAttribute width key value).InOrder := by
  rw [numberAttribute, HclItem.InOrder]
  exact ⟨codeText_resourceKeys key h, trivial⟩

@[simp] theorem inOrder_flagAttribute {value : Bool} (h : key ∈ resourceKeys) :
    (flagAttribute width key value).InOrder := by
  rw [flagAttribute, HclItem.InOrder]
  exact ⟨codeText_resourceKeys key h, trivial⟩

@[simp] theorem inOrder_listAttribute {values : List Str} (h : key ∈ resourceKeys) :
    (listAttribute width key values).InOrder := by
  rw [listAttribute, HclItem.InOrder]
  exact ⟨codeText_resourceKeys key h, trivial⟩

@[simp] theorem inOrder_nested (h : key ∈ blockKeywords) :
    (nested key body).InOrder ↔ ItemsInOrder body := by
  rw [nested, HclItem.InOrder]
  simp [codeText_blockKeywords key h]

@[simp] theorem inOrder_resource {type value : Str} (h : type ∈ resourceTypes) :
    (resource type (hclLabel value) body).InOrder ↔ ItemsInOrder body := by
  rw [resource, HclItem.InOrder]
  simp [codeText_resource, (inOrder_resourceTypes type h).2, rawText_hclLabel]

@[simp] theorem inOrder_comment_iff {text : Str} :
    (HclItem.comment text).InOrder ↔ '\n' ∉ text := by
  rw [HclItem.InOrder]

@[simp] theorem inOrder_blank : HclItem.blank.InOrder := by
  rw [HclItem.InOrder]
  trivial

theorem newline_not_mem_str {chars : List Char} (h : '\n' ∉ chars) :
    '\n' ∉ str (String.ofList chars) := by
  rw [str_ofList]
  exact h

@[simp] theorem inOrder_comments_nil : ItemsInOrder (comments []) := itemsInOrder_nil

@[simp] theorem inOrder_comments_cons {line : String} {lines : List String} (h : '\n' ∉ str line) :
    ItemsInOrder (comments (line :: lines)) ↔ ItemsInOrder (comments lines) := by
  simp [comments, h]

@[simp] theorem inOrder_header : header.InOrder := inOrder_comment_iff.mpr (by with_unfolding_all decide)

theorem itemsInOrder_ite {c : Prop} [Decidable c] {a b : List HclItem} :
    ItemsInOrder (if c then a else b) ↔ (c → ItemsInOrder a) ∧ (¬c → ItemsInOrder b) := by
  split <;> simp [*]

end

/-! ## The files -/

section
variable [Unicode]

/-- The ownership stamp of an object, as a comment holds it. -/
def stampOf (payload : Json) : Except PayloadError Str := do
  ownershipComment (← ownershipOf payload)

/-- The object's stamp stays on its line. -/
def StampOnLine (payload : Json) : Prop := ∀ stamp, stampOf payload = .ok stamp → '\n' ∉ stamp

/-- Reading the stamp in two steps, of which the second gives one line. -/
theorem StampOnLine.returns {payload : Json} (h : StampOnLine payload) {α : Type} {P : α → Prop}
    {f : Str → Except PayloadError α} (hf : ∀ stamp, '\n' ∉ stamp → Returns (f stamp) P) :
    Returns (do let owner ← ownershipOf payload
                let stamp ← ownershipComment owner
                f stamp) P := by
  intro a ha
  obtain ⟨owner, howner, ha⟩ := except_bind_eq_ok.mp ha
  obtain ⟨stamp, hstamp, ha⟩ := except_bind_eq_ok.mp ha
  exact hf stamp (h stamp (except_bind_eq_ok.mpr ⟨owner, howner, hstamp⟩)) a ha

theorem inOrder_renderMtu (zone : Json) : Returns (renderMtu zone) ItemsInOrder := by
  refine .bind_any fun found => ?_
  split
  · exact .pure itemsInOrder_nil
  · refine .bind_any fun mtu => .pure ?_
    simp (disch := decide)

theorem inOrder_renderZone {zone : Json} (h : StampOnLine zone) :
    Returns (renderZone zone) ItemsInOrder := by
  refine .bind_any fun label => .bind_any fun name => .bind_any fun listed => .bind_any fun nodes =>
    .bind_any fun bridge => .bind (inOrder_renderMtu zone) fun mtu hmtu =>
      h.returns fun stamp hstamp => .pure ?_
  simp (disch := first | decide | simp | exact newline_not_mem_str (by decide))
    [hmtu, hstamp]

theorem inOrder_renderVNet {vnet : Json} (h : StampOnLine vnet) :
    Returns (renderVNet vnet) ItemsInOrder := by
  refine .bind_any fun label => .bind_any fun subnet => .bind_any fun name =>
    .bind_any fun zoneName => .bind_any fun tag => .bind_any fun vnetAlias =>
      h.returns fun stamp hstamp => .bind_any fun cidr => .bind_any fun gateway =>
        .bind_any fun routed => .pure ?_
  have htype : CodeText sdnVNetType :=
    (inOrder_resourceTypes _ (by simp)).1
  have hreference : (HclItem.attribute 4 (str "vnet")
      (.scalar (.resource sdnVNetType (hclLabel label) (str "id")))).InOrder := by
    rw [HclItem.InOrder]
    exact ⟨codeText_resourceKeys "vnet" (by decide), htype, codeText_hclLabel label,
      codeText_resourceKeys "id" (by decide)⟩
  simp (disch := first | decide | simp)
    [hstamp, itemsInOrder_ite, hreference]

theorem inOrder_renderVNets {vnets : List Json} (h : ∀ vnet ∈ vnets, StampOnLine vnet) :
    Returns (renderVNets vnets) ItemsInOrder := by
  have hall : Returns (vnets.mapM renderVNet) fun parts => ∀ part ∈ parts, ItemsInOrder part := by
    intro parts hparts part hpart
    obtain ⟨vnet, hvnet, hrendered⟩ := forall₂_exists_left (mapM_eq_ok_iff.mp hparts) hpart
    exact inOrder_renderVNet (h vnet hvnet) part hrendered
  refine .bind hall fun rendered hrendered => .pure ?_
  simp (disch := first | decide | exact newline_not_mem_str (by decide))
    [itemsInOrder_flatten.mpr hrendered]

theorem inOrder_renderSegment (vnet : Json) : Returns (renderSegment vnet) HclItem.InOrder := by
  refine .bind_any fun role => .bind_any fun name => .bind_any fun tag => .bind_any fun subnet =>
    .bind_any fun cidr => .pure ?_
  simp (disch := decide) [inOrder_attribute, HclValue.InOrder, HclScalar.InOrder,
    codeText_hclLabel]

theorem inOrder_renderSegments (vnets : List Json) :
    Returns (renderSegments vnets) ItemsInOrder := by
  refine .bind_any fun byTeam =>
    .bind (.mapM (Q := HclItem.InOrder) (fun team => ?_) _) fun teams hteams => .pure ?_
  · refine .bind_any fun members => .bind (.mapM inOrder_renderSegment members)
      fun segments hsegments => .pure ?_
    exact inOrder_object.mpr ⟨codeText_hclLabel team, itemsInOrder_iff.mpr hsegments⟩
  · simp (disch := decide) [inOrder_object, itemsInOrder_iff.mpr hteams]

theorem inOrder_renderIpSet (ipSet : Json) : Returns (renderIpSet ipSet) ItemsInOrder := by
  refine .bind_any fun label => .bind_any fun name => .bind_any fun comment =>
    .bind_any fun listed => .bind_any fun cidrs => .pure ?_
  have hcidrs : ItemsInOrder
      (cidrs.map fun cidr => nested "cidr" [textAttribute 4 "name" (literal cidr)]) := by
    refine itemsInOrder_iff.mpr fun item hitem => ?_
    obtain ⟨cidr, _, rfl⟩ := List.mem_map.mp hitem
    simp (disch := decide)
  simp (disch := first | decide | simp) [hcidrs]

theorem inOrder_optionalAt (rule : Json) {key : String} (hkey : key ∈ resourceKeys) :
    Returns (optionalAt rule key) ItemsInOrder := by
  refine .bind_any fun value => .pure ?_
  split
  · simp [inOrder_textAttribute hkey]
  · exact itemsInOrder_nil

theorem inOrder_renderRule (rule : Json) : Returns (renderRule rule) ItemsInOrder := by
  refine .bind_any fun direction => .bind_any fun verdict => .bind_any fun comment =>
    .bind (inOrder_optionalAt rule (by decide)) fun source hsource =>
    .bind (inOrder_optionalAt rule (by decide)) fun dest hdest =>
    .bind (inOrder_optionalAt rule (by decide)) fun proto hproto =>
    .bind (inOrder_optionalAt rule (by decide)) fun dport hdport =>
    .bind_any fun enabled => .pure ?_
  simp (disch := decide) [hsource, hdest, hproto, hdport]

theorem inOrder_renderSecurityGroup (group : Json) :
    Returns (renderSecurityGroup group) ItemsInOrder := by
  refine .bind_any fun label => .bind_any fun name => .bind_any fun comment =>
    .bind_any fun listed => .bind_any fun rules =>
      .bind (.mapM inOrder_renderRule rules) fun rendered hrendered => .pure ?_
  simp (disch := first | decide | simp)
    [itemsInOrder_flatten.mpr hrendered]

theorem inOrder_renderFirewall (network : Json) :
    Returns (renderFirewall network) ItemsInOrder := by
  refine .bind_any fun listedSets => .bind_any fun ipSets =>
    .bind (.mapM inOrder_renderIpSet ipSets) fun sets hsets =>
    .bind_any fun listedGroups => .bind_any fun securityGroups =>
    .bind (.mapM inOrder_renderSecurityGroup securityGroups) fun groups hgroups => .pure ?_
  simp (disch := first | decide | simp | exact newline_not_mem_str (by decide))
    [itemsInOrder_flatten.mpr hsets,
    itemsInOrder_flatten.mpr hgroups]

/-! ## Guests -/

theorem inOrder_renderNetworkDevice (guest : Json) (index : Dict Str Json) (nic : Json) :
    Returns (renderNetworkDevice guest index nic) HclItem.InOrder := by
  refine .bind_any fun name => .bind_any fun mac => .bind_any fun model => .bind_any fun firewall =>
    .pure ?_
  simp (disch := decide)

theorem inOrder_renderNetworkDevices (guest : Json) (index : Dict Str Json) :
    Returns (renderNetworkDevices guest index) ItemsInOrder := by
  refine .bind_any fun nics => ?_
  intro items hitems
  exact itemsInOrder_iff.mpr
    (Returns.mapM (inOrder_renderNetworkDevice guest index) nics items hitems)

theorem inOrder_renderServers (cloudInit : Json) (width : Nat) :
    Returns (renderServers cloudInit width) ItemsInOrder := by
  refine .bind_any fun nameservers => ?_
  split
  · refine .bind_any fun listed => .pure ?_
    simp (disch := decide)
  · exact .pure itemsInOrder_nil

theorem inOrder_renderCloudInit (guest cloudInit : Json) (index : Dict Str Json) :
    Returns (renderCloudInit guest cloudInit index) ItemsInOrder := by
  refine .bind_any fun keys => .bind_any fun _ => .bind_any fun nics => ?_
  split
  · exact .bind_any fun ref => .throw _
  · refine .bind_any fun name => .bind_any fun vnet => .bind_any fun subnet => .bind_any fun addr =>
      .bind_any fun published => .bind_any fun cidr => .bind_any fun len => .bind_any fun search =>
      .bind (returns_lift (inOrder_renderServers cloudInit 0)) fun servers hservers => ?_
    refine .bind_any fun routed => .bind_any fun gateway => .bind_any fun user =>
      .bind_any fun sorted => .pure ?_
    simp (disch := decide) [itemsInOrder_ite, hservers]

theorem inOrder_renderAccount (guest : Json) (index : Dict Str Json) :
    Returns (renderAccount guest index) ItemsInOrder := by
  refine .bind_any fun cloudInit => ?_
  split
  · refine .bind (inOrder_renderCloudInit guest cloudInit index) fun items hitems => .pure ?_
    simpa using hitems
  · exact .pure itemsInOrder_nil

theorem inOrder_renderDisk (disk : Json) : Returns (renderDisk disk) HclItem.InOrder := by
  refine .bind_any fun slot => .bind_any fun storage => .bind_any fun size =>
    .bind_any fun discard => .bind_any fun ssd => .pure ?_
  simp (disch := decide)

theorem inOrder_renderDisks (guest : Json) : Returns (renderDisks guest) ItemsInOrder := by
  refine .bind_any fun disks => ?_
  intro items hitems
  exact itemsInOrder_iff.mpr (Returns.mapM inOrder_renderDisk disks items hitems)

theorem inOrder_renderQemuGuest (index : Dict Str Json) (guest : Json) :
    Returns (renderQemuGuest index guest) ItemsInOrder := by
  refine .bind_any fun label => .bind_any fun name => .bind_any fun vmid => .bind_any fun node =>
    .bind_any fun started => .bind_any fun owner => .bind_any fun tags => .bind_any fun stamp =>
    .bind_any fun template => .bind_any fun strategy => .bind_any fun cores =>
    .bind_any fun memory => .bind (returns_lift (inOrder_renderDisks guest)) fun disks hdisks =>
    .bind (inOrder_renderNetworkDevices guest index) fun devices hdevices =>
    .bind (inOrder_renderAccount guest index) fun account haccount => .pure ?_
  simp (disch := first | decide | simp)
    [hdisks, hdevices, haccount]

theorem inOrder_renderQemuGuests (guests vnets : List Json) :
    Returns (renderQemuGuests guests vnets) ItemsInOrder := by
  refine .bind_any fun index => ?_
  split
  · refine .pure ?_
    simp (disch := first | decide | exact newline_not_mem_str (by decide))
  · refine .bind (.mapM (inOrder_renderQemuGuest index) guests) fun rendered hrendered =>
      .pure ?_
    simp [itemsInOrder_flatten.mpr hrendered]

theorem inOrder_renderLxcDisk (disk : Json) : Returns (renderLxcDisk disk) ItemsInOrder := by
  refine .bind_any fun storage => .bind_any fun size => .pure ?_
  simp (disch := decide)

theorem inOrder_renderLxcDisks (guest : Json) : Returns (renderLxcDisks guest) ItemsInOrder := by
  refine .bind_any fun disks => .bind (.mapM inOrder_renderLxcDisk disks) fun items hitems =>
    .pure ?_
  exact itemsInOrder_flatten.mpr hitems

theorem inOrder_renderNetworkInterface (guest : Json) (index : Dict Str Json) (nic : Json) :
    Returns (renderNetworkInterface guest index nic) HclItem.InOrder := by
  refine .bind_any fun name => .bind_any fun number => .bind_any fun mac =>
    .bind_any fun firewall => .pure ?_
  simp (disch := decide)

theorem inOrder_renderLxcGuest (index : Dict Str Json) (guest : Json) :
    Returns (renderLxcGuest index guest) ItemsInOrder := by
  refine .bind_any fun label => .bind_any fun vmid => .bind_any fun node =>
    .bind_any fun started => .bind_any fun owner => .bind_any fun tags => .bind_any fun template =>
    .bind_any fun cores => .bind_any fun memory =>
    .bind (returns_lift (inOrder_renderLxcDisks guest)) fun disks hdisks =>
    .bind_any fun nics => .bind (.mapM (inOrder_renderNetworkInterface guest index) nics)
      fun interfaces hinterfaces => .pure ?_
  simp (disch := first | decide | simp)
    [hdisks, itemsInOrder_iff.mpr hinterfaces]

theorem inOrder_renderLxcFiles (lxc vnets : List Json) :
    Returns (renderLxcFiles lxc vnets) fun files => ∀ file ∈ files, ItemsInOrder file.2 := by
  unfold renderLxcFiles
  split
  · exact .pure (by simp)
  · refine .bind (P := ItemsInOrder) ?_ fun items hitems => .pure ?_
    · refine .bind_any fun index => .bind (.mapM (inOrder_renderLxcGuest index) lxc)
        fun rendered hrendered => .pure ?_
      simp [itemsInOrder_flatten.mpr hrendered]
    · simpa using hitems

/-! ## Outputs and fixed files -/

omit [Unicode] in
theorem inOrder_addressOutput {name : String} (hname : name ∈ settingLabels)
    (addresses : Dict Str Str) : (addressOutput name addresses).InOrder := by
  have hentries : ItemsInOrder ((sortedBy Prod.fst addresses).map fun entry =>
      .attribute 0 (hclLabel entry.1) (.scalar (.text entry.2))) := by
    refine itemsInOrder_iff.mpr fun item hitem => ?_
    obtain ⟨entry, _, rfl⟩ := List.mem_map.mp hitem
    exact inOrder_attribute.mpr ⟨codeText_hclLabel _, trivial⟩
  simp (disch := first | decide | assumption) [addressOutput, inOrder_labelled, inOrder_object,
    hentries]

theorem inOrder_renderOutputs (zone : Json) (guests : List Json) :
    Returns (renderOutputs zone guests) ItemsInOrder := by
  refine .bind_any fun zoneName => .bind_any fun published => .bind_any fun probe =>
    .bind_any fun sorted => .bind (.mapM (Q := HclItem.InOrder) (fun guest => ?_) _)
      fun ids hids => .pure ?_
  · refine .bind_any fun ref => .bind_any fun vmid => .pure ?_
    exact inOrder_attribute.mpr ⟨codeText_hclLabel ref, trivial⟩
  simp (disch := first | decide | exact newline_not_mem_str (by decide))
    [inOrder_labelled, inOrder_object, textAttribute, symbolAttribute, inOrder_attribute,
    HclValue.InOrder, HclScalar.InOrder, inOrder_addressOutput, itemsInOrder_iff.mpr hids]

omit [Unicode] in
theorem inOrder_renderVersions {version : Str} (h : RawText (str "= " ++ version)) :
    ItemsInOrder (renderVersions version) := by
  simp (disch := decide) [renderVersions, inOrder_object, inOrder_attribute, textAttribute,
    HclValue.InOrder, HclScalar.InOrder, h]

omit [Unicode] in
theorem inOrder_renderVariables : ItemsInOrder renderVariables := by
  simp (disch := first | decide | exact newline_not_mem_str (by decide))
    [renderVariables, inOrder_labelled, textAttribute, symbolAttribute, flagAttribute,
    inOrder_attribute, HclValue.InOrder, HclScalar.InOrder]

omit [Unicode] in
theorem inOrder_renderProvider : ItemsInOrder renderProvider := by
  simp (disch := decide) [renderProvider, inOrder_labelled, symbolAttribute, flagAttribute,
    inOrder_attribute, HclValue.InOrder, HclScalar.InOrder]

/-! ## The workspace -/

omit [Unicode] in
theorem returns_value {ε α : Type} (c : Except ε α) : Returns c fun a => c = .ok a :=
  fun _ h => h

omit [Unicode] in
/-- Sorting returns a rearrangement of what it is given. -/
theorem perm_of_sortedOn {κ : Type} [Ord κ] [Std.TransOrd κ] {key : Json → Except PayloadError κ}
    {items sorted : List Json} (h : sortedOn key items = .ok sorted) : sorted.Perm items := by
  obtain ⟨keyed, hkeyed, hsorted⟩ := except_bind_eq_ok.mp h
  cases hsorted
  refine ((sortedBy_perm _ _).map _).trans (List.Perm.of_eq ?_)
  have hpairs := mapM_eq_ok_iff.mp hkeyed
  clear h hkeyed
  induction hpairs with
  | nil => rfl
  | cons hfirst _ ih =>
      obtain ⟨k, _, hfirst⟩ := except_bind_eq_ok.mp hfirst
      cases hfirst
      rw [List.map_cons, ih]

/-- What the bundle writes without quoting it stays in its place: the version it requires, and the
ownership stamps of the zone and the segments. -/
structure UnquotedInPlace (desiredState profile : Json) : Prop where
  version : ∀ version, checkProfile profile = .ok version → RawText (str "= " ++ version)
  stamps : ∀ network zone vnets, desiredState.getOr (str "network") .null = .ok network →
    network.getOr (str "zone") .null = .ok zone → listAt network "vnets" = .ok vnets →
      ∀ payload ∈ zone :: vnets, StampOnLine payload

/-- Every file of a workspace is in order. -/
theorem inOrder_renderWorkspace {desiredState profile : Json}
    (h : UnquotedInPlace desiredState profile) :
    Returns (renderWorkspace desiredState profile) fun files =>
      ∀ file ∈ files, ItemsInOrder file.2 := by
  unfold renderWorkspace
  split
  · exact .throw _
  refine .bind (returns_value _) fun version hversion =>
    .bind (returns_lift (returns_value _)) fun network hnetwork => ?_
  dsimp only
  split
  · exact .throw_bind _
  refine .bind (returns_lift (returns_value _)) fun zone hzone => ?_
  split
  · exact .throw_bind _
  refine .bind (returns_lift (returns_value _)) fun listed hlisted =>
    .bind (returns_lift (returns_value _)) fun vnets hvnets => ?_
  split
  · exact .throw_bind _
  have hstamps := h.stamps network zone listed hnetwork hzone hlisted
  have hvnetStamps : ∀ vnet ∈ vnets, StampOnLine vnet := fun vnet hvnet =>
    hstamps vnet (List.mem_cons_of_mem _ ((perm_of_sortedOn hvnets).mem_iff.mp hvnet))
  refine .bind_any fun listedGuests => .bind_any fun guests =>
    .bind (returns_lift (inOrder_renderZone (hstamps zone List.mem_cons_self)))
      fun foundation hfoundation =>
    .bind (returns_lift (inOrder_renderVNets hvnetStamps)) fun range hrange =>
    .bind (returns_lift (inOrder_renderSegments vnets)) fun segments hsegments =>
    .bind (returns_lift (inOrder_renderFirewall network)) fun firewall hfirewall =>
    .bind (returns_lift (inOrder_renderOutputs zone guests)) fun outputs houtputs =>
    .bind_any fun qemu => .bind_any fun lxc => ?_
  split
  · exact .throw_bind _
  refine .bind (inOrder_renderQemuGuests qemu vnets) fun qemuFile hqemu =>
    .bind (inOrder_renderLxcFiles lxc vnets) fun lxcFiles hlxc => .pure ?_
  intro file hfile
  rcases List.mem_append.mp hfile with hfile | hfile
  · simp only [List.mem_cons, List.not_mem_nil, or_false] at hfile
    rcases hfile with rfl | rfl | rfl | rfl | rfl | rfl | rfl | rfl | rfl
    · exact inOrder_renderVersions (h.version version hversion)
    · exact inOrder_renderVariables
    · exact inOrder_renderProvider
    · exact hfoundation
    · exact hrange
    · exact hsegments
    · exact hfirewall
    · exact houtputs
    · exact hqemu
  · exact hlxc file hfile

/-- A quoted text reads back as itself, and as nothing else, exactly when it is plain: no line
break, and no `$` or `%` right before a brace. So a rendered workspace is read with the structure
it was printed from exactly when every text it quotes is plain. -/
theorem readsBack_iff_plain :
    (∀ value : Str, readHcl (hclText value) = some [.literal value] ↔ Plain value) ∧
    ∀ desiredState profile files, UnquotedInPlace desiredState profile →
      renderWorkspace desiredState profile = .ok files →
        ((∀ file ∈ files, readHcl (printItems 0 file.2) = some (structureOf file.2)) ↔
          ∀ file ∈ files, ∀ s, Quotes file.2 s → Plain s) := by
  refine ⟨readHcl_hclText_iff, fun desiredState profile files hplace hfiles => ?_⟩
  have horder := inOrder_renderWorkspace hplace files hfiles
  exact forall₂_congr fun file hfile => readHcl_printItems_iff (horder file hfile)

/-- Whether what the bundle writes without quoting it stays in its place, evaluated. -/
def unquotedInPlace (desiredState profile : Json) : Bool :=
  let payloads := do
    let network ← desiredState.getOr (str "network") .null
    let zone ← network.getOr (str "zone") .null
    pure (zone :: (← listAt network "vnets"))
  (checkProfile profile).toOption.all (fun version => decide (RawText (str "= " ++ version))) &&
    payloads.toOption.all fun listed => listed.all fun payload =>
      (stampOf payload).toOption.all fun stamp => decide ('\n' ∉ stamp)

theorem unquotedInPlace_of_eq_true {desiredState profile : Json}
    (h : unquotedInPlace desiredState profile = true) : UnquotedInPlace desiredState profile := by
  obtain ⟨hversion, hstamps⟩ := Bool.and_eq_true_iff.mp h
  refine ⟨fun version hprofile => ?_, fun network zone vnets hnetwork hzone hvnets => ?_⟩
  · rw [hprofile] at hversion
    exact of_decide_eq_true hversion
  · have hlisted : (do
        let network ← desiredState.getOr (str "network") .null
        let zone ← network.getOr (str "zone") .null
        pure (zone :: (← listAt network "vnets"))) = Except.ok (ε := PayloadError) (zone :: vnets) := by
      rw [hnetwork, except_bind_of_ok rfl, hzone, except_bind_of_ok rfl, hvnets]
      rfl
    rw [hlisted] at hstamps
    intro payload hpayload stamp hstamp
    have hall := List.all_eq_true.mp hstamps payload hpayload
    rw [hstamp] at hall
    exact of_decide_eq_true hall

end

/-! ## The sample range -/

/-- Whether a network and the workload on it both end in a plan whose workspace renders, with what
it leaves unquoted in its place. -/
def rendersInPlace [Unicode]
    (network : Except Raised (CompileOutcome SegregatedNetworkPlan × AllocationLedger))
    (workload : SegregatedNetworkPlan → AllocationLedger →
      Except Raised (CompileOutcome WorkloadPlan × AllocationLedger)) (profile : Json) : Bool :=
  match network with
  | .ok (.plan plan, ledger) =>
      match workload plan ledger with
      | .ok (.plan compiled, ledger) =>
          let payload := toManifestPayload compiled.topology (some ledger)
          (renderWorkspace payload profile).isOk && unquotedInPlace payload profile
      | _ => false
  | _ => false

theorem exists_of_rendersInPlace [Unicode]
    {network : Except Raised (CompileOutcome SegregatedNetworkPlan × AllocationLedger)}
    {workload : SegregatedNetworkPlan → AllocationLedger →
      Except Raised (CompileOutcome WorkloadPlan × AllocationLedger)} {profile : Json}
    (h : rendersInPlace network workload profile = true) :
    ∃ payload files, UnquotedInPlace payload profile ∧
      renderWorkspace payload profile = .ok files := by
  unfold rendersInPlace at h
  split at h
  · split at h
    · obtain ⟨hfiles, hplace⟩ := Bool.and_eq_true_iff.mp h
      obtain ⟨files, hfiles⟩ := exists_of_isOk hfiles
      exact ⟨_, files, unquotedInPlace_of_eq_true hplace, hfiles⟩
    · cases h
  · cases h

theorem sampleRange_rendersInPlace : @rendersInPlace Unicode.ascii
    (@compileWebBreachLab Unicode.ascii (sampleRequest none) equippedObservation
      AllocationLedger.empty)
    (fun network ledger => @compileWorkload Unicode.ascii sampleWorkload network
      equippedObservation ledger) sampleProfile = true := by decide +kernel

/-- The sample range is read back as it was printed exactly when the texts it quotes are plain. -/
theorem sample_readsBack : ∃ payload files,
    @renderWorkspace Unicode.ascii payload sampleProfile = .ok files ∧
    ((∀ file ∈ files, readHcl (printItems 0 file.2) = some (structureOf file.2)) ↔
      ∀ file ∈ files, ∀ s, Quotes file.2 s → Plain s) := by
  let _ := Unicode.ascii
  obtain ⟨payload, files, hplace, hfiles⟩ := exists_of_rendersInPlace sampleRange_rendersInPlace
  exact ⟨payload, files, hfiles, readsBack_iff_plain.2 payload sampleProfile files hplace hfiles⟩

/-- A justification with a name in braces behind a dollar is evaluated, not quoted. -/
theorem interpolation_not_readsBack :
    ¬(∀ value : Str, readHcl (hclText value) = some [.literal value]) := by
  intro h
  exact absurd (h (str "${path.root}")) (by with_unfolding_all decide)

end Secp.Worker
