import Secp.Logic.StateExcept
import Secp.Python.Collections
import Secp.Python.Findall
import Secp.Worker.HclBlocks

/-!
# The scan of a rendered workspace

Before a workspace is handed to a real process its files are searched for everything a plan must not
contain, with substrings and regular expressions. The patterns know one spelling of a block: a keyword,
whitespace and quoted labels, for `provisioner` and `backend` with a single space. A block that is
spelled otherwise, or whose header an earlier match runs into, is not seen.
-/

namespace Secp.Worker

open Secp.Python Secp.Logic

/-! ## Patterns -/

/-- `CONTROLLED_LIVE_RENDER_SCANNER_VERSION`. -/
def controlledLiveRenderScannerVersion : Str := str "secp-002b-1b-pr5b/controlled-live-render-scan/v1"

/-- `CONTROLLED_LIVE_PROVIDER_SOURCE`. -/
def controlledLiveProviderSource : Str := str "bpg/proxmox"

/-- `_FAKE_IDENTIFIERS`. -/
def fakeIdentifiers : List Str :=
  [str "example.test", str "fake/labproxmox", str "labproxmox", str "0.0.0-fake", str "labfake_"]

/-- `_FORBIDDEN_CONSTRUCTS`. -/
def forbiddenConstructs : List Str :=
  [str "provisioner \"", str "local-exec", str "remote-exec", str "data \"external\"",
    str "data \"http\"", str "backend \"local\"", str "file(", str "templatefile(", str "fileexists(",
    str "abspath(", str "pathexpand(", str "getenv(", str "$$\x7b"]

/-- `[a-z0-9_]` under `(?i)`: four characters outside ASCII fold to letters. -/
def isIdentifierIgnoringCase (c : Char) : Bool :=
  isAsciiLower (asciiLower c) || isAsciiDigit c || c = '_' || c.toNat = 0x130 || c.toNat = 0x131 ||
    c.toNat = 0x17F || c.toNat = 0x212A

section
variable [Unicode]

/-- `\s*=\s*"`. -/
def assignsQuoted : List Re :=
  [.many isSpace 0 none, .word ['='], .many isSpace 0 none, .word ['"']]

/-- `_REMOTE_SOURCE_RE`. -/
def remoteSourceRe : Re :=
  .all (.wordIgnoringCase (str "source") :: assignsQuoted ++
    [.many (fun c => c ≠ '"') 0 none,
      .alt (.word (str "://")) (.alt (.wordIgnoringCase (str "registry."))
        (.alt (.wordIgnoringCase (str "github.com")) (.wordIgnoringCase (str "git::"))))])

/-- A word, `[_-]?` and `key`. -/
def keyRe (word : Str) : Re :=
  .all [.wordIgnoringCase word, .many (fun c => c = '_' || c = '-') 0 (some 1),
    .wordIgnoringCase (str "key")]

/-- The words a name of a secret contains. -/
def secretWordRe : Re :=
  .alt (.wordIgnoringCase (str "token")) (.alt (.wordIgnoringCase (str "password"))
    (.alt (.wordIgnoringCase (str "passwd")) (.alt (.wordIgnoringCase (str "secret"))
      (.alt (keyRe (str "api")) (.alt (.wordIgnoringCase (str "apikey"))
        (.alt (.wordIgnoringCase (str "credential")) (keyRe (str "private"))))))))

/-- `_SECRET_LITERAL_RE`. -/
def secretLiteralRe : Re :=
  .all ([.many isIdentifierIgnoringCase 0 none, secretWordRe, .many isIdentifierIgnoringCase 0 none] ++
    assignsQuoted ++ [.many (fun c => c ≠ '"') 1 none, .word ['"']])

/-- `\d+`. -/
def digitsRe : Re := .many (fun c => (digitValue c).isSome) 1 none

/-- `_EXACT_VERSION_RE`. -/
def exactVersionRe : Re :=
  .all (.word (str "version") :: assignsQuoted ++
    [.word ['='], .many isSpace 0 none, digitsRe, .word ['.'], digitsRe, .word ['.'], digitsRe,
      .many (fun c => isAsciiDigit c || isAsciiUpper c || isAsciiLower c || c = '.' || c = '+' || c = '-')
        0 none,
      .word ['"']])

/-- `_ANY_VERSION_RE`. -/
def anyVersionAt : Str → Option (Str × Nat) := assignedAt (str "version") quotedAt

/-- `_RESOURCE_RE`. -/
def resourceAt : Str → Option (Str × Nat) := labelledAt (str "resource")

/-- `_DATA_RE`. -/
def dataAt : Str → Option (Str × Nat) := labelledAt (str "data")

/-- `_SOURCE_RE`. -/
def sourceAt : Str → Option (Str × Nat) := assignedAt (str "source") someQuotedAt

end

/-! ## The scan -/

/-- `ControlledLiveRenderRefused`. -/
structure ControlledLiveRenderRefused where
  reasonCode : Str
  deriving DecidableEq

/-- `RenderScanContract`; of the two sets only membership matters. -/
structure RenderScanContract where
  providerSource : Str
  providerVersion : Str
  supportedResourceTypes : List Str
  allowedDataSources : List Str := []
  scannerVersion : Str := controlledLiveRenderScannerVersion

def scanRefusal (code : String) : ControlledLiveRenderRefused := ⟨str code⟩

section
variable [Unicode]

/-- One provider or module source: whether the reviewed provider is declared after it. -/
def RenderScanContract.sourceStep (contract : RenderScanContract) (declared : Bool) (source : Str) :
    Except ControlledLiveRenderRefused Bool :=
  if source = contract.providerSource then .ok true
  else if contains ['/'] source && !startsWith source (str "./") && !startsWith source (str "../") then
    .error (scanRefusal "unreviewed_source")
  else .ok declared

/-- The version constraint is an exact pin. -/
def exactlyPinned (constraint : Str) : Bool :=
  startsWith (strip constraint) ['='] &&
    exactVersionRe.search (str "version = \"" ++ constraint ++ str "\"")

/-- The body of the loop over the files. -/
def RenderScanContract.scanText (contract : RenderScanContract) (declared : Bool) (text : Str) :
    Except ControlledLiveRenderRefused Bool := do
  let low := lower text
  ensure (!fakeIdentifiers.any fun marker => contains marker low)
    (scanRefusal "fake_provider_or_resource_identifier")
  ensure (!forbiddenConstructs.any fun construct => contains construct low)
    (scanRefusal "forbidden_construct")
  ensure (!remoteSourceRe.search text) (scanRefusal "remote_source_fetch")
  ensure (!secretLiteralRe.search text) (scanRefusal "secret_looking_literal")
  let declared ← (findall sourceAt text).foldlM contract.sourceStep declared
  ensure ((findall anyVersionAt text).all exactlyPinned)
    (scanRefusal "provider_version_not_exactly_pinned")
  ensure ((findall resourceAt text).all fun type => type ∈ contract.supportedResourceTypes)
    (scanRefusal "unsupported_resource_type")
  ensure ((findall dataAt text).all fun type => type ∈ contract.allowedDataSources)
    (scanRefusal "unallowed_data_source")
  pure declared

/-- `controlled_live_render_scan`. -/
def controlledLiveRenderScan (files : Dict Str Str) (contract : RenderScanContract) :
    Except ControlledLiveRenderRefused Unit := do
  ensure (contract.scannerVersion = controlledLiveRenderScannerVersion)
    (scanRefusal "render_scanner_version_mismatch")
  ensure (contract.providerSource = controlledLiveProviderSource)
    (scanRefusal "provider_source_not_reviewed")
  ensure (exactVersionRe.fullmatch (str "version = \"= " ++ contract.providerVersion ++ str "\""))
    (scanRefusal "provider_version_not_exactly_pinned")
  ensure (!files.isEmpty) (scanRefusal "empty_workspace")
  let declared ← (sortedBy Prod.fst files).foldlM
    (fun declared file => contract.scanText declared file.2) false
  ensure declared (scanRefusal "provider_declaration_missing")

end

/-! ## Blocks and their spelling -/

/-- What a workspace may contain: resources and data of the listed types, no provisioner and no local
backend. -/
def HclBlock.allowed (contract : RenderScanContract) (b : HclBlock) : Bool :=
  if b.keyword = str "resource" then
    b.labels.head?.all fun type => type ∈ contract.supportedResourceTypes
  else if b.keyword = str "data" then
    b.labels.head?.all fun type => type ∈ contract.allowedDataSources
  else if b.keyword = str "backend" then b.labels.head? ≠ some (str "local")
  else b.keyword ≠ str "provisioner"

/-- The header is a keyword, whitespace, a type in quotes, whitespace and a name in quotes. -/
structure HclBlock.Labelled (b : HclBlock) (gap type gap' name rest : Str) : Prop where
  written : textOf b.header =
    b.keyword ++ (gap ++ '"' :: (type ++ '"' :: (gap' ++ '"' :: (name ++ '"' :: rest))))
  blank : gap ≠ [] ∧ ∀ c ∈ gap, isBlank c = true
  blank' : gap' ≠ [] ∧ ∀ c ∈ gap', isBlank c = true
  quoted : type ≠ [] ∧ '"' ∉ type
  quoted' : name ≠ [] ∧ '"' ∉ name
  type : b.labels.head? = some type

/-- The block is spelled as the patterns of the scan expect it, and no earlier match runs into it. -/
structure HclBlock.Plain [Unicode] (b : HclBlock) (text : Str) : Prop where
  labelled : b.keyword = str "resource" ∨ b.keyword = str "data" →
    (∃ gap type gap' name rest, b.Labelled gap type gap' name rest) ∧
      ¬∃ m ∈ finditer (labelledAt b.keyword) text, m.Covers b.start
  provisioner : b.keyword = str "provisioner" →
    startsWith (textOf b.header) (str "provisioner \"") = true
  backend : b.keyword = str "backend" →
    startsWith (textOf b.header) (str "backend \"local\"") = true

section
variable [Unicode]

/-- Every block of every file that can be read is allowed. -/
def BlocksAllowed (contract : RenderScanContract) (files : Dict Str Str) : Prop :=
  ∀ file ∈ files, ∀ blocks, readBlocks file.2 = some blocks →
    ∀ b ∈ blocks, b.allowed contract = true

/-- Every block that is not allowed is spelled plainly. -/
def IntrudersPlain (contract : RenderScanContract) (files : Dict Str Str) : Prop :=
  ∀ file ∈ files, ∀ blocks, readBlocks file.2 = some blocks →
    ∀ b ∈ blocks, b.allowed contract = false → b.Plain file.2

/-- The character belongs to ASCII and is not in upper case. -/
def isLowerAscii (c : Char) : Bool := isAscii c && !isAsciiUpper c

/-- `str.lower` keeps a run of such characters, whatever stands around it. -/
def KeepsLowerAscii : Prop :=
  ∀ run s : Str, run.all isLowerAscii = true → run <:+: s → run <:+: Unicode.lower s

end

/-! ## What an accepted file cannot contain -/

section
variable [Unicode] {contract : RenderScanContract} {files : Dict Str Str} {text : Str} {b : HclBlock}

/-- What an accepted file was searched for. -/
structure Searched (contract : RenderScanContract) (text : Str) : Prop where
  constructs : ∀ construct ∈ forbiddenConstructs, contains construct (lower text) = false
  resources : ∀ type ∈ findall resourceAt text, type ∈ contract.supportedResourceTypes
  data : ∀ type ∈ findall dataAt text, type ∈ contract.allowedDataSources

theorem searched_of_scanText {declared declared' : Bool}
    (h : contract.scanText declared text = .ok declared') : Searched contract text := by
  unfold RenderScanContract.scanText at h
  dsimp only at h
  rw [except_unit_bind_eq_ok] at h
  obtain ⟨-, h⟩ := h
  rw [except_unit_bind_eq_ok] at h
  obtain ⟨hconstructs, h⟩ := h
  rw [except_unit_bind_eq_ok] at h
  obtain ⟨-, h⟩ := h
  rw [except_unit_bind_eq_ok] at h
  obtain ⟨-, h⟩ := h
  obtain ⟨_, -, h⟩ := except_bind_eq_ok.mp h
  rw [except_unit_bind_eq_ok] at h
  obtain ⟨-, h⟩ := h
  rw [except_unit_bind_eq_ok] at h
  obtain ⟨hresources, h⟩ := h
  rw [except_unit_bind_eq_ok] at h
  obtain ⟨hdata, -⟩ := h
  rw [ensure_eq_ok_iff] at hconstructs hresources hdata
  refine ⟨fun construct hconstruct => ?_, fun type htype => ?_, fun type htype => ?_⟩
  · rw [Bool.not_eq_true', List.any_eq_false] at hconstructs
    exact (Bool.not_eq_true _).mp (hconstructs construct hconstruct)
  · exact of_decide_eq_true (List.all_eq_true.mp hresources type htype)
  · exact of_decide_eq_true (List.all_eq_true.mp hdata type htype)

/-- Every file of an accepted workspace was searched. -/
theorem searched_of_scan (h : controlledLiveRenderScan files contract = .ok ()) :
    ∀ file ∈ files, Searched contract file.2 := by
  have hfold {xs : Dict Str Str} {declared declared' : Bool}
      (hrun : xs.foldlM (fun declared file => contract.scanText declared file.2) declared =
        .ok declared') : ∀ file ∈ xs, Searched contract file.2 := by
    induction xs generalizing declared with
    | nil => exact fun _ hfile => by cases hfile
    | cons first rest ih =>
        rw [List.foldlM_cons] at hrun
        obtain ⟨next, hfirst, hrest⟩ := except_bind_eq_ok.mp hrun
        exact List.forall_mem_cons.mpr ⟨searched_of_scanText hfirst, ih hrest⟩
  unfold controlledLiveRenderScan at h
  simp only [except_unit_bind_eq_ok] at h
  obtain ⟨-, -, -, -, h⟩ := h
  obtain ⟨declared, hrun, -⟩ := except_bind_eq_ok.mp h
  intro file hfile
  exact hfold hrun file (mem_sortedBy.mpr hfile)

omit [Unicode] in
theorem asciiLower_of_isLowerAscii {c : Char} (h : isLowerAscii c = true) : asciiLower c = c := by
  unfold isLowerAscii at h
  rw [Bool.and_eq_true, Bool.not_eq_true'] at h
  rw [asciiLower, h.2, if_neg Bool.false_ne_true]

theorem contains_lower (hlower : KeepsLowerAscii) {run : Str} (hrun : run.all isLowerAscii = true)
    (h : run <:+: text) : contains run (lower text) = true := by
  rw [contains_iff]
  unfold lower
  by_cases hascii : text.all isAscii = true
  · rw [if_pos hascii]
    have hsame : run.map asciiLower = run := by
      rw [List.all_eq_true] at hrun
      conv_rhs => rw [← List.map_id run]
      exact List.map_congr_left fun c hc => asciiLower_of_isLowerAscii (hrun c hc)
    obtain ⟨before, behind, rfl⟩ := h
    refine ⟨before.map asciiLower, behind.map asciiLower, ?_⟩
    rw [List.map_append, List.map_append, hsame]
  · rw [if_neg hascii]
    exact hlower run text hrun h

theorem isSpace_of_isBlank {c : Char} (h : isBlank c = true) : isSpace c = true := by
  unfold isBlank at h
  simp only [Bool.or_eq_true, decide_eq_true_eq] at h
  rcases h with ((rfl | rfl) | rfl) | rfl <;> rfl

section
variable {rest : Str}

omit [Unicode] in
/-- A header begins a run of characters of the file. -/
theorem infix_of_startsWith (hlocated : text.drop b.start = textOf b.header ++ rest) {run : Str}
    (h : startsWith (textOf b.header) run = true) : run <:+: text := by
  have hbegins : run <+: text.drop b.start := by
    rw [hlocated]
    exact (List.isPrefixOf_iff_prefix.mp h).trans (List.prefix_append _ _)
  exact hbegins.isInfix.trans (List.drop_suffix _ _).isInfix

/-- The pattern captures the type of a plain header. -/
theorem type_found (hlocated : text.drop b.start = textOf b.header ++ rest)
    {gap type gap' name behind : Str} (h : b.Labelled gap type gap' name behind)
    (hcovered : ¬∃ m ∈ finditer (labelledAt b.keyword) text, m.Covers b.start) :
    type ∈ findall (labelledAt b.keyword) text := by
  obtain ⟨length, hmatch⟩ := labelledAt_append b.keyword (behind ++ rest) h.blank.1
    (fun c hc => isSpace_of_isBlank (h.blank.2 c hc)) h.blank'.1
    (fun c hc => isSpace_of_isBlank (h.blank'.2 c hc)) h.quoted.1 h.quoted.2 h.quoted'.1 h.quoted'.2
  have hhere : labelledAt b.keyword (text.drop b.start) = some (type, length) := by
    rw [hlocated, h.written, ← hmatch]
    simp only [List.append_assoc, List.cons_append]
  have hplace : b.start < text.length := by
    by_contra hbeyond
    rw [List.drop_eq_nil_of_le (not_lt.mp hbeyond), h.written] at hlocated
    simp at hlocated
  exact (found_or_covered hplace hhere).resolve_right hcovered

/-- A searched file contains no block that is spelled plainly and not allowed. -/
theorem allowed_of_plain (hlocated : text.drop b.start = textOf b.header ++ rest)
    (hlower : KeepsLowerAscii) (hsearched : Searched contract text) (hplain : b.Plain text) : b.allowed contract = true := by
  have hforbidden {run : Str} (hrun : run ∈ forbiddenConstructs) (hascii : run.all isLowerAscii = true)
      (hbegins : startsWith (textOf b.header) run = true) : False := by
    have hcontains := contains_lower hlower hascii (infix_of_startsWith hlocated hbegins)
    rw [hsearched.constructs run hrun] at hcontains
    cases hcontains
  unfold HclBlock.allowed
  by_cases hresource : b.keyword = str "resource"
  · obtain ⟨⟨gap, type, gap', name, behind, hlabelled⟩, hcovered⟩ := hplain.labelled (.inl hresource)
    have hfound := type_found hlocated hlabelled hcovered
    rw [hresource] at hfound
    rw [if_pos hresource, hlabelled.type]
    exact decide_eq_true (hsearched.resources type hfound)
  rw [if_neg hresource]
  by_cases hdata : b.keyword = str "data"
  · obtain ⟨⟨gap, type, gap', name, behind, hlabelled⟩, hcovered⟩ := hplain.labelled (.inr hdata)
    have hfound := type_found hlocated hlabelled hcovered
    rw [hdata] at hfound
    rw [if_pos hdata, hlabelled.type]
    exact decide_eq_true (hsearched.data type hfound)
  rw [if_neg hdata]
  by_cases hbackend : b.keyword = str "backend"
  · refine (hforbidden ?_ ?_ (hplain.backend hbackend)).elim
    · simp [forbiddenConstructs]
    · with_unfolding_all decide
  rw [if_neg hbackend, decide_eq_true_eq]
  intro hprovisioner
  refine hforbidden ?_ ?_ (hplain.provisioner hprovisioner)
  · simp [forbiddenConstructs]
  · with_unfolding_all decide

end

/-- An accepted workspace contains only allowed blocks exactly if every other block would be spelled
plainly. -/
theorem renderScan_sound_iff (hlower : KeepsLowerAscii)
    (h : controlledLiveRenderScan files contract = .ok ()) :
    BlocksAllowed contract files ↔ IntrudersPlain contract files := by
  constructor
  · intro hallowed file hfile blocks hread b hb hintruder
    rw [hallowed file hfile blocks hread b hb] at hintruder
    cases hintruder
  · intro hplain file hfile blocks hread b hb
    by_contra hintruder
    have hblock := hplain file hfile blocks hread b hb ((Bool.not_eq_true _).mp hintruder)
    obtain ⟨rest, hlocated⟩ := readBlocks_located hread hb
    exact hintruder (allowed_of_plain hlocated hlower (searched_of_scan h file hfile) hblock)

end

/-! ### A resource with bare labels -/

/-- The reviewed provider and one type of resource. -/
def reviewedContract : RenderScanContract where
  providerSource := controlledLiveProviderSource
  providerVersion := str "0.80.0"
  supportedResourceTypes := [str "proxmox_vm"]

def versionsTf : Str := str "terraform \x7b
  required_providers \x7b
    proxmox = \x7b source = \"bpg/proxmox\", version = \"= 0.80.0\" \x7d
  \x7d
\x7d
"

/-- A workspace with one more file. -/
def workspaceWith (mainTf : Str) : Dict Str Str :=
  [(str "versions.tf", versionsTf), (str "main.tf", mainTf)]

def guestTf : Str := str "resource \"proxmox_vm\" \"c1\" \x7b\x7d
"

def bareTf : Str := str "resource local_file c1 \x7b\x7d
"

theorem guestTf_allowed :
    @controlledLiveRenderScan Unicode.ascii (workspaceWith guestTf) reviewedContract = .ok () ∧
      @BlocksAllowed Unicode.ascii reviewedContract (workspaceWith guestTf) := by
  let _ := Unicode.ascii
  have hscan : controlledLiveRenderScan (workspaceWith guestTf) reviewedContract = .ok () := by
    decide +kernel
  refine ⟨hscan, (renderScan_sound_iff (fun _ _ _ h => h) hscan).mpr ?_⟩
  intro file hfile blocks hread b hb hintruder
  have hallowed : (workspaceWith guestTf).all (fun file => (readBlocks file.2).all fun blocks =>
      blocks.all (HclBlock.allowed reviewedContract)) = true := by
    decide +kernel
  have hblocks := List.all_eq_true.mp hallowed file hfile
  rw [hread] at hblocks
  rw [List.all_eq_true.mp hblocks b hb] at hintruder
  cases hintruder

/-- The type of a resource with bare labels is not looked at. -/
theorem bareTf_accepted :
    @controlledLiveRenderScan Unicode.ascii (workspaceWith bareTf) reviewedContract = .ok () ∧
      ¬@BlocksAllowed Unicode.ascii reviewedContract (workspaceWith bareTf) := by
  let _ := Unicode.ascii
  refine ⟨by decide +kernel, fun hallowed => ?_⟩
  have hintruder : (readBlocks bareTf).any (fun blocks =>
      blocks.any fun b => !b.allowed reviewedContract) = true := by
    with_unfolding_all decide
  obtain ⟨blocks, hread, hany⟩ := (Option.any_eq_true _ _).mp hintruder
  obtain ⟨b, hb, hdenied⟩ := List.any_eq_true.mp hany
  have hfile : (str "main.tf", bareTf) ∈ workspaceWith bareTf :=
    List.mem_cons_of_mem _ List.mem_cons_self
  rw [hallowed _ hfile blocks hread b hb] at hdenied
  cases hdenied

end Secp.Worker
