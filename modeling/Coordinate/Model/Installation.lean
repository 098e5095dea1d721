import Coordinate.Model.System

/-! # A sample installation

One workspace on one host with one typed agent, on a platform whose clock advances by a second at
each reading. Witnesses and counterexamples run on it. The platform hashes the texts of `digests`
as SHA-256 does; `otherwise` answers for all other texts.
-/

namespace Coordinate.Sample

section Platform

def hexDigit (n : Nat) : Char :=
  if n < 10 then Char.ofNat (48 + n) else Char.ofNat (87 + n)

/-- The characters of a sample identifier, of which only the last two vary. -/
def uuidChars (high low : Char) : List Char :=
  ['0', '0', '0', '0', '0', '0', '0', '0', '-', '0', '0', '0', '0', '-', '4', '0', '0', '0', '-',
    '8', '0', '0', '0', '-', '0', '0', '0', '0', '0', '0', '0', '0', '0', '0', high, low]

def uuid (n : Nat) : String :=
  String.ofList (uuidChars (hexDigit (n / 16 % 16)) (hexDigit (n % 16)))

theorem uuid_form (n : Nat) : Text.uuidShape (uuid n).toList = true := by
  have form : ∀ high < 16, ∀ low < 16,
      Text.uuidShape (uuidChars (hexDigit high) (hexDigit low)) = true := by decide +kernel
  rw [uuid, String.toList_ofList]
  exact form _ (Nat.mod_lt _ (by decide)) _ (Nat.mod_lt _ (by decide))

/-- A point in time on 1 January 2025. -/
def clock (n : Nat) : Nat :=
  63871286400 + n % 86400

def zeroDigest : String := "0000000000000000000000000000000000000000000000000000000000000000"

/-- The canonical context of a sample job. -/
def contextOf (jobId : String) : Json :=
  .obj [("assigned_agent", .str "a"), ("branch", .null), ("contract_version", .int 1),
    ("harness_root", .str "/w"), ("host_id", .str "h"), ("job_id", .str jobId),
    ("legacy_scope_ids", .arr []),
    ("log_handle", .obj [("job_id", .str jobId), ("kind", .str "coordinate_job"),
      ("logs_path", .null)]),
    ("session_scope_id", .str "x"), ("task_id", .null), ("workspace_id", .str "w"),
    ("workspace_path", .str "/w"), ("worktree_path", .str "/w")]

def definition : ExecutorDefinition := ⟨"d", "p", "x", []⟩

/-- A catalog with one typed agent. -/
def typedCatalog : ExecutorCatalog :=
  ⟨"s", 1, "091e714d8ac7be9835d54cac61d84cc75223b2f199a37b451f6f713e45992b62", [definition],
    [⟨"a", "d", "a", true⟩]⟩

/-- Its next version, in which the agent is untyped. -/
def untypedCatalog : ExecutorCatalog :=
  ⟨"s", 2, "c47b9046dee72171f429ab7b81984eb18ac94aa4a60705a78de61f8f8637cb79", [definition], []⟩

def snapshot : BindingSnapshot :=
  ⟨"s", 1, typedCatalog.catalogHash, "d", "a", "a", "p", "x", []⟩

def resource : WorktreeResource := ⟨"h", "/w"⟩

/-- The digests of the texts that the sample runs hash. -/
def digests : List (Json × String) := [
  (resource.canonicalDict, "e7c54c2c369f449730fda0dbcd745e2664185a95822f31b6c0cfaa4d51f2db8e"),
  (snapshot.canonicalDict, "b97fd12e51f8c40fd3317ddae8f50d4bdb0e639e635f493495fde8491489e3aa"),
  (contextOf "request:00000000-0000-4000-8000-000000000000",
    "a3c5853121c6c7b92f7bde4972fd8c4f6966a646a2c0c6efd8a12b5f06d80263"),
  (contextOf "request:preflight",
    "2a36af4cec39ee5e6d96d38424b32833eaa1a79b3058d907b65e042459f8bb00"),
  (canonicalExecutorCatalogDict typedCatalog, typedCatalog.catalogHash),
  (canonicalExecutorCatalogDict untypedCatalog, untypedCatalog.catalogHash)]

def sha256 (otherwise : List Char → String) (text : List Char) : String :=
  match digests.find? fun known => known.1.text = text with
  | some known => known.2
  | none => otherwise text

/-- The platform of the installation; its paths are plain ASCII without links. -/
@[reducible] def platform (otherwise : List Char → String) : Platform where
  clock := clock
  clock_bound n := by
    have := Nat.mod_lt n (show 0 < 86400 by decide)
    simp only [clock, Calendar.horizon]
    omega
  uuid4 := uuid
  uuid4_form := uuid_form
  sha256 := sha256 otherwise
  nfc := id
  casefold path := String.ofList (path.toList.map Char.toLower)
  lower c := String.ofList [c.toLower]
  isalpha := Char.isAlpha
  isCategoryC := Text.isControl
  absolutePath path _ := path

instance : Platform := platform fun _ => zeroDigest

/-- The digests of the sample platform have the form of digests. -/
theorem digest_form (text : List Char) : Text.isHexDigest (Platform.sha256 text) := by
  have known : ∀ digest ∈ digests, Text.isHexDigest digest.2 := by decide +kernel
  change Text.isHexDigest (sha256 (fun _ => zeroDigest) text)
  unfold sha256
  split
  · rename_i digest found
    exact known digest (List.mem_of_find?_eq_some found)
  · have zero : Text.isHexDigest zeroDigest := by decide
    exact zero

end Platform

section Store

def tableOf {Row : Type} {schema : Schema Row} (row : Row) : Table schema :=
  (Table.empty.insert? row).getD .empty

/-- The configured store, before its first catalog sync. -/
def configured : Db := { Db.empty with
  workspaces := tableOf { id := "w", path := "/w", harnessRoot := "/w" }
  hostProfiles := tableOf { workspaceId := "w", hostId := "h", workspacePath := "/w" }
  agents := tableOf
    { id := "a", clientType := some "agentd", onlineState := "online", hostId := some "h" }
  runnerProfiles := tableOf { id := "a", runnerType := "agentd" }
  capacityPolicies := tableOf
    { agentId := "a", sourceId := "s", sourceVersion := 1, catalogHash := zeroDigest
      capacityPolicyId := "sha256:" ++ zeroDigest, maxConcurrentJobs := 1
      createdAt := "2025-01-01T00:00:00Z", updatedAt := "2025-01-01T00:00:00Z" }
  capacitySources := tableOf
    { sourceId := "s", sourceVersion := 1, catalogHash := zeroDigest, sourcePath := none
      updatedAt := "2025-01-01T00:00:00Z" } }

def origin : Json :=
  .obj [("platform", .str "p"), ("destination", .str "c"), ("message_id", .str "m"),
    ("session_scope_id", .str "x")]

def request : SubmitRequest :=
  { workspaceId := "w", targetAgent := some "a", prompt := "p", origin, reply := origin }

/-- The job of the first request of a run. -/
def jobId : String := "request:00000000-0000-4000-8000-000000000000"

/-- A run of the installation. -/
def run (calls : List Call) : Work Db :=
  runCalls { initialWork with store := configured } calls

theorem reachable_run (calls : List Call) : Reachable (run calls) :=
  .head (.configure configured ⟨rfl, rfl, rfl, rfl, rfl⟩) (steps_runCalls calls _)

end Store

end Coordinate.Sample
