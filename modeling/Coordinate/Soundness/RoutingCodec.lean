import Coordinate.Model.Installation
import Coordinate.Proofs.RoutingRequest

/-! # The routing request codec

A stored request is accepted exactly if it is the dictionary of a request that a caller can build, and reads
back as it was. The labels of an accepted request consist of the safe characters unless one ends in a line
feed, which the pattern of labels lets pass.
-/

namespace Coordinate.Routing

variable [Platform] {data : Json} {fields : List (String × Json)} {args : RoutingArguments}
  {r : RoutingRequest}

section Requests

/-- A request with the fields that either validator lets pass, under its digest. -/
structure Canonical (r : RoutingRequest) : Prop where
  capabilities : Capabilities r.requiredCapabilities
  definition : ∀ text ∈ r.executorDefinitionId, Label 256 text
  host : ∀ text ∈ r.preferredHostId, Label 64 text
  override : (r.operatorOverrideAgentId = none ∧ r.operatorOverrideReason = none) ∨
    ∃ agent text, r.operatorOverrideAgentId = some agent ∧ r.operatorOverrideReason = some text ∧
      Label 256 agent ∧ Reason text
  digest : r.routingRequestId = digestId (requestBody r)

/-- The fields of `routing_request_to_dict`. -/
def dictFields (r : RoutingRequest) : List (String × Json) :=
  [("contract_version", .int routingContractVersion), ("mode", .str "deterministic"),
    ("required_capabilities", .arr (r.requiredCapabilities.map .str)),
    ("executor_definition_id", .ofOption r.executorDefinitionId),
    ("preferred_host_id", .ofOption r.preferredHostId),
    ("operator_override_agent_id", .ofOption r.operatorOverrideAgentId),
    ("operator_override_reason", .ofOption r.operatorOverrideReason),
    ("policy_version", .int routingPolicyVersion), ("routing_request_id", .str r.routingRequestId)]

omit [Platform] in
theorem requestToDict_eq (r : RoutingRequest) : requestToDict r = .obj (dictFields r) := rfl

omit [Platform] in
/-- A dictionary is that of a request if it has its keys and under each of them its value. -/
theorem same_requestToDict (distinct : (fields.map Prod.fst).Nodup) :
    Json.Same (.obj fields) (requestToDict r) ↔ (Json.obj fields).hasExactlyKeys requestKeys = true ∧
      ∀ field ∈ dictFields r, (Json.obj fields).get field.1 = field.2 := by
  rw [requestToDict_eq]
  refine Json.same_flat distinct ?_ ?_
  · change requestKeys.Nodup
    decide
  · simp only [dictFields, List.forall_mem_cons, List.not_mem_nil, false_imp_iff, implies_true, and_true,
      Json.flat_int, Json.flat_str, Json.flat_ofOption, Json.flat_texts]

/-- The override of a canonical request, read by either validator. -/
theorem overridePair_canonical {validator : Json → Except ExecutorRoutingError String}
    (reads : ∀ text, Reason text → validator (.str text) = .ok text) (valid : Canonical r) :
    overridePair validator (.ofOption r.operatorOverrideAgentId) (.ofOption r.operatorOverrideReason) =
      .ok (r.operatorOverrideAgentId, r.operatorOverrideReason) := by
  refine overridePair_ok.mpr ?_
  obtain ⟨absent, absent'⟩ | ⟨agent, text, named, given, label, reason⟩ := valid.override
  · rw [absent, absent']
    exact .inl ⟨rfl, rfl, rfl⟩
  · rw [named, given]
    refine .inr ⟨agent, text, rfl, label, fun missing => ?_, reads text reason, rfl⟩
    cases missing

end Requests

section Parsing

omit [Platform] in
theorem validateInt_ok {value : Json} {label : String} {n : Int} :
    validateInt value label = .ok n ↔ value = .int n := by
  cases value <;> simp [validateInt, pure, Except.pure, throw, throwThe, MonadExceptOf.throw]

/-- **What the parser accepts**, when digests have the form of digests. -/
theorem parseRequest_ok (hash : ∀ text, Text.isHexDigest (sha256 text)) :
    parseRequest data = .ok r ↔ data.isObj = true ∧ data.hasExactlyKeys requestKeys = true ∧
      (∀ field ∈ dictFields r, data.get field.1 = field.2) ∧ Canonical r := by
  constructor
  · intro ran
    obtain ⟨_, isObj, ran⟩ := Except.bind_ok.mp ran
    obtain ⟨_, keys, ran⟩ := Except.bind_ok.mp ran
    obtain ⟨contract, isContract, ran⟩ := Except.bind_ok.mp ran
    obtain ⟨_, ofContract, ran⟩ := Except.bind_ok.mp ran
    obtain ⟨policy, isPolicy, ran⟩ := Except.bind_ok.mp ran
    obtain ⟨_, ofPolicy, ran⟩ := Except.bind_ok.mp ran
    obtain ⟨_, mode, ran⟩ := Except.bind_ok.mp ran
    obtain ⟨requiredCapabilities, read, ran⟩ := Except.bind_ok.mp ran
    obtain ⟨executorDefinitionId, definition, ran⟩ := Except.bind_ok.mp ran
    obtain ⟨preferredHostId, host, ran⟩ := Except.bind_ok.mp ran
    obtain ⟨⟨agent, reason⟩, override, ran⟩ := Except.bind_ok.mp ran
    dsimp only at ran
    split at ran
    case h_2 => cases ran
    rename_i requestId ofId
    obtain ⟨_, _, ran⟩ := Except.bind_ok.mp ran
    obtain ⟨_, digest, ran⟩ := Except.bind_ok.mp ran
    cases ran
    have isObj := not_not.mp (raiseIf_except_ok.mp isObj)
    have keys := not_not.mp (raiseIf_except_ok.mp keys)
    have ofContract := not_not.mp (raiseIf_except_ok.mp ofContract)
    have ofPolicy := not_not.mp (raiseIf_except_ok.mp ofPolicy)
    have mode := not_not.mp (raiseIf_except_ok.mp mode)
    have digest := not_not.mp (raiseIf_except_ok.mp digest)
    have isContract := validateInt_ok.mp isContract
    have isPolicy := validateInt_ok.mp isPolicy
    rw [ofContract] at isContract
    rw [ofPolicy] at isPolicy
    obtain ⟨ofCapabilities, capabilities⟩ := validateCanonicalCapabilities_ok.mp read
    obtain ⟨ofDefinition, definition⟩ := validateOptionalSafeLabel_ok.mp definition
    obtain ⟨ofHost, host⟩ := validateOptionalSafeLabel_ok.mp host
    rw [validateOverridePair_eq, overridePair_ok] at override
    obtain ⟨ofAgent, ofReason, named⟩ | ⟨agentId, text, ofAgent, label, -, checked, named⟩ := override
    · obtain ⟨rfl, rfl⟩ := Prod.mk.inj named
      refine ⟨isObj, keys, ?_, capabilities, definition, host, .inl ⟨rfl, rfl⟩, digest⟩
      simp only [dictFields, List.forall_mem_cons, List.not_mem_nil, false_imp_iff, implies_true, and_true]
      exact ⟨isContract, mode, ofCapabilities, ofDefinition, ofHost, ofAgent, ofReason, isPolicy, ofId⟩
    · obtain ⟨rfl, rfl⟩ := Prod.mk.inj named
      obtain ⟨ofReason, reason⟩ := validateCanonicalReason_ok.mp checked
      refine ⟨isObj, keys, ?_, capabilities, definition, host,
        .inr ⟨agentId, text, rfl, rfl, label, reason⟩, digest⟩
      simp only [dictFields, List.forall_mem_cons, List.not_mem_nil, false_imp_iff, implies_true, and_true]
      exact ⟨isContract, mode, ofCapabilities, ofDefinition, ofHost, ofAgent, ofReason, isPolicy, ofId⟩
  · rintro ⟨isObj, keys, written, valid⟩
    simp only [dictFields, List.forall_mem_cons, List.not_mem_nil, false_imp_iff, implies_true,
      and_true] at written
    obtain ⟨isContract, mode, ofCapabilities, ofDefinition, ofHost, ofAgent, ofReason, isPolicy, ofId⟩ :=
      written
    have read : validateCanonicalCapabilities (data.get "required_capabilities") "required_capabilities" =
        .ok r.requiredCapabilities :=
      validateCanonicalCapabilities_ok.mpr ⟨ofCapabilities, valid.capabilities⟩
    have definition : validateOptionalSafeLabel (data.get "executor_definition_id")
        "executor_definition_id" 256 = .ok r.executorDefinitionId :=
      validateOptionalSafeLabel_ok.mpr ⟨ofDefinition, valid.definition⟩
    have host : validateOptionalSafeLabel (data.get "preferred_host_id") "preferred_host_id" 64 =
        .ok r.preferredHostId := validateOptionalSafeLabel_ok.mpr ⟨ofHost, valid.host⟩
    have override : validateOverridePair (data.get "operator_override_agent_id")
        (data.get "operator_override_reason") =
          .ok (r.operatorOverrideAgentId, r.operatorOverrideReason) := by
      rw [ofAgent, ofReason, validateOverridePair_eq]
      refine overridePair_canonical (fun text reason => ?_) valid
      exact validateCanonicalReason_ok.mpr ⟨rfl, reason⟩
    unfold parseRequest
    refine Except.bind_ok.mpr ⟨(), raiseIf_except_ok.mpr (not_not.mpr isObj), ?_⟩
    refine Except.bind_ok.mpr ⟨(), raiseIf_except_ok.mpr (not_not.mpr keys), ?_⟩
    refine Except.bind_ok.mpr ⟨_, validateInt_ok.mpr isContract, ?_⟩
    refine Except.bind_ok.mpr ⟨(), raiseIf_except_ok.mpr (not_not.mpr rfl), ?_⟩
    refine Except.bind_ok.mpr ⟨_, validateInt_ok.mpr isPolicy, ?_⟩
    refine Except.bind_ok.mpr ⟨(), raiseIf_except_ok.mpr (not_not.mpr rfl), ?_⟩
    refine Except.bind_ok.mpr ⟨(), raiseIf_except_ok.mpr (not_not.mpr mode), ?_⟩
    refine Except.bind_ok.mpr ⟨_, read, ?_⟩
    refine Except.bind_ok.mpr ⟨_, definition, ?_⟩
    refine Except.bind_ok.mpr ⟨_, host, ?_⟩
    refine Except.bind_ok.mpr ⟨_, override, ?_⟩
    dsimp only at ofId ⊢
    rw [ofId]
    have form : Text.matchSha256 r.routingRequestId = true := by
      rw [valid.digest]
      exact Text.matchSha256_of_isHexDigest (hash _)
    refine Except.bind_ok.mpr ⟨(), raiseIf_except_ok.mpr (not_not.mpr form), ?_⟩
    exact Except.bind_ok.mpr ⟨(), raiseIf_except_ok.mpr (not_not.mpr valid.digest), rfl⟩

end Parsing

section Building

/-- The arguments that build a canonical request again. -/
def argumentsOf (r : RoutingRequest) : RoutingArguments where
  requiredCapabilities := .arr (r.requiredCapabilities.map .str)
  executorDefinitionId := .ofOption r.executorDefinitionId
  preferredHostId := .ofOption r.preferredHostId
  operatorOverrideAgentId := .ofOption r.operatorOverrideAgentId
  operatorOverrideReason := .ofOption r.operatorOverrideReason

/-- What is built is canonical. -/
theorem canonical_of_buildRequest (built : buildRequest args = .ok r) : Canonical r := by
  obtain ⟨requiredCapabilities, normalized, ran⟩ := Except.bind_ok.mp built
  obtain ⟨executorDefinitionId, definition, ran⟩ := Except.bind_ok.mp ran
  obtain ⟨preferredHostId, host, ran⟩ := Except.bind_ok.mp ran
  obtain ⟨⟨agent, reason⟩, override, ran⟩ := Except.bind_ok.mp ran
  cases ran
  refine ⟨capabilities_normalized normalized, (validateOptionalSafeLabel_ok.mp definition).2,
    (validateOptionalSafeLabel_ok.mp host).2, ?_, rfl⟩
  obtain ⟨-, -, named⟩ | ⟨agentId, text, -, label, -, checked, named⟩ := overridePair_ok.mp override
  · obtain ⟨rfl, rfl⟩ := Prod.mk.inj named
    exact .inl ⟨rfl, rfl⟩
  · obtain ⟨rfl, rfl⟩ := Prod.mk.inj named
    obtain ⟨given, -, -, reason⟩ := normalizeOverrideReason_ok.mp checked
    exact .inr ⟨agentId, text, rfl, rfl, label, reason⟩

/-- A canonical request is built from its own fields. -/
theorem buildRequest_argumentsOf (valid : Canonical r) : buildRequest (argumentsOf r) = .ok r := by
  have override : overridePair normalizeOverrideReason (argumentsOf r).operatorOverrideAgentId
      (argumentsOf r).operatorOverrideReason = .ok (r.operatorOverrideAgentId, r.operatorOverrideReason) := by
    refine overridePair_canonical (fun text reason => ?_) valid
    exact normalizeOverrideReason_ok.mpr ⟨text, rfl, reason.stripped.symm, reason⟩
  refine Except.bind_ok.mpr ⟨_, normalizeCapabilities_canonical valid.capabilities, ?_⟩
  refine Except.bind_ok.mpr ⟨_, validateOptionalSafeLabel_ok.mpr ⟨rfl, valid.definition⟩, ?_⟩
  refine Except.bind_ok.mpr ⟨_, validateOptionalSafeLabel_ok.mpr ⟨rfl, valid.host⟩, ?_⟩
  refine Except.bind_ok.mpr ⟨_, override, ?_⟩
  refine congrArg Except.ok ?_
  exact (congrArg (fun id => { r with routingRequestId := id }) valid.digest).symm

end Building

section Labels

/-- The labels and identifiers among the arguments of a request. -/
def RoutingArguments.labels (args : RoutingArguments) : List String :=
  let capabilities : List Json := match args.requiredCapabilities with
    | .arr items => items
    | _ => []
  (capabilities ++ [args.executorDefinitionId, args.preferredHostId,
    args.operatorOverrideAgentId]).filterMap Json.asStr?

/-- The arguments that a stored request spells. -/
def storedArguments (data : Json) : RoutingArguments where
  requiredCapabilities := data.get "required_capabilities"
  executorDefinitionId := data.get "executor_definition_id"
  preferredHostId := data.get "preferred_host_id"
  operatorOverrideAgentId := data.get "operator_override_agent_id"
  operatorOverrideReason := data.get "operator_override_reason"

/-- A text whose last character is a line feed. -/
def EndsInLineFeed (text : String) : Prop := text.toList.getLast? = some '\n'

instance (text : String) : Decidable (EndsInLineFeed text) :=
  inferInstanceAs (Decidable (text.toList.getLast? = some '\n'))

theorem labels_matched (built : buildRequest args = .ok r) :
    ∀ label ∈ args.labels, Text.matchLine isSafeLabelChar label = true := by
  obtain ⟨requiredCapabilities, normalized, ran⟩ := Except.bind_ok.mp built
  obtain ⟨executorDefinitionId, definition, ran⟩ := Except.bind_ok.mp ran
  obtain ⟨preferredHostId, host, ran⟩ := Except.bind_ok.mp ran
  obtain ⟨⟨agent, reason⟩, override, ran⟩ := Except.bind_ok.mp ran
  obtain ⟨texts, ofCapabilities, -, capabilities, -⟩ := normalizeCapabilities_ok.mp normalized
  obtain ⟨ofDefinition, definition⟩ := validateOptionalSafeLabel_ok.mp definition
  obtain ⟨ofHost, host⟩ := validateOptionalSafeLabel_ok.mp host
  intro label member
  obtain ⟨value, member, isText⟩ := List.mem_filterMap.mp member
  have isText : value = .str label := by cases value <;> simp_all [Json.asStr?]
  subst isText
  rw [ofCapabilities, ofDefinition, ofHost] at member
  simp only [List.mem_append, List.mem_cons, List.not_mem_nil, or_false, List.mem_map,
    Json.str.injEq, exists_eq_right] at member
  obtain inside | own | own | own := member
  · exact (capabilities label inside).line
  · cases executorDefinitionId with
    | none => cases own
    | some text => cases own; exact (definition label rfl).line
  · cases preferredHostId with
    | none => cases own
    | some text => cases own; exact (host label rfl).line
  · obtain ⟨absent, -⟩ | ⟨agentId, text, named, valid, -⟩ := overridePair_ok.mp override
    · rw [absent] at own
      cases own
    · rw [named] at own
      cases own
      exact valid.line

/-- The labels of accepted arguments are safe unless one ends in a line feed. -/
theorem labels_safe_iff (built : buildRequest args = .ok r) :
    (∀ label ∈ args.labels, Text.fullmatch isSafeLabelChar label = true) ↔
      ∀ label ∈ args.labels, ¬ EndsInLineFeed label := by
  refine forall₂_congr fun label member => ?_
  exact Text.fullmatch_of_matchLine (by decide) (labels_matched built label member)

end Labels

/-- **The parser accepts the dictionaries of the requests that the builder makes, and nothing else, and what
it reads converts back. On both sides the labels consist of the safe characters if none ends in a line feed.** -/
theorem request_codec (hash : ∀ text, Text.isHexDigest (sha256 text)) :
    (∀ fields : List (String × Json), (fields.map Prod.fst).Nodup →
      ((∃ r, parseRequest (.obj fields) = .ok r) ↔
        ∃ args r, buildRequest args = .ok r ∧ Json.Same (.obj fields) (requestToDict r)) ∧
      ∀ r, parseRequest (.obj fields) = .ok r → Json.Same (requestToDict r) (.obj fields) ∧
        ((∀ label ∈ (storedArguments (.obj fields)).labels,
            Text.fullmatch isSafeLabelChar label = true) ↔
          ∀ label ∈ (storedArguments (.obj fields)).labels, ¬ EndsInLineFeed label)) ∧
    ∀ args r, buildRequest args = .ok r →
      ((∀ label ∈ args.labels, Text.fullmatch isSafeLabelChar label = true) ↔
        ∀ label ∈ args.labels, ¬ EndsInLineFeed label) := by
  refine ⟨fun fields distinct => ?_, fun args r built => labels_safe_iff built⟩
  have accepts : ∀ r, parseRequest (.obj fields) = .ok r ↔
      Json.Same (.obj fields) (requestToDict r) ∧ Canonical r := by
    intro r
    rw [parseRequest_ok hash, same_requestToDict distinct]
    simp only [Json.isObj_obj, true_and, and_assoc]
  refine ⟨?_, fun r parsed => ?_⟩
  · constructor
    · rintro ⟨r, parsed⟩
      obtain ⟨same, valid⟩ := (accepts r).mp parsed
      exact ⟨argumentsOf r, r, buildRequest_argumentsOf valid, same⟩
    · rintro ⟨args, r, built, same⟩
      exact ⟨r, (accepts r).mpr ⟨same, canonical_of_buildRequest built⟩⟩
  · obtain ⟨same, valid⟩ := (accepts r).mp parsed
    have written := ((same_requestToDict distinct).mp same).2
    have stored : storedArguments (.obj fields) = argumentsOf r := by
      simp only [dictFields, List.forall_mem_cons, List.not_mem_nil, false_imp_iff, implies_true,
        and_true] at written
      obtain ⟨-, -, ofCapabilities, ofDefinition, ofHost, ofAgent, ofReason, -, -⟩ := written
      rw [storedArguments, ofCapabilities, ofDefinition, ofHost, ofAgent, ofReason, argumentsOf]
    refine ⟨same.symm, ?_⟩
    rw [stored]
    exact labels_safe_iff (buildRequest_argumentsOf valid)

end Coordinate.Routing

namespace Coordinate.Routing.Sample

open Coordinate.Sample

/-- A request whose capability ends in a line feed. -/
def codeRequest : RoutingRequest := ⟨["code\n"], none, none, none, none, "sha256:" ++ zeroDigest⟩

/-- Builder and parser accept a label that ends in a line feed. -/
theorem line_feed_accepted : buildRequest (argumentsOf codeRequest) = .ok codeRequest ∧
    parseRequest (requestToDict codeRequest) = .ok codeRequest ∧
    ¬ ∀ label ∈ (argumentsOf codeRequest).labels, Text.fullmatch isSafeLabelChar label = true := by
  decide +kernel

/-- A request that prefers a host, and names an agent. -/
def overrideArguments : RoutingArguments where
  requiredCapabilities := .arr [.str "code", .str "build", .str "code"]
  preferredHostId := .str "h"
  operatorOverrideAgentId := .str "a"
  operatorOverrideReason := .str " drain "

def overrideRequest : RoutingRequest :=
  ⟨["build", "code"], none, some "h", some "a", some "drain", "sha256:" ++ zeroDigest⟩

/-- What is built from arguments that are not normal reads back. -/
theorem normalized_reads_back : (∃ r, parseRequest (requestToDict overrideRequest) = .ok r ∧
      Json.Same (requestToDict r) (requestToDict overrideRequest)) ∧
    ∀ label ∈ overrideArguments.labels, Text.fullmatch isSafeLabelChar label = true := by
  obtain ⟨stored, built⟩ := request_codec digest_form
  have made : buildRequest overrideArguments = .ok overrideRequest := by decide +kernel
  constructor
  · obtain ⟨accepted, back⟩ := stored (dictFields overrideRequest) (by decide)
    obtain ⟨r, parsed⟩ := accepted.mpr ⟨overrideArguments, overrideRequest, made, rfl⟩
    exact ⟨r, parsed, (back r parsed).1⟩
  · exact (built overrideArguments overrideRequest made).mpr (by decide)

end Coordinate.Routing.Sample
