import Agroasys.Gateway.IntentKeys
import Agroasys.Gateway.Preflight
import Agroasys.Runtime.Numerals

namespace Agroasys.Gateway

open Agroasys.Foundation Agroasys.Runtime Agroasys.Sdk Agroasys.Escrow

variable {σ Matter : Type} {ethers : Ethers}

section Fragments

/-- No space at which a text is trimmed, and no separator of keys. -/
def isPlain (text : String) : Bool :=
  text.toList.all fun char => !isSpace char && char != '|'

theorem isPlain_iff : isPlain text = true ↔ ∀ char ∈ text.toList, isSpace char = false ∧ char ≠ '|' := by
  simp [isPlain]

theorem normalizeIntentFragment_plain (plain : isPlain text = true) :
    normalizeIntentFragment (some (.text text)) = toLowerCase text := by
  have plain := isPlain_iff.mp plain
  have trimmed : trim text = text := by
    apply trim_fixed
    · exact fun char first => (plain char (List.mem_of_head? first)).1
    · exact fun char last => (plain char (List.mem_of_getLast? last)).1
  rw [normalizeIntentFragment, IntentValue.write, trimmed]

/-- Keys are told apart by their parts. -/
theorem buildGovernanceIntentKey_iff {input other : GovernanceIntent} (plain : ∀ part ∈ input.fragments, bars part = 0)
    (plain' : ∀ part ∈ other.fragments, bars part = 0) :
    buildGovernanceIntentKey input = buildGovernanceIntentKey other ↔ input.fragments = other.fragments := by
  constructor
  · intro same
    have lists := congrArg String.toList same
    have bar : "|".toList = ['|'] := rfl
    rw [buildGovernanceIntentKey, buildGovernanceIntentKey, String.toList_intercalate, String.toList_intercalate, bar]
      at lists
    have unmarked {parts : List String} (plain : ∀ part ∈ parts, bars part = 0) :
        ∀ part ∈ parts.map String.toList, '|' ∉ part := by
      intro part member
      obtain ⟨text, among, rfl⟩ := List.mem_map.mp member
      exact List.count_eq_zero.mp (plain text among)
    have parts := intercalate_injective (by simp [GovernanceIntent.fragments]) (unmarked plain) (unmarked plain') lists
    exact List.map_injective_iff.mpr (fun _ _ => String.toList_injective) parts
  · intro same
    rw [buildGovernanceIntentKey, buildGovernanceIntentKey, same]

end Fragments

section Chains

/-- What `Number.parseInt` makes of a positive chain id. -/
inductive ChainId where
  | finite (value : Nat) (positive : 0 < value) (double : roundToDouble value = value)
  | infinite

def ChainId.write : ChainId → String
  | .finite value _ _ => writeDouble value
  | .infinite => "Infinity"

private theorem digit_mark (digit : char.isDigit = true) :
    char.toLower = char ∧ char ≠ 'i' ∧ isSpace char = false ∧ char ≠ '|' := by
  have code : char = Char.ofNat char.toNat := (Char.ofNat_toNat char).symm
  simp only [Char.isDigit, Bool.and_eq_true, decide_eq_true_eq, UInt32.le_iff_toNat_le, ge_iff_le] at digit
  have bounds : 48 ≤ char.toNat ∧ char.toNat ≤ 57 := digit
  rw [code]
  generalize char.toNat = number at *
  obtain ⟨least, most⟩ := bounds
  interval_cases number <;> decide

theorem writeDouble_mark (member : char ∈ (writeDouble value).toList) :
    char.toLower = char ∧ char ≠ 'i' ∧ isSpace char = false ∧ char ≠ '|' := by
  rcases mem_writeDouble member with digit | rfl | rfl | rfl
  · exact digit_mark digit
  · decide
  · decide
  · decide

private theorem ChainId.plain (chainId : ChainId) : isPlain chainId.write = true := by
  cases chainId with
  | finite value => exact isPlain_iff.mpr fun char member => (writeDouble_mark member).2.2
  | infinite => decide

private theorem toLowerCase_writeDouble (value : Nat) : toLowerCase (writeDouble value) = writeDouble value := by
  apply String.toList_inj.mp
  rw [toLowerCase_toList]
  exact (List.map_congr_left fun _ member => (writeDouble_mark member).1).trans (List.map_id _)

theorem ChainId.write_injective {chainId other : ChainId} (same : toLowerCase chainId.write = toLowerCase other.write) :
    chainId = other := by
  have apart (value : Nat) : writeDouble value ≠ toLowerCase "Infinity" := by
    intro same
    have infinity : 'i' ∈ (toLowerCase "Infinity").toList := by decide
    exact (writeDouble_mark (same ▸ infinity)).2.1 rfl
  cases chainId with
  | finite value positive double =>
    cases other with
    | finite value' positive' double' =>
      rw [ChainId.write, ChainId.write, toLowerCase_writeDouble, toLowerCase_writeDouble] at same
      cases writeDouble_injective double double' same
      rfl
    | infinite =>
      rw [ChainId.write, toLowerCase_writeDouble] at same
      exact absurd same (apart value)
  | infinite =>
    cases other with
    | finite value' positive' double' =>
      rw [ChainId.write, ChainId.write, toLowerCase_writeDouble] at same
      exact absurd same.symm (apart value')
    | infinite => rfl

end Chains

section Actions

/-- The methods that the routes queue. -/
def governanceContractMethods : List String :=
  ["pause", "pauseClaims", "unpauseClaims", "proposeUnpause", "approveUnpause", "cancelUnpauseProposal",
    "disableOracleEmergency", "claimTreasury", "proposeTreasuryPayoutAddressUpdate",
    "approveTreasuryPayoutAddressUpdate", "executeTreasuryPayoutAddressUpdate",
    "cancelExpiredTreasuryPayoutAddressUpdateProposal", "proposeOracleUpdate", "approveOracleUpdate",
    "executeOracleUpdate", "cancelExpiredOracleUpdateProposal"]

private theorem contractMethod_plain : ∀ contractMethod ∈ governanceContractMethods, isPlain contractMethod = true := by
  decide +kernel

theorem contractMethod_injective : ∀ contractMethod ∈ governanceContractMethods, ∀ other ∈ governanceContractMethods,
    toLowerCase contractMethod = toLowerCase other → contractMethod = other := by
  decide +kernel

private theorem category_plain (category : GovernanceActionCategory) : isPlain category.value = true := by
  cases category <;> decide

private theorem category_injective {category other : GovernanceActionCategory} :
    toLowerCase category.value = toLowerCase other.value → category = other := by
  cases category <;> cases other <;> decide

/-- What every action that a route queues is made of. -/
structure QueuedAction.Proper (ethers : Ethers) (queued : QueuedAction) : Prop where
  contractMethod : queued.contractMethod ∈ governanceContractMethods
  proposalId : ∀ number, queued.proposalId = some number → Safe number
  targetAddress : ∀ text, queued.targetAddress = some text → ∃ address, ethers.getAddress text = some address

theorem proposalAction_proper {target : Matter → Address} {eta : Matter → Nat} {book : ProposalBook Address Matter}
    (checksums : ethers.Checksums) (legible : ProposalLegible eta book number) (known : number < book.counter)
    (method : contractMethod ∈ governanceContractMethods) :
    (proposalAction ethers target book category contractMethod number).Proper ethers := by
  refine ⟨method, ?_, ?_⟩
  · intro other named
    cases named
    exact known.trans legible.counter
  · intro text named
    cases named
    exact ⟨_, getAddress_format checksums _⟩

private theorem queued_proper {s : World σ} {route : GovernanceRoute} {queued : QueuedAction} {msg : Message}
    (checksums : ethers.Checksums) (legible : route.Legible s request) (checked : route.Checked ethers s msg request)
    (acted : route.action ethers s request = some queued) : queued.Proper ethers := by
  cases route with
  | approvePayoutReceiver | approveOracle =>
    obtain ⟨number, named, rfl⟩ := Option.map_eq_some_iff.mp acted
    obtain ⟨_, same, approvable⟩ := checked
    cases named.symm.trans same
    exact proposalAction_proper checksums (legible number named) approvable.live.known (by decide)
  | executePayoutReceiver | executeOracle =>
    obtain ⟨number, named, rfl⟩ := Option.map_eq_some_iff.mp acted
    obtain ⟨_, same, executable⟩ := checked
    cases named.symm.trans same
    exact proposalAction_proper checksums (legible number named).1 executable.live.known (by decide)
  | cancelExpiredPayoutReceiver | cancelExpiredOracle =>
    obtain ⟨number, named, rfl⟩ := Option.map_eq_some_iff.mp acted
    obtain ⟨_, same, cancellable⟩ := checked
    cases named.symm.trans same
    exact proposalAction_proper checksums (legible number named) cancellable.known (by decide)
  | payoutReceiverProposals | oracleProposals =>
    cases acted
    refine ⟨List.contains_iff_mem.mp rfl, (fun _ named => by cases named), ?_⟩
    intro text named
    cases named
    exact Option.isSome_iff_exists.mp checked.1
  | disableOracleEmergency =>
    cases acted
    refine ⟨List.contains_iff_mem.mp rfl, (fun _ named => by cases named), ?_⟩
    intro text named
    cases named
    exact ⟨_, getAddress_format checksums _⟩
  | _ =>
    cases acted
    exact ⟨List.contains_iff_mem.mp rfl, (fun _ named => by cases named), fun _ named => by cases named⟩

end Actions

section Submissions

/-- A request that a route lets through to `queueAction`, with the wallet of the session as the auth service writes it,
and the chain of the gateway. -/
structure Submission (ethers : Ethers) (σ : Type) where
  route : GovernanceRoute
  world : World σ
  now : Nat
  request : GovernanceRequest
  chainId : ChainId
  approver : Address
  queued : QueuedAction
  spelled : Prefixed request.walletAddress approver
  resolves : ethers.resolveAddress request.walletAddress = some approver
  accepted : route.queue ethers (governanceContract ethers world) now request = .ok queued

/-- What `queueAction` builds the key of. -/
def Submission.intent (submission : Submission ethers σ) : GovernanceIntent where
  category := submission.queued.category
  contractMethod := submission.queued.contractMethod
  proposalId := submission.queued.proposalId.map Int.ofNat
  targetAddress := submission.queued.targetAddress
  tradeId := none
  chainId := some (.text submission.chainId.write)
  approverWallet := some submission.request.walletAddress

def Submission.intentKey (submission : Submission ethers σ) : String :=
  buildGovernanceIntentKey submission.intent

/-- Two requests stand for one call on chain. -/
structure Submission.SameCall (submission other : Submission ethers σ) : Prop where
  category : submission.queued.category = other.queued.category
  contractMethod : submission.queued.contractMethod = other.queued.contractMethod
  proposalId : submission.queued.proposalId = other.queued.proposalId
  targetAddress : submission.queued.targetAddress.bind ethers.getAddress =
    other.queued.targetAddress.bind ethers.getAddress
  tradeId : submission.intent.tradeId = other.intent.tradeId
  chainId : submission.chainId = other.chainId
  approver : isApprovalGovernanceContractMethod submission.queued.contractMethod = true →
    submission.approver = other.approver

theorem Submission.proper (checksums : ethers.Checksums) (submission : Submission ethers σ) :
    submission.queued.Proper ethers := by
  let msg : Message := ⟨submission.approver, submission.now⟩
  have resolved : ethers.resolveAddress submission.request.walletAddress = some msg.sender := submission.resolves
  have queues : submission.route.queue ethers (governanceContract ethers submission.world) msg.timestamp
      submission.request = .ok submission.queued := submission.accepted
  obtain ⟨legible, checked, acted⟩ := (queue_eq_ok resolved checksums submission.route).mp queues
  exact queued_proper checksums legible checked acted

/-- The part of a key for a number that is a proposal's. -/
theorem normalizeIntentFragment_proposalId {proposalId : Option Nat}
    (safe : ∀ number, proposalId = some number → Safe number) :
    normalizeIntentFragment ((proposalId.map Int.ofNat).map .number) = (proposalId.map toString).getD "" := by
  cases proposalId with
  | none => rfl
  | some number =>
    have digits : isPlain (toString number) = true :=
      isPlain_iff.mpr fun char member => (digit_mark (toString_digits number char member)).2.2
    have lowered : toLowerCase (toString number) = toString number := by
      apply String.toList_inj.mp
      rw [toLowerCase_toList]
      exact (List.map_congr_left fun char member => (digit_mark (toString_digits number char member)).1).trans
        (List.map_id _)
    have written : writeNumber (Int.ofNat number) = toString number := writeNumber_safe (safe number rfl)
    have fragment := normalizeIntentFragment_plain digits
    rw [normalizeIntentFragment, IntentValue.write, lowered] at fragment
    rw [Option.map_some, Option.map_some, normalizeIntentFragment, IntentValue.write, written, fragment,
      Option.map_some, Option.getD_some]

private theorem isSpace_alphanum (alphanumeric : char.isAlphanum = true) : isSpace char = false := by
  have bounds : 48 ≤ char.toNat ∧ char.toNat ≤ 122 := by
    simp only [Char.isAlphanum, Char.isAlpha, Char.isUpper, Char.isLower, Char.isDigit, Bool.or_eq_true,
      Bool.and_eq_true, decide_eq_true_eq, UInt32.le_iff_toNat_le, ge_iff_le] at alphanumeric
    have code : char.val.toNat = char.toNat := rfl
    have digits : '0'.val.toNat = 48 ∧ '9'.val.toNat = 57 := ⟨rfl, rfl⟩
    have capitals : 'A'.val.toNat = 65 ∧ 'Z'.val.toNat = 90 := ⟨rfl, rfl⟩
    have letters : 'a'.val.toNat = 97 ∧ 'z'.val.toNat = 122 := ⟨rfl, rfl⟩
    omega
  simp only [isSpace, List.contains_eq_mem, List.mem_cons, List.not_mem_nil, or_false, Bool.or_eq_false_iff,
    decide_eq_false_iff_not, Bool.and_eq_false_iff]
  omega

private theorem address_plain (caseless : ethers.Caseless) (read : ethers.getAddress text = some address) :
    isPlain text = true := by
  refine isPlain_iff.mpr fun char member => ?_
  have alphanumeric := getAddress_plain caseless read char member
  refine ⟨isSpace_alphanum alphanumeric, ?_⟩
  rintro rfl
  exact absurd alphanumeric (by decide)

/-- The part of a key for a target is its text in lower case. -/
theorem normalizeIntentFragment_target {targetAddress : Option String} (caseless : ethers.Caseless)
    (spelled : ∀ text, targetAddress = some text → ∃ address, ethers.getAddress text = some address) :
    normalizeIntentFragment (targetAddress.map .text) = (targetAddress.map toLowerCase).getD "" := by
  cases targetAddress with
  | none => rfl
  | some text =>
    obtain ⟨address, read⟩ := spelled text rfl
    exact normalizeIntentFragment_plain (address_plain caseless read)

private theorem prefixed_plain (spelled : Prefixed text address) : isPlain text = true := by
  refine isPlain_iff.mpr fun char member => ?_
  have lowered : char.toLower ∈ (toLowerCase text).toList := by
    rw [toLowerCase_toList]
    exact List.mem_map_of_mem member
  rw [spelled.lowered, addressText_toList] at lowered
  have alphanumeric : char.isAlphanum = true := by
    rw [← isAlphanum_toLower]
    rcases List.mem_cons.mp lowered with zero | lowered
    · rw [zero]
      rfl
    · rcases List.mem_cons.mp lowered with mark | digit
      · rw [mark]
        rfl
      · exact (mem_hexDigits digit).1
  refine ⟨isSpace_alphanum alphanumeric, ?_⟩
  rintro rfl
  exact absurd alphanumeric (by decide)

/-- The parts of the key of a request. -/
theorem fragments_eq (checksums : ethers.Checksums) (caseless : ethers.Caseless) (submission : Submission ethers σ) :
    submission.intent.fragments =
      ["v1", toLowerCase submission.queued.category.value, toLowerCase submission.queued.contractMethod,
        (submission.queued.proposalId.map toString).getD "",
        (submission.queued.targetAddress.map toLowerCase).getD "", "", toLowerCase submission.chainId.write,
        if isApprovalGovernanceContractMethod submission.queued.contractMethod then addressText submission.approver
          else ""] := by
  obtain ⟨method, proposalId, targetAddress⟩ := submission.proper checksums
  have category := normalizeIntentFragment_plain (category_plain submission.queued.category)
  have contractMethod := normalizeIntentFragment_plain (contractMethod_plain _ method)
  have proposal := normalizeIntentFragment_proposalId proposalId
  have target := normalizeIntentFragment_target caseless targetAddress
  have chain := normalizeIntentFragment_plain submission.chainId.plain
  have approver := normalizeIntentFragment_plain (prefixed_plain submission.spelled)
  rw [submission.spelled.lowered] at approver
  have absent : normalizeIntentFragment none = "" := rfl
  cases approving : isApprovalGovernanceContractMethod submission.queued.contractMethod with
  | true =>
    simp only [GovernanceIntent.fragments, Submission.intent, category, contractMethod, proposal, target, chain, absent,
      approver, approving, Option.map_some, Option.map_none, if_true]
  | false =>
    simp only [GovernanceIntent.fragments, Submission.intent, category, contractMethod, proposal, target, chain, absent,
      approving, Option.map_some, Option.map_none, Bool.false_eq_true, if_false]

private theorem bars_plain (plain : isPlain text = true) : bars text = 0 :=
  List.count_eq_zero.mpr fun member => (isPlain_iff.mp plain '|' member).2 rfl

private theorem bars_optional {texts : Option String} (plain : ∀ text, texts = some text → isPlain text = true) :
    bars ((texts.map toLowerCase).getD "") = 0 := by
  cases texts with
  | none => rfl
  | some text =>
    rw [Option.map_some, Option.getD_some, bars_toLowerCase]
    exact bars_plain (plain text rfl)

theorem bars_fragments (checksums : ethers.Checksums) (caseless : ethers.Caseless) (submission : Submission ethers σ) :
    ∀ part ∈ submission.intent.fragments, bars part = 0 := by
  obtain ⟨method, _, targetAddress⟩ := submission.proper checksums
  have proposal : bars ((submission.queued.proposalId.map toString).getD "") = 0 := by
    cases submission.queued.proposalId with
    | none => rfl
    | some number => exact bars_toString number
  have target : bars ((submission.queued.targetAddress.map toLowerCase).getD "") = 0 := by
    refine bars_optional fun text named => ?_
    obtain ⟨address, read⟩ := targetAddress text named
    exact address_plain caseless read
  have approver : bars (addressText submission.approver) = 0 := by
    rw [← submission.spelled.lowered, bars_toLowerCase]
    exact bars_plain (prefixed_plain submission.spelled)
  have version : bars "v1" = 0 := rfl
  have empty : bars "" = 0 := rfl
  rw [fragments_eq checksums caseless]
  simp only [List.mem_cons, List.not_mem_nil, or_false]
  rintro part (rfl | rfl | rfl | rfl | rfl | rfl | rfl | rfl)
  · exact version
  · rw [bars_toLowerCase]
    exact bars_plain (category_plain _)
  · rw [bars_toLowerCase]
    exact bars_plain (contractMethod_plain _ method)
  · exact proposal
  · exact target
  · exact empty
  · rw [bars_toLowerCase]
    exact bars_plain submission.chainId.plain
  · split
    · exact approver
    · exact empty

/-- A part that is no empty text is told from one that is absent. -/
theorem getD_injective {first second : Option String} (written : ∀ text, first = some text → text ≠ "")
    (written' : ∀ text, second = some text → text ≠ "") (same : first.getD "" = second.getD "") : first = second := by
  cases first with
  | none =>
    cases second with
    | none => rfl
    | some text => exact absurd same.symm (written' text rfl)
  | some text =>
    cases second with
    | none => exact absurd same (written text rfl)
    | some other => exact congrArg some same

private theorem number_written {proposalId : Option Nat} (named : proposalId.map toString = some text) : text ≠ "" := by
  obtain ⟨number, _, rfl⟩ := Option.map_eq_some_iff.mp named
  exact fun empty => toString_ne_nil number (congrArg String.toList empty)

theorem addressed_text (marked : ethers.Marked) (read : ethers.getAddress text = some address) : toLowerCase text ≠ "" := by
  intro empty
  have lists := congrArg String.toList empty
  rw [toLowerCase_toList] at lists
  rcases getAddress_cases read with spelled | bare | coded
  · rw [← toLowerCase_toList, spelled.lowered, addressText_toList] at lists
    cases lists
  · have lengths := congrArg List.length (bare.symm.trans lists)
    rw [length_hexDigits] at lengths
    cases lengths
  · obtain ⟨rest, start⟩ := marked text address coded
    rw [start] at lists
    cases lists

private theorem target_written {targetAddress : Option String} (marked : ethers.Marked)
    (spelled : ∀ text, targetAddress = some text → ∃ address, ethers.getAddress text = some address)
    (lowered : targetAddress.map toLowerCase = some text) : text ≠ "" := by
  obtain ⟨given, named, rfl⟩ := Option.map_eq_some_iff.mp lowered
  obtain ⟨address, read⟩ := spelled given named
  exact addressed_text marked read

/-- What the key of a request tells. -/
structure Submission.Alike (submission other : Submission ethers σ) : Prop where
  category : submission.queued.category = other.queued.category
  contractMethod : submission.queued.contractMethod = other.queued.contractMethod
  proposalId : submission.queued.proposalId = other.queued.proposalId
  targetAddress : submission.queued.targetAddress.map toLowerCase = other.queued.targetAddress.map toLowerCase
  chainId : submission.chainId = other.chainId
  approver : isApprovalGovernanceContractMethod submission.queued.contractMethod = true →
    submission.approver = other.approver

theorem intentKey_alike (checksums : ethers.Checksums) (marked : ethers.Marked) (caseless : ethers.Caseless)
    (submission other : Submission ethers σ) : submission.intentKey = other.intentKey ↔ submission.Alike other := by
  rw [Submission.intentKey, Submission.intentKey, buildGovernanceIntentKey_iff
    (bars_fragments checksums caseless submission) (bars_fragments checksums caseless other),
    fragments_eq checksums caseless, fragments_eq checksums caseless]
  obtain ⟨method, _, target⟩ := submission.proper checksums
  obtain ⟨method', _, target'⟩ := other.proper checksums
  constructor
  · intro same
    simp only [List.cons.injEq, true_and, and_true] at same
    obtain ⟨category, contractMethod, proposalId, targetAddress, chainId, approver⟩ := same
    have named := contractMethod_injective _ method _ method' contractMethod
    refine ⟨category_injective category, named, ?_, ?_, ChainId.write_injective chainId, ?_⟩
    · have numbers := getD_injective (fun _ => number_written) (fun _ => number_written) proposalId
      exact Option.map_injective toString_injective numbers
    · exact getD_injective (fun _ => target_written marked target) (fun _ => target_written marked target') targetAddress
    · intro approves
      rw [← named, if_pos approves, if_pos approves] at approver
      exact addressText_injective approver
  · rintro ⟨category, contractMethod, proposalId, targetAddress, chainId, approver⟩
    rw [category, ← contractMethod, proposalId, targetAddress, chainId]
    split
    · rename_i approves
      rw [approver approves]
    · rfl

/-- Target texts of one case-folding are of one address. -/
theorem lowered_targets {first second : Option String} (marked : ethers.Marked) (caseless : ethers.Caseless)
    (spelled : ∀ text, first = some text → ∃ address, ethers.getAddress text = some address)
    (spelled' : ∀ text, second = some text → ∃ address, ethers.getAddress text = some address)
    (same : first.map toLowerCase = second.map toLowerCase) :
    first.bind ethers.getAddress = second.bind ethers.getAddress := by
  cases first with
  | none =>
    cases second with
    | none => rfl
    | some text => cases same
  | some text =>
    cases second with
    | none => cases same
    | some other =>
      obtain ⟨address, read⟩ := spelled text rfl
      obtain ⟨address', read'⟩ := spelled' other rfl
      have one : address = address' := getAddress_lowered marked caseless read read' (Option.some.inj same)
      change ethers.getAddress text = ethers.getAddress other
      rw [read, read', one]

/-- No two calls share a key; and two requests for one call share it exactly if their target texts differ in case alone. -/
theorem intentKey_calls (checksums : ethers.Checksums) (marked : ethers.Marked) (caseless : ethers.Caseless)
    (submission other : Submission ethers σ) :
    (submission.intentKey = other.intentKey → submission.SameCall other) ∧
      (submission.SameCall other → (submission.intentKey = other.intentKey ↔
        submission.queued.targetAddress.map toLowerCase = other.queued.targetAddress.map toLowerCase)) := by
  constructor
  · intro same
    obtain ⟨category, contractMethod, proposalId, targetAddress, chainId, approver⟩ :=
      (intentKey_alike checksums marked caseless submission other).mp same
    have targets := lowered_targets marked caseless (submission.proper checksums).targetAddress
      (other.proper checksums).targetAddress targetAddress
    exact ⟨category, contractMethod, proposalId, targets, rfl, chainId, approver⟩
  · intro call
    rw [intentKey_alike checksums marked caseless]
    exact ⟨Submission.Alike.targetAddress, fun lowered =>
      ⟨call.category, call.contractMethod, call.proposalId, lowered, call.chainId, call.approver⟩⟩

theorem succeeds_with {result : Except ε α} (success : result.toOption = some value) : result = .ok value := by
  cases result with
  | error => cases success
  | ok => exact congrArg Except.ok (Option.some.inj success)

theorem plainEthers_caseless : plainEthers.Caseless := by
  constructor
  · intro text address coded
    cases coded
  · intro text other address address' coded
    cases coded

theorem adminRequest_spelled : Prefixed adminRequest.walletAddress Mock.admin1 := by
  have digits : ((prefixedDigits false adminRequest.walletAddress.toList).bind fun digits =>
      (hexNumber digits).map Address.ofNumber) = some Mock.admin1 := by decide +kernel
  exact Option.bind_eq_some_iff.mp digits

/-- The oracle that `adminRequest` proposes, without the prefix. -/
def bareRequest : GovernanceRequest :=
  { adminRequest with address := "0000000000000000000000000000000000000012" }

/-- One call, asked for with its oracle spelled in two ways, has two keys. -/
theorem oracle_spelled_twice : ∃ submission other : Submission plainEthers MockUSDC,
    submission.SameCall other ∧ submission.intentKey ≠ other.intentKey := by
  obtain ⟨s, _, success, _⟩ := @deployed_world [Mock.admin1, Mock.admin2] (by decide +kernel)
  have passes : (Mock.scenario (Mock.config [Mock.admin1, Mock.admin2] 1) []).map (fun s =>
      ((GovernanceRoute.oracleProposals.queue plainEthers (governanceContract plainEthers s) 2 adminRequest).toOption,
        (GovernanceRoute.oracleProposals.queue plainEthers (governanceContract plainEthers s) 2 bareRequest).toOption)) =
      some (some ⟨.oracleUpdate, "proposeOracleUpdate", none, some adminRequest.address⟩,
        some ⟨.oracleUpdate, "proposeOracleUpdate", none, some bareRequest.address⟩) := by
    decide +kernel
  rw [success] at passes
  obtain ⟨queues, queues'⟩ := Prod.mk.inj (Option.some.inj passes)
  let chain : ChainId := .finite 31337 (by decide) (by decide)
  let submission : Submission plainEthers MockUSDC :=
    ⟨.oracleProposals, s, 2, adminRequest, chain, Mock.admin1, _, adminRequest_spelled, adminRequest_wallet,
      succeeds_with queues⟩
  let other : Submission plainEthers MockUSDC :=
    ⟨.oracleProposals, s, 2, bareRequest, chain, Mock.admin1, _, adminRequest_spelled, adminRequest_wallet,
      succeeds_with queues'⟩
  have one : submission.SameCall other := by
    refine ⟨rfl, rfl, rfl, ?_, rfl, rfl, fun _ => rfl⟩
    change plainEthers.getAddress adminRequest.address = plainEthers.getAddress bareRequest.address
    decide +kernel
  refine ⟨submission, other, one, fun same => ?_⟩
  have texts := ((intentKey_calls plainEthers_checksums plainEthers_marked plainEthers_caseless submission other).2
    one).mp same
  have apart : (some adminRequest.address).map toLowerCase ≠ (some bareRequest.address).map toLowerCase := by decide
  exact apart texts

end Submissions

end Agroasys.Gateway
