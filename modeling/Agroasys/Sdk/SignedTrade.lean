import Agroasys.Escrow.SignedOrders
import Agroasys.Sdk.BuyerSdk

namespace Agroasys.Sdk

open Function Agroasys.Foundation Agroasys.Runtime Agroasys.Escrow

/-- The values that go into a trade message. -/
structure MessageInput where
  chainId : JsNumber
  escrowAddress : String
  buyerAddress : String
  treasuryAddress : String
  params : TradeParameters
  nonce : Int
  deadline : JsNumber

def MessageInput.words (ethers : Ethers) (input : MessageInput) : Option (List Word) :=
  tradeMessageWords ethers input.chainId input.escrowAddress input.buyerAddress input.treasuryAddress input.params
    input.nonce input.deadline

/-- The thirteen fields agree: as numbers, as addresses and as bytes. -/
structure SameFields (ethers : Ethers) (first second : MessageInput) : Prop where
  chainId : first.chainId = second.chainId
  escrow : ethers.getAddress first.escrowAddress = ethers.getAddress second.escrowAddress
  buyer : ethers.getAddress first.buyerAddress = ethers.getAddress second.buyerAddress
  supplier : ethers.getAddress first.params.supplier = ethers.getAddress second.params.supplier
  treasury : ethers.getAddress first.treasuryAddress = ethers.getAddress second.treasuryAddress
  totalAmount : first.params.totalAmount = second.params.totalAmount
  logisticsAmount : first.params.logisticsAmount = second.params.logisticsAmount
  platformFeesAmount : first.params.platformFeesAmount = second.params.platformFeesAmount
  supplierFirstTranche : first.params.supplierFirstTranche = second.params.supplierFirstTranche
  supplierSecondTranche : first.params.supplierSecondTranche = second.params.supplierSecondTranche
  ricardianHash : bytes32 first.params.ricardianHash = bytes32 second.params.ricardianHash
  nonce : first.nonce = second.nonce
  deadline : first.deadline = second.deadline

section Coder

theorem uint256_eq_some : uint256 value = some word ↔ (0 ≤ value ∧ value < 2 ^ 256) ∧ BitVec.ofInt 256 value = word := by
  unfold uint256
  rw [Option.ite_none_right_eq_some, Option.some.injEq]

/-- What is read of a word fixes the number. -/
theorem uint256_injective (first : uint256 value = some word) (second : uint256 other = some word) : value = other := by
  obtain ⟨fits, rfl⟩ := uint256_eq_some.mp first
  obtain ⟨bound, same⟩ := uint256_eq_some.mp second
  have naturals := congrArg BitVec.toNat same
  rw [BitVec.toNat_ofInt, BitVec.toNat_ofInt] at naturals
  omega

private theorem getBigInt_eq_some (read : getBigInt number = some value) : number = .integer value := by
  cases number with
  | integer given =>
    rw [getBigInt, Option.ite_none_right_eq_some] at read
    exact congrArg JsNumber.integer (Option.some.inj read.2)
  | nan => cases read
  | other => cases read

private theorem safeWord_injective (first : (getBigInt number).bind uint256 = some word)
    (second : (getBigInt other).bind uint256 = some word) : number = other := by
  obtain ⟨value, read, encoded⟩ := Option.bind_eq_some_iff.mp first
  obtain ⟨given, parsed, coded⟩ := Option.bind_eq_some_iff.mp second
  rw [getBigInt_eq_some read, getBigInt_eq_some parsed, uint256_injective encoded coded]

/-- The fields of a trade message as the coder reads them. -/
structure MessageFields where
  chainId : Word
  escrow : Address
  buyer : Address
  supplier : Address
  treasury : Address
  totalAmount : Word
  logisticsAmount : Word
  platformFeesAmount : Word
  supplierFirstTranche : Word
  supplierSecondTranche : Word
  ricardianHash : Bytes32
  nonce : Word
  deadline : Word

def MessageFields.words (fields : MessageFields) : List Word :=
  [fields.chainId, fields.escrow.toWord, fields.buyer.toWord, fields.supplier.toWord, fields.treasury.toWord,
    fields.totalAmount, fields.logisticsAmount, fields.platformFeesAmount, fields.supplierFirstTranche,
    fields.supplierSecondTranche, fields.ricardianHash, fields.nonce, fields.deadline]

structure MessageInput.Reads (ethers : Ethers) (input : MessageInput) (fields : MessageFields) : Prop where
  chainId : (getBigInt input.chainId).bind uint256 = some fields.chainId
  escrow : ethers.getAddress input.escrowAddress = some fields.escrow
  buyer : ethers.getAddress input.buyerAddress = some fields.buyer
  supplier : ethers.getAddress input.params.supplier = some fields.supplier
  treasury : ethers.getAddress input.treasuryAddress = some fields.treasury
  totalAmount : uint256 input.params.totalAmount = some fields.totalAmount
  logisticsAmount : uint256 input.params.logisticsAmount = some fields.logisticsAmount
  platformFeesAmount : uint256 input.params.platformFeesAmount = some fields.platformFeesAmount
  supplierFirstTranche : uint256 input.params.supplierFirstTranche = some fields.supplierFirstTranche
  supplierSecondTranche : uint256 input.params.supplierSecondTranche = some fields.supplierSecondTranche
  ricardianHash : bytes32 input.params.ricardianHash = some fields.ricardianHash
  nonce : uint256 input.nonce = some fields.nonce
  deadline : (getBigInt input.deadline).bind uint256 = some fields.deadline

/-- The words of a message are those of its fields. -/
theorem words_read {input : MessageInput} (coded : input.words ethers = some words) :
    ∃ fields, input.Reads ethers fields ∧ words = fields.words := by
  obtain ⟨chainId, chained, coded⟩ := Option.bind_eq_some_iff.mp coded
  obtain ⟨escrow, escrowed, coded⟩ := Option.bind_eq_some_iff.mp coded
  obtain ⟨buyer, bought, coded⟩ := Option.bind_eq_some_iff.mp coded
  obtain ⟨supplier, supplied, coded⟩ := Option.bind_eq_some_iff.mp coded
  obtain ⟨treasury, treasured, coded⟩ := Option.bind_eq_some_iff.mp coded
  obtain ⟨totalAmount, total, coded⟩ := Option.bind_eq_some_iff.mp coded
  obtain ⟨logisticsAmount, logistics, coded⟩ := Option.bind_eq_some_iff.mp coded
  obtain ⟨platformFeesAmount, fees, coded⟩ := Option.bind_eq_some_iff.mp coded
  obtain ⟨supplierFirstTranche, first, coded⟩ := Option.bind_eq_some_iff.mp coded
  obtain ⟨supplierSecondTranche, second, coded⟩ := Option.bind_eq_some_iff.mp coded
  obtain ⟨ricardianHash, ricardian, coded⟩ := Option.bind_eq_some_iff.mp coded
  obtain ⟨nonce, counted, coded⟩ := Option.bind_eq_some_iff.mp coded
  obtain ⟨deadline, limited, coded⟩ := Option.bind_eq_some_iff.mp coded
  refine ⟨⟨chainId, escrow, buyer, supplier, treasury, totalAmount, logisticsAmount, platformFeesAmount,
    supplierFirstTranche, supplierSecondTranche, ricardianHash, nonce, deadline⟩, ?_, (Option.some.inj coded).symm⟩
  exact ⟨chained, escrowed, bought, supplied, treasured, total, logistics, fees, first, second, ricardian, counted,
    limited⟩

theorem fields_injective {first second : MessageFields} (same : abiEncode first.words = abiEncode second.words) :
    first = second := by
  have words := abiEncode_injective (by rfl) same
  simp only [MessageFields.words, List.cons.injEq, Address.toWord_injective.eq_iff] at words
  obtain ⟨chainId, escrow, buyer, supplier, treasury, total, logistics, fees, firstTranche, secondTranche, ricardian,
    nonce, deadline, _⟩ := words
  cases first
  cases second
  simp_all

/-- A changed field changes what is hashed. -/
theorem MessageInput.Reads.injective {first second : MessageInput} (read : first.Reads ethers fields)
    (again : second.Reads ethers fields) : SameFields ethers first second where
  chainId := safeWord_injective read.chainId again.chainId
  escrow := read.escrow.trans again.escrow.symm
  buyer := read.buyer.trans again.buyer.symm
  supplier := read.supplier.trans again.supplier.symm
  treasury := read.treasury.trans again.treasury.symm
  totalAmount := uint256_injective read.totalAmount again.totalAmount
  logisticsAmount := uint256_injective read.logisticsAmount again.logisticsAmount
  platformFeesAmount := uint256_injective read.platformFeesAmount again.platformFeesAmount
  supplierFirstTranche := uint256_injective read.supplierFirstTranche again.supplierFirstTranche
  supplierSecondTranche := uint256_injective read.supplierSecondTranche again.supplierSecondTranche
  ricardianHash := read.ricardianHash.trans again.ricardianHash.symm
  nonce := uint256_injective read.nonce again.nonce
  deadline := safeWord_injective read.deadline again.deadline

/-- A call carries the values of its message. -/
theorem createTradeCall_reads {ethers : Ethers} (unspelled : ethers.Unspelled) {input : MessageInput}
    (read : input.Reads ethers fields)
    (encoded : createTradeCall ethers input.params input.nonce input.deadline signature = some order) :
    order = ⟨fields.supplier, fields.totalAmount, fields.logisticsAmount, fields.platformFeesAmount,
      fields.supplierFirstTranche, fields.supplierSecondTranche, fields.ricardianHash, fields.nonce, fields.deadline,
      signature⟩ := by
  obtain ⟨supplier, supplied, encoded⟩ := Option.bind_eq_some_iff.mp encoded
  have resolved : supplier = fields.supplier := by
    unfold Ethers.resolveAddress at supplied
    split at supplied
    · exact Option.some.inj (supplied.symm.trans read.supplier)
    · rename_i unprefixed
      have unnamed := unspelled input.params.supplier unprefixed (by
        unfold Ethers.isAddress
        rw [read.supplier]
        rfl)
      rw [unnamed] at supplied
      cases supplied
  obtain ⟨_, total, encoded⟩ := Option.bind_eq_some_iff.mp encoded
  obtain ⟨_, logistics, encoded⟩ := Option.bind_eq_some_iff.mp encoded
  obtain ⟨_, fees, encoded⟩ := Option.bind_eq_some_iff.mp encoded
  obtain ⟨_, first, encoded⟩ := Option.bind_eq_some_iff.mp encoded
  obtain ⟨_, second, encoded⟩ := Option.bind_eq_some_iff.mp encoded
  obtain ⟨_, ricardian, encoded⟩ := Option.bind_eq_some_iff.mp encoded
  obtain ⟨_, counted, encoded⟩ := Option.bind_eq_some_iff.mp encoded
  obtain ⟨_, limited, encoded⟩ := Option.bind_eq_some_iff.mp encoded
  cases read.totalAmount.symm.trans total
  cases read.logisticsAmount.symm.trans logistics
  cases read.platformFeesAmount.symm.trans fees
  cases read.supplierFirstTranche.symm.trans first
  cases read.supplierSecondTranche.symm.trans second
  cases read.ricardianHash.symm.trans ricardian
  cases read.nonce.symm.trans counted
  cases read.deadline.symm.trans limited
  rw [← resolved]
  exact (Option.some.inj encoded).symm

private theorem createTradeCall_signature
    (encoded : createTradeCall ethers params nonce deadline signature = some order) : order.signature = signature := by
  unfold createTradeCall at encoded
  simp only [Option.bind_eq_bind, Option.bind_eq_some_iff] at encoded
  obtain ⟨_, _, _, _, _, _, _, _, _, _, _, _, _, _, _, _, _, _, same⟩ := encoded
  cases same
  rfl

end Coder

section Calls

variable {ethers : Ethers} {keccak256 : Bytes → Bytes32} {config : SdkConfig} {params : TradeParameters}
  {genuine : Event BuyerEffect BuyerAnswer → Prop} {before events : List (Event BuyerEffect BuyerAnswer)}

/-- Nothing was sent, and nothing forgotten. -/
structure Unsent (before events : List (Event BuyerEffect BuyerAnswer)) : Prop where
  kept : ∀ event ∈ before, event ∈ events
  unsent : ∀ order answer, ⟨.createTrade order, answer⟩ ∈ events → ⟨.createTrade order, answer⟩ ∈ before

theorem Unsent.refl : Unsent before before :=
  ⟨fun _ => id, fun _ _ => id⟩

private theorem Unsent.trans (first : Unsent before events) (second : Unsent events later) : Unsent before later :=
  ⟨fun event member => second.kept event (first.kept event member),
    fun order answer member => first.unsent order answer (second.unsent order answer member)⟩

/-- `wp` over the record of calls. -/
abbrev Asks {α : Type} (genuine : Event BuyerEffect BuyerAnswer → Prop) (task : BuyerTask α)
    (returns : α → List (Event BuyerEffect BuyerAnswer) → Prop) (throws : List (Event BuyerEffect BuyerAnswer) → Prop)
    (before : List (Event BuyerEffect BuyerAnswer)) : Prop :=
  Task.wp (recording genuine) task returns (fun _ events => throws events) before

theorem Asks.mono {task : BuyerTask α} {returned returns : α → List (Event BuyerEffect BuyerAnswer) → Prop}
    (asks : Asks genuine task returned (Unsent before) before)
    (kept : ∀ value events, returned value events → returns value events)
    (quiet : ∀ events, Unsent before events → throws events) : Asks genuine task returns throws before :=
  Task.wp_mono asks kept fun _ events => quiet events

def BuyerEffect.silent : BuyerEffect → Prop
  | .createTrade _ => False
  | _ => True

theorem unsent_call (silent : effect.silent) (recorded : recording genuine before ⟨effect, answer⟩ events) :
    Unsent before events ∧ ⟨effect, answer⟩ ∈ events := by
  obtain ⟨_, rfl⟩ := recorded
  refine ⟨⟨fun event member => List.mem_cons_of_mem _ member, ?_⟩, List.mem_cons_self⟩
  intro order sent member
  rcases List.mem_cons.mp member with same | earlier
  · cases same
    exact silent.elim
  · exact earlier

/-- One call that sends nothing. -/
theorem asks_call {effect : BuyerEffect} {read : BuyerAnswer effect → Except SdkError α} (silent : effect.silent) :
    Asks genuine (do Task.ofExcept (read (← askBuyer effect)))
      (fun value events => Unsent before events ∧ ∃ answer, read answer = .ok value ∧ ⟨effect, answer⟩ ∈ events)
      (Unsent before) before := by
  apply Task.wp_bind
  apply Task.wp_perform
  intro answer events recorded
  obtain ⟨unsent, member⟩ := unsent_call silent recorded
  apply Task.wp_ofExcept
  · intro value given
    exact ⟨unsent, answer, given, member⟩
  · exact fun _ _ => unsent

theorem orThrow_ok {result : Except String α} : orThrow error action result = .ok value ↔ result = .ok value := by
  cases result with
  | ok given => simp only [orThrow, Except.mapError, Except.ok.injEq]
  | error cause =>
    constructor
    · intro thrown
      cases thrown
    · intro thrown
      cases thrown

theorem asks_signer : Asks genuine getSignerAddress (fun _ events => Unsent before events) (Unsent before) before := by
  apply Asks.mono (asks_call (by trivial))
  · exact fun _ _ asked => asked.1
  · exact fun _ => id

theorem asks_allowance : Asks genuine (getUSDCAllowance ethers buyerAddress) (fun _ events => Unsent before events)
    (Unsent before) before := by
  apply Task.wp_bind
  apply Task.wp_ofExcept
  · intro _ _
    apply Asks.mono (asks_call (by trivial))
    · exact fun _ _ asked => asked.1
    · exact fun _ => id
  · exact fun _ _ => .refl

private theorem asks_approve : Asks genuine (approveUSDC amount) (fun _ events => Unsent before events)
    (Unsent before) before := by
  apply Asks.mono (asks_call (by trivial))
  · exact fun _ _ asked => asked.1
  · exact fun _ => id

private theorem asks_nonce : Asks genuine (getBuyerNonce ethers buyerAddress)
    (fun nonce events => Unsent before events ∧ ⟨.getBuyerNonce buyerAddress, .ok nonce⟩ ∈ events)
    (Unsent before) before := by
  apply Task.wp_bind
  apply Task.wp_ofExcept
  · intro _ _
    apply Asks.mono (asks_call (by trivial))
    · intro nonce events asked
      obtain ⟨unsent, answer, given, member⟩ := asked
      rw [orThrow_ok.mp given] at member
      exact ⟨unsent, member⟩
    · exact fun _ => id
  · exact fun _ _ => .refl

private theorem asks_treasury : Asks genuine getTreasuryAddress
    (fun treasury events => Unsent before events ∧ ⟨.treasuryAddress, .ok treasury⟩ ∈ events)
    (Unsent before) before := by
  apply Asks.mono (asks_call (by trivial))
  · intro treasury events asked
    obtain ⟨unsent, answer, given, member⟩ := asked
    rw [orThrow_ok.mp given] at member
    exact ⟨unsent, member⟩
  · exact fun _ => id

private theorem asks_deadline (deadline : Option JsNumber) : Asks genuine (chooseDeadline deadline)
    (fun _ events => Unsent before events) (Unsent before) before := by
  have fallback : Asks genuine defaultDeadline (fun _ events => Unsent before events) (Unsent before) before := by
    apply Task.wp_bind
    apply Task.wp_perform
    intro time events recorded
    exact Task.wp_pure (unsent_call (by trivial) recorded).1
  unfold chooseDeadline
  split
  · exact fallback
  · exact fallback
  · exact fallback
  · exact Task.wp_pure .refl

/-- A signature is of the hash of the message of the values at hand. -/
def SignedBy (ethers : Ethers) (keccak256 : Bytes → Bytes32) (config : SdkConfig) (treasuryAddress : String)
    (params : TradeParameters) (nonce : Int) (deadline : JsNumber) (signature : Bytes)
    (events : List (Event BuyerEffect BuyerAnswer)) : Prop :=
  ∃ buyerAddress messageHash, ⟨.getAddress, .ok buyerAddress⟩ ∈ events ∧
    createTradeMessageHash ethers keccak256 config.chainId config.escrowAddress buyerAddress treasuryAddress params
      nonce deadline = some messageHash ∧
    ⟨.signMessage (Word.toBytes messageHash), .ok signature⟩ ∈ events

theorem asks_signature : Asks genuine (signTradeMessage ethers keccak256 config treasuryAddress params nonce deadline)
    (fun signature events => Unsent before events ∧
      SignedBy ethers keccak256 config treasuryAddress params nonce deadline signature events)
    (Unsent before) before := by
  apply Task.wp_bind
  apply Task.wp_perform
  intro answer between recorded
  obtain ⟨unsent, named⟩ := unsent_call (by trivial) recorded
  apply Task.wp_bind
  apply Task.wp_ofExcept
  · intro buyerAddress given
    rw [orThrow_ok.mp given] at named
    split
    · exact Task.wp_throw unsent
    · rename_i messageHash hashed
      apply Asks.mono (asks_call (by trivial))
      · intro signature events asked
        obtain ⟨further, answer, given, signed⟩ := asked
        rw [orThrow_ok.mp given] at signed
        exact ⟨unsent.trans further, buyerAddress, messageHash, further.kept _ named, hashed, signed⟩
      · exact fun _ further => unsent.trans further
  · exact fun _ _ => unsent

/-- Where a call that was sent comes from. -/
def SentFrom (ethers : Ethers) (keccak256 : Bytes → Bytes32) (config : SdkConfig) (params : TradeParameters)
    (events : List (Event BuyerEffect BuyerAnswer)) (order : Order) : Prop :=
  ∃ treasuryAddress nonce deadline, ⟨.treasuryAddress, .ok treasuryAddress⟩ ∈ events ∧
    SignedBy ethers keccak256 config treasuryAddress params nonce deadline order.signature events ∧
    createTradeCall ethers params nonce deadline order.signature = some order

private theorem Unsent.quiet (unsent : Unsent [] events) (order : Order) (answer : Except String Unit)
    (member : ⟨.createTrade order, answer⟩ ∈ events) : SentFrom ethers keccak256 config params events order := by
  cases unsent.unsent order answer member

/-- The call carries the values that were signed. -/
theorem asks_send (unsent : Unsent [] before) (treasury : ⟨.treasuryAddress, .ok treasuryAddress⟩ ∈ before)
    (signed : SignedBy ethers keccak256 config treasuryAddress params nonce deadline signature before) :
    Asks genuine (sendCreateTrade ethers params nonce deadline signature)
      (fun _ events => ∀ order answer, ⟨.createTrade order, answer⟩ ∈ events →
        SentFrom ethers keccak256 config params events order)
      (fun events => ∀ order answer, ⟨.createTrade order, answer⟩ ∈ events →
        SentFrom ethers keccak256 config params events order) before := by
  unfold sendCreateTrade
  split
  · exact Task.wp_throw unsent.quiet
  · rename_i placed encoded
    have sent (answer : Except String Unit) (order : Order) (other : Except String Unit)
        (member : ⟨.createTrade order, other⟩ ∈
          (⟨.createTrade placed, answer⟩ :: before : List (Event BuyerEffect BuyerAnswer))) :
        SentFrom ethers keccak256 config params (⟨.createTrade placed, answer⟩ :: before) order := by
      rcases List.mem_cons.mp member with same | earlier
      · cases same
        have carried : placed.signature = signature := createTradeCall_signature encoded
        obtain ⟨buyerAddress, messageHash, named, hashed, answered⟩ := signed
        refine ⟨treasuryAddress, nonce, deadline, List.mem_cons_of_mem _ treasury, ?_, ?_⟩
        · rw [carried]
          exact ⟨buyerAddress, messageHash, List.mem_cons_of_mem _ named, hashed, List.mem_cons_of_mem _ answered⟩
        · rw [carried]
          exact encoded
      · cases unsent.unsent order other earlier
    apply Task.wp_bind
    apply Task.wp_perform
    intro answer events recorded
    obtain ⟨_, rfl⟩ := recorded
    apply Task.wp_ofExcept
    · exact fun _ _ => sent answer
    · exact fun _ _ => sent answer

/-- Whatever is sent is sent from its signed values. -/
theorem asks_createTrade : Asks genuine (createTrade ethers keccak256 config params)
    (fun _ events => ∀ order answer, ⟨.createTrade order, answer⟩ ∈ events →
      SentFrom ethers keccak256 config params events order)
    (fun events => ∀ order answer, ⟨.createTrade order, answer⟩ ∈ events →
      SentFrom ethers keccak256 config params events order) [] := by
  apply Task.wp_bind
  apply Task.wp_ofExcept
  · intro _ _
    apply Task.wp_bind
    apply Asks.mono asks_signer
    · intro buyerAddress named first
      apply Task.wp_bind
      apply Asks.mono asks_allowance
      · intro allowance allowed second
        have further := first.trans second
        have rest (events : List (Event BuyerEffect BuyerAnswer)) (unsent : Unsent [] events) :
            Asks genuine (do
              let nonce ← getBuyerNonce ethers buyerAddress
              let deadline ← chooseDeadline params.deadline
              let treasuryAddress ← getTreasuryAddress
              let signature ← signTradeMessage ethers keccak256 config treasuryAddress params nonce deadline
              sendCreateTrade ethers params nonce deadline signature)
              (fun _ events => ∀ order answer, ⟨.createTrade order, answer⟩ ∈ events →
                SentFrom ethers keccak256 config params events order)
              (fun events => ∀ order answer, ⟨.createTrade order, answer⟩ ∈ events →
                SentFrom ethers keccak256 config params events order) events := by
          apply Task.wp_bind
          apply Asks.mono asks_nonce
          · intro nonce counted third
            have numbered := unsent.trans third.1
            apply Task.wp_bind
            apply Asks.mono (asks_deadline _)
            · intro deadline limited fourth
              have bounded := numbered.trans fourth
              apply Task.wp_bind
              apply Asks.mono asks_treasury
              · intro treasuryAddress found fifth
                apply Task.wp_bind
                apply Asks.mono asks_signature
                · intro signature signed sixth
                  exact asks_send ((bounded.trans fifth.1).trans sixth.1) (sixth.1.kept _ fifth.2) sixth.2
                · exact fun _ sixth => ((bounded.trans fifth.1).trans sixth).quiet
              · exact fun _ fifth => (bounded.trans fifth).quiet
            · exact fun _ fourth => (numbered.trans fourth).quiet
          · exact fun _ third => (unsent.trans third).quiet
        split
        · apply Task.wp_bind
          apply Asks.mono asks_approve
          · intro _ approved third
            exact rest approved (further.trans third)
          · exact fun _ third => (further.trans third).quiet
        · exact rest allowed further
      · exact fun _ second => (first.trans second).quiet
    · exact fun _ first => first.quiet
  · exact fun _ _ => Unsent.refl.quiet

end Calls

section Contract

variable {σ Op : Type} {chain : Chain σ Op} {ethers : Ethers}

/-- The fields that the escrow hashes. -/
def orderFields (chain : Chain σ Op) (treasury buyer : Address) (order : Order) : MessageFields :=
  ⟨chain.chainid, chain.self, buyer, order.supplier, treasury, order.totalAmount, order.logisticsAmount,
    order.platformFeesAmount, order.supplierFirstTranche, order.supplierSecondTranche, order.ricardianHash,
    order.buyerNonce, order.deadline⟩

private theorem messageHash_eq (chain : Chain σ Op) (treasury buyer : Address) (order : Order) :
    messageHash chain treasury buyer order = chain.keccak256 (orderBytes chain treasury buyer order) :=
  rfl

private theorem orderBytes_eq (chain : Chain σ Op) (treasury buyer : Address) (order : Order) :
    orderBytes chain treasury buyer order = abiEncode (orderFields chain treasury buyer order).words :=
  rfl

/-- The chain, the escrow, its treasury and the buyer are those of the message. -/
structure MessageInput.Targets (ethers : Ethers) (chain : Chain σ Op) (treasury buyer : Address)
    (input : MessageInput) : Prop where
  chainId : (getBigInt input.chainId).bind uint256 = some chain.chainid
  escrow : ethers.getAddress input.escrowAddress = some chain.self
  treasury : ethers.getAddress input.treasuryAddress = some treasury
  buyer : ethers.getAddress input.buyerAddress = some buyer

/-- Both sides hash the same bytes. -/
theorem encoded_alike (unspelled : ethers.Unspelled) {input : MessageInput}
    (targets : input.Targets ethers chain treasury buyer) (coded : input.words ethers = some words)
    (encoded : createTradeCall ethers input.params input.nonce input.deadline signature = some order) :
    abiEncode words = orderBytes chain treasury buyer order := by
  obtain ⟨fields, read, rfl⟩ := words_read coded
  have carried := createTradeCall_reads unspelled read encoded
  have chained : fields.chainId = chain.chainid := Option.some.inj (read.chainId.symm.trans targets.chainId)
  have escrow : fields.escrow = chain.self := Option.some.inj (read.escrow.symm.trans targets.escrow)
  have treasured : fields.treasury = treasury := Option.some.inj (read.treasury.symm.trans targets.treasury)
  have bought : fields.buyer = buyer := Option.some.inj (read.buyer.symm.trans targets.buyer)
  have agree : fields = orderFields chain treasury buyer order := by
    rw [carried, orderFields, ← chained, ← escrow, ← treasured, ← bought]
  rw [agree, orderBytes_eq]

/-- What the surroundings of a sale answer: one signer, the escrow's treasury, and
signatures that are recovered as the signer's. -/
def Genuine (ethers : Ethers) (chain : Chain σ Op) (treasury signer : Address) :
    Event BuyerEffect BuyerAnswer → Prop
  | ⟨.getAddress, .ok buyerAddress⟩ => ethers.getAddress buyerAddress = some signer
  | ⟨.treasuryAddress, .ok treasuryAddress⟩ => ethers.getAddress treasuryAddress = some treasury
  | ⟨.signMessage message, .ok signature⟩ =>
    message.length = 32 → chain.recover (chain.keccak256 (personalSignPreamble ++ message)) signature = some signer
  | _ => True

/-- A call was made of values whose message the signer signed and the escrow hashes. -/
structure VerifiedAs (ethers : Ethers) (chain : Chain σ Op) (s : World σ) (signer : Address) (params : TradeParameters)
    (events : List (Event BuyerEffect BuyerAnswer)) (order : Order) (input : MessageInput) : Prop where
  params : input.params = params
  targets : input.Targets ethers chain s.treasuryAddress signer
  hashed : createTradeMessageHash ethers chain.keccak256 input.chainId input.escrowAddress input.buyerAddress
    input.treasuryAddress input.params input.nonce input.deadline =
      some (messageHash chain s.treasuryAddress signer order)
  encoded : createTradeCall ethers input.params input.nonce input.deadline order.signature = some order
  signed : ⟨.signMessage (Word.toBytes (messageHash chain s.treasuryAddress signer order)), .ok order.signature⟩ ∈
    events
  recovered : ∀ msg : Message, msg.timestamp ≤ order.deadline.toNat →
    verifySignature chain msg signer order s = .ok signer

private theorem verifySignature_ok {msg : Message}
    (recovered : chain.recover (ethSignedHash chain s.treasuryAddress buyer order) order.signature = some signer)
    (timely : msg.timestamp ≤ order.deadline.toNat) : verifySignature chain msg buyer order s = .ok signer := by
  unfold verifySignature
  rw [require, if_pos timely, recovered]
  rfl

/-- A call that is sent was signed for what the escrow hashes. -/
theorem SentFrom.verified (unspelled : ethers.Unspelled)
    (chained : (getBigInt config.chainId).bind uint256 = some chain.chainid)
    (deployed : ethers.getAddress config.escrowAddress = some chain.self) {s : World σ}
    (genuine : ∀ event ∈ events, Genuine ethers chain s.treasuryAddress signer event)
    (sent : SentFrom ethers chain.keccak256 config params events order) :
    ∃ input, input.chainId = config.chainId ∧ input.escrowAddress = config.escrowAddress ∧
      VerifiedAs ethers chain s signer params events order input := by
  obtain ⟨treasuryAddress, nonce, deadline, found, signed, encoded⟩ := sent
  obtain ⟨buyerAddress, hash, named, hashed, answered⟩ := signed
  let input : MessageInput :=
    ⟨config.chainId, config.escrowAddress, buyerAddress, treasuryAddress, params, nonce, deadline⟩
  have targets : input.Targets ethers chain s.treasuryAddress signer :=
    ⟨chained, deployed, genuine _ found, genuine _ named⟩
  obtain ⟨words, coded, digest⟩ := Option.map_eq_some_iff.mp hashed
  have agree : hash = messageHash chain s.treasuryAddress signer order := by
    rw [← digest, messageHash_eq, encoded_alike unspelled targets coded encoded]
  rw [agree] at answered hashed
  have recovered := genuine _ answered (Word.length_toBytes _)
  exact ⟨input, rfl, rfl, rfl, targets, hashed, encoded, answered, fun msg timely => verifySignature_ok recovered timely⟩

/-- Every call in a record was answered genuinely. -/
theorem recorded_genuine {genuine : Event BuyerEffect BuyerAnswer → Prop}
    {before record : List (Event BuyerEffect BuyerAnswer)} {program final : Program BuyerEffect BuyerAnswer α}
    (execution : Program.Execution (recording genuine) program before events final record)
    (earlier : ∀ event ∈ before, genuine event) : ∀ event ∈ record, genuine event := by
  induction execution with
  | stop => exact earlier
  | call served rest ih =>
    apply ih
    obtain ⟨answered, rfl⟩ := served
    intro event member
    rcases List.mem_cons.mp member with rfl | member
    · exact answered
    · exact earlier event member

/-- What a buyer signs through the SDK is what the escrow verifies. -/
theorem signed_as_verified (unspelled : ethers.Unspelled)
    (chained : (getBigInt config.chainId).bind uint256 = some chain.chainid)
    (deployed : ethers.getAddress config.escrowAddress = some chain.self) :
    (∀ (s : World σ) signer params events result record,
      Program.Execution (recording (Genuine ethers chain s.treasuryAddress signer))
        (createTrade ethers chain.keccak256 config params).run [] events (.done result) record →
      ∀ order answer, ⟨.createTrade order, answer⟩ ∈ record →
        ∃ input, input.chainId = config.chainId ∧ input.escrowAddress = config.escrowAddress ∧
          VerifiedAs ethers chain s signer params record order input) ∧
    (∀ (input : MessageInput) treasury buyer words signature order, input.Targets ethers chain treasury buyer →
      input.words ethers = some words →
      createTradeCall ethers input.params input.nonce input.deadline signature = some order →
      createTradeMessageHash ethers chain.keccak256 input.chainId input.escrowAddress input.buyerAddress
        input.treasuryAddress input.params input.nonce input.deadline = some (messageHash chain treasury buyer order)) ∧
    (∀ (first second : MessageInput) words others, first.words ethers = some words →
      second.words ethers = some others → abiEncode words = abiEncode others → SameFields ethers first second) ∧
    ∀ (other : Chain σ Op) treasury treasury' buyer buyer' order order',
      orderBytes chain treasury buyer order = orderBytes other treasury' buyer' order' →
      orderFields chain treasury buyer order = orderFields other treasury' buyer' order' := by
  refine ⟨?_, ?_, ?_, ?_⟩
  · intro s signer params events result record execution order answer sent
    have genuine := recorded_genuine execution fun _ member => absurd member List.not_mem_nil
    have ended := Program.wp_sound asks_createTrade execution
    have placed : SentFrom ethers chain.keccak256 config params record order := by
      cases result with
      | ok value => exact ended order answer sent
      | error error => exact ended order answer sent
    exact placed.verified unspelled chained deployed genuine
  · intro input treasury buyer words signature order targets coded encoded
    apply Option.map_eq_some_iff.mpr
    refine ⟨words, coded, ?_⟩
    rw [encoded_alike unspelled targets coded encoded, messageHash_eq]
  · intro first second words others coded recoded same
    obtain ⟨fields, read, rfl⟩ := words_read coded
    obtain ⟨fields', again, rfl⟩ := words_read recoded
    rw [← fields_injective same] at again
    exact read.injective again
  · intro other treasury treasury' buyer buyer' order order' same
    rw [orderBytes_eq, orderBytes_eq] at same
    exact fields_injective same

end Contract

/-- Any casing, and no names. -/
def plainEthers : Ethers where
  checksum digits := digits
  icap _ := none
  resolveName _ := none

def saleConfig : SdkConfig where
  chainId := .integer 31337
  escrowAddress := "0x0000000000000000000000000000000000001000"

def saleParameters : TradeParameters where
  supplier := "0x0000000000000000000000000000000000000050"
  totalAmount := 100
  logisticsAmount := 10
  platformFeesAmount := 10
  supplierFirstTranche := 30
  supplierSecondTranche := 50
  ricardianHash := "0x1111111111111111111111111111111111111111111111111111111111111111"
  deadline := some (.integer 5000)

/-- A buyer who signs everything. -/
def saleAnswer : (effect : BuyerEffect) → BuyerAnswer effect
  | .getAddress => .ok "0x00000000000000000000000000000000000000b0"
  | .allowance _ => .ok 0
  | .approve _ => .ok ()
  | .getBuyerNonce _ => .ok 0
  | .now => 1000000
  | .treasuryAddress => .ok "0x0000000000000000000000000000000000000070"
  | .signMessage _ => .ok [0xB0]
  | .createTrade _ => .ok ()

def saleServe (effect : BuyerEffect) (record : List (Event BuyerEffect BuyerAnswer)) :
    BuyerAnswer effect × List (Event BuyerEffect BuyerAnswer) :=
  (saleAnswer effect, ⟨effect, saleAnswer effect⟩ :: record)

def sentOrder : Event BuyerEffect BuyerAnswer → Option Order
  | ⟨.createTrade order, _⟩ => some order
  | _ => none

theorem sentOrder_eq (named : sentOrder event = some order) : ∃ answer, event = ⟨.createTrade order, answer⟩ := by
  obtain ⟨effect, answer⟩ := event
  cases effect with
  | createTrade placed =>
    cases named
    exact ⟨answer, rfl⟩
  | _ => cases named

private theorem saleServe_genuine (s : World σ) (treasury : s.treasuryAddress = Mock.treasury) (effect : BuyerEffect)
    (record : List (Event BuyerEffect BuyerAnswer)) :
    recording (Genuine plainEthers signingChain s.treasuryAddress Mock.buyer) record
      ⟨effect, (saleServe effect record).1⟩ (saleServe effect record).2 := by
  refine ⟨?_, rfl⟩
  cases effect with
  | getAddress =>
    have read : plainEthers.getAddress "0x00000000000000000000000000000000000000b0" = some Mock.buyer := by
      decide +kernel
    exact read
  | treasuryAddress =>
    have read : plainEthers.getAddress "0x0000000000000000000000000000000000000070" = some Mock.treasury := by
      decide +kernel
    exact read.trans (congrArg some treasury.symm)
  | signMessage message =>
    intro length
    have digest : signingChain.keccak256 (personalSignPreamble ++ message) = 60 := by
      change BitVec.ofNat 256 (personalSignPreamble ++ message).length = 60
      rw [List.length_append, length]
      decide
    exact if_pos ⟨digest, rfl⟩
  | _ => trivial

/-- A sale through the SDK carries a signature that the escrow verifies. -/
theorem sale_verified : ∃ (s : World MockUSDC) (order : Order) (events : List (Event BuyerEffect BuyerAnswer))
    (record : List (Event BuyerEffect BuyerAnswer)) (result : Except SdkError Unit),
    Program.Execution (recording (Genuine plainEthers signingChain s.treasuryAddress Mock.buyer))
      (createTrade plainEthers signingChain.keccak256 saleConfig saleParameters).run [] events (.done result) record ∧
      (∃ answer, ⟨.createTrade order, answer⟩ ∈ record) ∧
      ∀ msg : Message, msg.timestamp ≤ order.deadline.toNat →
        verifySignature signingChain msg Mock.buyer order s = .ok Mock.buyer := by
  have deployed : ((Mock.config [Mock.admin1, Mock.admin2] 1).deploy Mock.usdc 1).toOption.map
      (fun s => s.treasuryAddress) = some Mock.treasury := by decide +kernel
  obtain ⟨s, _, treasury⟩ := Option.map_eq_some_iff.mp deployed
  obtain ⟨events, execution⟩ := Program.run_execution saleServe (saleServe_genuine s treasury)
    (createTrade plainEthers signingChain.keccak256 saleConfig saleParameters).run []
  have sale : (((createTrade plainEthers signingChain.keccak256 saleConfig saleParameters).run.run
      saleServe []).2.findSome? sentOrder).isSome = true := by decide +kernel
  obtain ⟨order, found⟩ := Option.isSome_iff_exists.mp sale
  obtain ⟨event, member, named⟩ := List.exists_of_findSome?_eq_some found
  obtain ⟨answer, rfl⟩ := sentOrder_eq named
  have unspelled : plainEthers.Unspelled := fun _ _ _ => rfl
  have chained : (getBigInt saleConfig.chainId).bind uint256 = some signingChain.chainid := by decide +kernel
  have placed : plainEthers.getAddress saleConfig.escrowAddress = some signingChain.self := by decide +kernel
  obtain ⟨verified, _⟩ := signed_as_verified unspelled chained placed
  obtain ⟨_, _, _, input⟩ := verified s Mock.buyer saleParameters _ _ _ execution order answer member
  exact ⟨s, order, events, _, _, execution, ⟨answer, member⟩, input.recovered⟩

end Agroasys.Sdk
