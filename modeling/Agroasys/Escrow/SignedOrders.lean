import Mathlib.Data.Set.Function
import Agroasys.Escrow.Lifecycle

namespace Agroasys.Escrow

open Function Agroasys.Foundation

variable {σ Op : Type} {chain : Chain σ Op}

section Encoding

theorem Word.length_toBytes (word : Word) : (Word.toBytes word).length = 32 := by
  simp [Word.toBytes]

private theorem Word.toBytes_injective : Injective Word.toBytes := by
  intro first second same
  have bytes := List.map_inj_left.mp same
  apply BitVec.eq_of_getLsbD_eq
  intro index bound
  have byte := bytes (31 - index / 8) (List.mem_range.mpr (by omega))
  have bit := congrArg (fun byte : BitVec 8 => byte.getLsbD (index % 8)) byte
  have position : 8 * (31 - (31 - index / 8)) + index % 8 = index := by omega
  have within : index % 8 < 8 := Nat.mod_lt _ (by decide)
  simpa [BitVec.getLsbD_extractLsb', within, position] using bit

/-- Encodings of equally many words determine the words. -/
theorem abiEncode_injective {first second : List Word} (length : first.length = second.length)
    (same : abiEncode first = abiEncode second) : first = second := by
  induction first generalizing second with
  | nil => exact (List.length_eq_zero_iff.mp length.symm).symm
  | cons word rest ih =>
    cases second with
    | nil => cases length
    | cons other others =>
      simp only [abiEncode, List.flatMap_cons] at same
      obtain ⟨head, tail⟩ := List.append_inj same (by simp [Word.length_toBytes])
      rw [Word.toBytes_injective head, ih (by simpa using length) tail]

theorem Address.toWord_injective : Injective Address.toWord := by
  intro first second same
  have bits : first.bits = second.bits := by
    have numbers := congrArg BitVec.toNat same
    simp only [toWord, BitVec.toNat_setWidth, BitVec.truncate_eq_setWidth] at numbers
    apply BitVec.eq_of_toNat_eq
    omega
  cases first
  cases second
  simpa using bits

end Encoding

/-- The byte string hashed into the name of an order. -/
def orderBytes (chain : Chain σ Op) (treasury buyer : Address) (order : Order) : Bytes :=
  abiEncode [chain.chainid, chain.self.toWord, buyer.toWord, order.supplier.toWord,
    treasury.toWord, order.totalAmount, order.logisticsAmount, order.platformFeesAmount,
    order.supplierFirstTranche, order.supplierSecondTranche, order.ricardianHash, order.buyerNonce,
    order.deadline]

/-- The byte string a buyer signs for an order. -/
def signedBytes (chain : Chain σ Op) (treasury buyer : Address) (order : Order) : Bytes :=
  personalSignPreamble ++ Word.toBytes (chain.keccak256 (orderBytes chain treasury buyer order))

private theorem ethSignedHash_eq (chain : Chain σ Op) (treasury buyer : Address) (order : Order) :
    ethSignedHash chain treasury buyer order =
      chain.keccak256 (signedBytes chain treasury buyer order) := rfl

/-- What is assumed of hashes and signatures: the byte strings anyone has hashed
do not collide, and an address is recovered only from a digest of a byte string
it signed. -/
structure Unforgeable (chain : Chain σ Op) (hashed : Set Bytes) (signed : Address → Bytes → Prop) :
    Prop where
  collisionFree : Set.InjOn chain.keccak256 hashed
  recovered : chain.recover digest signature = some signer →
    ∃ message ∈ hashed, signed signer message ∧ chain.keccak256 message = digest

/-- Two orders agree on everything but the bytes of their signatures. -/
structure SameTerms (first second : Order) : Prop where
  supplier : first.supplier = second.supplier
  totalAmount : first.totalAmount = second.totalAmount
  logisticsAmount : first.logisticsAmount = second.logisticsAmount
  platformFeesAmount : first.platformFeesAmount = second.platformFeesAmount
  supplierFirstTranche : first.supplierFirstTranche = second.supplierFirstTranche
  supplierSecondTranche : first.supplierSecondTranche = second.supplierSecondTranche
  ricardianHash : first.ricardianHash = second.ricardianHash
  buyerNonce : first.buyerNonce = second.buyerNonce
  deadline : first.deadline = second.deadline

private theorem orderBytes_injective {buyer other : Address} {first second : Order}
    (same : orderBytes chain treasury buyer first = orderBytes chain treasury other second) :
    buyer = other ∧ SameTerms first second := by
  unfold orderBytes at same
  have words := abiEncode_injective (by simp) same
  simp only [List.cons.injEq, Address.toWord_injective.eq_iff] at words
  obtain ⟨_, _, buyers, supplier, _, total, logistics, fees, firstTranche, secondTranche, ricardian,
    nonce, deadline, _⟩ := words
  exact ⟨buyers, supplier, total, logistics, fees, firstTranche, secondTranche, ricardian, nonce,
    deadline⟩

/-- What is signed for an order fixes the buyer and the terms. -/
theorem signedBytes_injective {hashed : Set Bytes} (collisionFree : Set.InjOn chain.keccak256 hashed)
    {buyer other : Address} {first second : Order}
    (known : orderBytes chain treasury buyer first ∈ hashed)
    (also : orderBytes chain treasury other second ∈ hashed)
    (same : signedBytes chain treasury buyer first = signedBytes chain treasury other second) :
    buyer = other ∧ SameTerms first second := by
  have digests := Word.toBytes_injective (List.append_cancel_left same)
  exact orderBytes_injective (collisionFree known also digests)

/-- The transition that created a trade, by this message and from this order. -/
structure Places (tradeId : Nat) (msg : Message) (order : Order)
    (entry : Transition (World σ) (Action Op)) : Prop where
  label : entry.label = .escrow msg (.createTrade order)
  tradeId : entry.before.tradeCounter = tradeId

def Placed (history : EscrowHistory σ Op) (tradeId : Nat) (msg : Message) (order : Order) : Prop :=
  ∃ entry ∈ history, Places tradeId msg order entry

private theorem placed_cons {history : EscrowHistory σ Op} : Placed (entry :: history) tradeId msg order ↔
    Places tradeId msg order entry ∨ Placed history tradeId msg order := by
  simp [Placed]

/-- Only the creation of a trade uses up a nonce. -/
theorem execute_nonces {s next : World σ} {call : Call} (other : ∀ order, call ≠ .createTrade order)
    (success : execute chain msg call s = .ok next) :
    next.nonces = s.nonces ∧ next.tradeCounter = s.tradeCounter := by
  cases settles : call.settles with
  | false =>
    have kept := (execute_governed settles success).settlement
    exact ⟨congrArg Settlement.nonces kept, congrArg Settlement.tradeCounter kept⟩
  | true =>
    cases execute_settling settles success with
    | created order => exact absurd rfl (other order)
    | paid _ withdrawn =>
      exact ⟨withdrawn.nonces, congrArg Custody.tradeCounter withdrawn.custody⟩
    | moved _ _ advanced =>
      have counter : next.tradeCounter = _ := congrArg Custody.tradeCounter advanced.custody
      exact ⟨advanced.nonces, counter.trans (Custody.perform_tradeCounter ..)⟩
    | @decided _ middle _ _ _ _ undecided settled =>
      have kept : middle.tradeCounter = s.tradeCounter :=
        congrArg Custody.tradeCounter undecided.custody
      rcases settled with rfl | ⟨proposalId, settled⟩
      · exact ⟨undecided.nonces, kept⟩
      · have counter : next.tradeCounter = _ := congrArg Custody.tradeCounter settled.custody
        exact ⟨settled.nonces.trans undecided.nonces,
          (counter.trans (Custody.perform_tradeCounter ..)).trans kept⟩

private theorem SameOrder.trans (first : SameOrder before middle) (second : SameOrder middle after) :
    SameOrder before after where
  tradeId := second.tradeId.trans first.tradeId
  ricardianHash := second.ricardianHash.trans first.ricardianHash
  buyerAddress := second.buyerAddress.trans first.buyerAddress
  supplierAddress := second.supplierAddress.trans first.supplierAddress
  totalAmountLocked := second.totalAmountLocked.trans first.totalAmountLocked
  logisticsAmount := second.logisticsAmount.trans first.logisticsAmount
  platformFeesAmount := second.platformFeesAmount.trans first.platformFeesAmount
  supplierFirstTranche := second.supplierFirstTranche.trans first.supplierFirstTranche
  supplierSecondTranche := second.supplierSecondTranche.trans first.supplierSecondTranche
  createdAt := second.createdAt.trans first.createdAt

/-- What the creation of a trade leaves behind: its terms, an unexpired deadline
and a recovered signature over the terms. -/
structure Honoured (chain : Chain σ Op) (s : World σ) (tradeId : Nat) (msg : Message) (order : Order) :
    Prop where
  known : tradeId < s.tradeCounter
  nonce : order.buyerNonce.toNat < s.nonces msg.sender
  terms : SameOrder (order.trade tradeId msg.sender msg.timestamp) (s.trades tradeId)
  deadline : msg.timestamp ≤ order.deadline.toNat
  recovered : chain.recover (ethSignedHash chain s.treasuryAddress msg.sender order) order.signature =
    some msg.sender

/-- The history of orders and the table of trades agree. -/
structure Booked (chain : Chain σ Op) (history : EscrowHistory σ Op) (s : World σ) : Prop where
  counter : s.tradeCounter = holdings s.nonces
  honoured : Placed history tradeId msg order → Honoured chain s tradeId msg order
  placed : tradeId < s.tradeCounter → ∃ msg order, Placed history tradeId msg order
  spent : nonce < s.nonces buyer → ∃ tradeId msg order, Placed history tradeId msg order ∧
    msg.sender = buyer ∧ order.buyerNonce.toNat = nonce
  single : Placed history first msg order → Placed history second msg' order' →
    msg.sender = msg'.sender → order.buyerNonce = order'.buyerNonce → first = second

section Booked

variable {history : EscrowHistory σ Op} {s next : World σ} {action : Action Op}

/-- A transaction that places no order. -/
theorem Booked.kept (booked : Booked chain history s) (silent : ∀ msg order, action ≠ .escrow msg (.createTrade order))
    (nonces : next.nonces = s.nonces) (counter : next.tradeCounter = s.tradeCounter)
    (treasury : next.treasuryAddress = s.treasuryAddress)
    (terms : ∀ tradeId, tradeId < s.tradeCounter → SameOrder (s.trades tradeId) (next.trades tradeId)) :
    Booked chain (⟨s, action, next⟩ :: history) next := by
  have same : ∀ {tradeId msg order}, Placed (⟨s, action, next⟩ :: history) tradeId msg order →
      Placed history tradeId msg order := by
    intro tradeId msg order placed
    rcases placed_cons.mp placed with places | earlier
    · exact absurd places.label (silent msg order)
    · exact earlier
  constructor
  · rw [counter, nonces]
    exact booked.counter
  · intro tradeId msg order placed
    obtain ⟨known, nonce, kept, deadline, recovered⟩ := booked.honoured (same placed)
    refine ⟨?_, ?_, kept.trans (terms tradeId known), deadline, ?_⟩
    · rwa [counter]
    · rwa [nonces]
    · rwa [treasury]
  · intro tradeId known
    rw [counter] at known
    obtain ⟨msg, order, placed⟩ := booked.placed known
    exact ⟨msg, order, placed_cons.mpr (.inr placed)⟩
  · intro nonce buyer used
    rw [nonces] at used
    obtain ⟨tradeId, msg, order, placed, rest⟩ := booked.spent used
    exact ⟨tradeId, msg, order, placed_cons.mpr (.inr placed), rest⟩
  · intro first msg order second msg' order' one other
    exact booked.single (same one) (same other)

/-- The creation of a trade uses the next nonce of its buyer and the next id. -/
theorem Booked.created (booked : Booked chain history s) (created : Created chain s msg order next)
    (treasury : next.treasuryAddress = s.treasuryAddress) :
    Booked chain (⟨s, .escrow msg (.createTrade order), next⟩ :: history) next := by
  have trades : next.trades = update s.trades s.tradeCounter
      (order.trade s.tradeCounter msg.sender msg.timestamp) :=
    congrArg Custody.trades created.custody
  have counter : next.tradeCounter = s.tradeCounter + 1 :=
    congrArg Custody.tradeCounter created.custody
  have nonces := created.nonces
  have here : Placed (⟨s, .escrow msg (.createTrade order), next⟩ :: history) s.tradeCounter msg order :=
    placed_cons.mpr (.inl ⟨rfl, rfl⟩)
  have grown : ∀ buyer, s.nonces buyer ≤ next.nonces buyer := by
    intro buyer
    rw [nonces]
    by_cases same : buyer = msg.sender
    · simp [same]
    · simp [same]
  have cases_placed : ∀ {tradeId msg' order'},
      Placed (⟨s, .escrow msg (.createTrade order), next⟩ :: history) tradeId msg' order' →
      (tradeId = s.tradeCounter ∧ msg' = msg ∧ order' = order) ∨
        Placed history tradeId msg' order' := by
    intro tradeId msg' order' placed
    rcases placed_cons.mp placed with ⟨label, id⟩ | earlier
    · cases label
      exact .inl ⟨id.symm, rfl, rfl⟩
    · exact .inr earlier
  constructor
  · have counted := holdings_update s.nonces msg.sender (s.nonces msg.sender + 1)
    have before := booked.counter
    rw [counter, nonces]
    omega
  · intro tradeId msg' order' placed
    rcases cases_placed placed with ⟨rfl, rfl, rfl⟩ | earlier
    · refine ⟨?_, ?_, ?_, created.deadline, ?_⟩
      · omega
      · rw [nonces, update_self, created.nonce]
        exact Nat.lt_succ_self _
      · rw [trades, update_self]
        exact .refl _
      · rw [treasury]
        exact created.signed
    · obtain ⟨known, nonce, terms, deadline, recovered⟩ := booked.honoured earlier
      refine ⟨?_, nonce.trans_le (grown _), ?_, deadline, ?_⟩
      · omega
      · rw [trades, update_of_ne known.ne]
        exact terms
      · rwa [treasury]
  · intro tradeId known
    by_cases same : tradeId = s.tradeCounter
    · exact ⟨msg, order, same ▸ here⟩
    · obtain ⟨msg', order', placed⟩ := booked.placed (by omega : tradeId < s.tradeCounter)
      exact ⟨msg', order', placed_cons.mpr (.inr placed)⟩
  · intro nonce buyer used
    by_cases last : buyer = msg.sender ∧ nonce = s.nonces msg.sender
    · obtain ⟨rfl, rfl⟩ := last
      exact ⟨s.tradeCounter, msg, order, here, rfl, created.nonce⟩
    · have earlier : nonce < s.nonces buyer := by
        rw [nonces] at used
        by_cases same : buyer = msg.sender
        · subst same
          rw [update_self] at used
          have different : nonce ≠ s.nonces msg.sender := fun equal => last ⟨rfl, equal⟩
          omega
        · rwa [update_of_ne same] at used
      obtain ⟨tradeId, msg', order', placed, rest⟩ := booked.spent earlier
      exact ⟨tradeId, msg', order', placed_cons.mpr (.inr placed), rest⟩
  · intro first msg' order' second msg'' order'' one other sender nonce
    have taken := created.nonce
    rcases cases_placed one with ⟨rfl, rfl, rfl⟩ | before <;>
      rcases cases_placed other with ⟨rfl, rfl, rfl⟩ | earlier
    · rfl
    · have used := (booked.honoured earlier).nonce
      rw [← sender, ← nonce] at used
      omega
    · have used := (booked.honoured before).nonce
      rw [sender, nonce] at used
      omega
    · exact booked.single before earlier sender nonce

end Booked

private theorem run_booked (run : (escrowSystem chain).Run history s) : Booked chain history s := by
  apply run.history_invariant
  · intro origin deployed
    obtain ⟨config, deployed⟩ := deployed
    obtain ⟨_, _, rfl⟩ := deployed.world
    have unplaced : ∀ {tradeId msg order}, ¬ Placed ([] : EscrowHistory σ Op) tradeId msg order := by
      simp [Placed]
    constructor
    · simp [Config.world, holdings]
    · intro tradeId msg order placed
      exact absurd placed unplaced
    · intro tradeId known
      exact absurd known (Nat.not_lt_zero _)
    · intro nonce buyer used
      exact absurd used (Nat.not_lt_zero _)
    · intro _ _ _ _ _ _ placed
      exact absurd placed unplaced
  · intro earlier s action next before step booked
    have reachable : (escrowSystem chain).Reachable s := ⟨earlier, before⟩
    have terms := fun (tradeId : Nat) (known : tradeId < s.tradeCounter) =>
      step_sameOrder reachable step known
    have treasury : next.treasuryAddress = s.treasuryAddress :=
      congrArg Parameters.treasuryAddress
        (step_transacted (run_established before).unopened step).parameters
    obtain ⟨_, _, ⟨msg, call, result, rfl, success, rfl⟩ | ⟨msg, op, usdc, rfl, _, _, rfl⟩⟩ :=
      step_cases step
    · by_cases places : ∃ order, call = .createTrade order
      · obtain ⟨order, rfl⟩ := places
        have c := (createTrade_effect success).1
        exact booked.created ⟨c.unpaused, c.opened, c.nonce, c.deadline, c.signed, c.paid, c.custody,
          c.nonces⟩ treasury
      · obtain ⟨nonces, counter⟩ := execute_nonces (fun order same => places ⟨order, same⟩) success
        refine booked.kept ?_ nonces counter treasury terms
        rintro _ order ⟨⟩
        exact places ⟨order, rfl⟩
    · refine booked.kept ?_ rfl rfl rfl terms
      intro _ order same
      cases same

private theorem Unforgeable.signed {hashed : Set Bytes} {signed : Address → Bytes → Prop}
    (unforgeable : Unforgeable chain hashed signed)
    (known : signedBytes chain treasury buyer order ∈ hashed)
    (recovered : chain.recover (ethSignedHash chain treasury buyer order) signature = some signer) :
    signed signer (signedBytes chain treasury buyer order) := by
  obtain ⟨message, hashes, signs, digest⟩ := unforgeable.recovered recovered
  rw [ethSignedHash_eq] at digest
  rwa [← unforgeable.collisionFree hashes known digest]

/-- Over any run of any transactions the trades are exactly the signed orders:
one for every nonce used, each on the terms its buyer signed, and never two for
one signed message or one for a message with other terms. -/
theorem signed_orders {hashed : Set Bytes} {signed : Address → Bytes → Prop}
    (unforgeable : Unforgeable chain hashed signed) (run : (escrowSystem chain).Run history s)
    (covered : ∀ tradeId msg order, Placed history tradeId msg order →
      orderBytes chain s.treasuryAddress msg.sender order ∈ hashed ∧
        signedBytes chain s.treasuryAddress msg.sender order ∈ hashed) :
    s.tradeCounter = holdings s.nonces ∧
      (∀ buyer nonce, nonce < s.nonces buyer → ∃! tradeId, (s.trades tradeId).buyerAddress = buyer ∧
        ∃ msg order, Placed history tradeId msg order ∧ order.buyerNonce.toNat = nonce) ∧
      (∀ tradeId, tradeId < s.tradeCounter → ∃ msg order, Placed history tradeId msg order ∧
        SameOrder (order.trade tradeId msg.sender msg.timestamp) (s.trades tradeId) ∧
        (s.trades tradeId).createdAt ≤ order.deadline.toNat ∧
        signed (s.trades tradeId).buyerAddress
          (signedBytes chain s.treasuryAddress (s.trades tradeId).buyerAddress order)) ∧
      (∀ tradeId msg order, Placed history tradeId msg order → ∀ buyer other,
        orderBytes chain s.treasuryAddress buyer other ∈ hashed →
        signedBytes chain s.treasuryAddress msg.sender order =
          signedBytes chain s.treasuryAddress buyer other →
        (s.trades tradeId).buyerAddress = buyer ∧ SameTerms order other) ∧
      ∀ first msg order second msg' order', Placed history first msg order →
        Placed history second msg' order' →
        signedBytes chain s.treasuryAddress msg.sender order =
          signedBytes chain s.treasuryAddress msg'.sender order' → first = second := by
  have booked := run_booked run
  have buyers : ∀ {tradeId msg order}, Placed history tradeId msg order →
      (s.trades tradeId).buyerAddress = msg.sender :=
    fun placed => (booked.honoured placed).terms.buyerAddress
  have fixed : ∀ {tradeId msg order buyer other}, Placed history tradeId msg order →
      orderBytes chain s.treasuryAddress buyer other ∈ hashed →
      signedBytes chain s.treasuryAddress msg.sender order =
        signedBytes chain s.treasuryAddress buyer other → msg.sender = buyer ∧ SameTerms order other :=
    fun placed known same =>
      signedBytes_injective unforgeable.collisionFree (covered _ _ _ placed).1 known same
  refine ⟨booked.counter, ?_, ?_, ?_, ?_⟩
  · intro buyer nonce used
    obtain ⟨tradeId, msg, order, placed, rfl, rfl⟩ := booked.spent used
    refine ⟨tradeId, ⟨buyers placed, msg, order, placed, rfl⟩, ?_⟩
    intro other also
    obtain ⟨buyer, msg', order', repeated, nonce⟩ := also
    have sender := (buyers repeated).symm.trans buyer
    exact booked.single repeated placed sender (BitVec.eq_of_toNat_eq nonce)
  · intro tradeId known
    obtain ⟨msg, order, placed⟩ := booked.placed known
    have honoured := booked.honoured placed
    refine ⟨msg, order, placed, honoured.terms, ?_, ?_⟩
    · rw [honoured.terms.createdAt]
      exact honoured.deadline
    · rw [buyers placed]
      exact unforgeable.signed (covered _ _ _ placed).2 honoured.recovered
  · intro tradeId msg order placed buyer other known same
    obtain ⟨sender, terms⟩ := fixed placed known same
    exact ⟨(buyers placed).trans sender, terms⟩
  · intro first msg order second msg' order' one other same
    obtain ⟨sender, terms⟩ := fixed one (covered _ _ _ other).1 same
    exact booked.single one other sender terms.buyerNonce

/-- A chain on which only one message was ever signed. -/
def signingChain : Chain MockUSDC MockUSDC.Operation where
  token := MockUSDC.token
  keccak256 bytes := BitVec.ofNat 256 bytes.length
  recover digest signature :=
    if digest = 60 ∧ signature = [0xB0] then some Mock.buyer else none
  chainid := 31337
  self := mockChain.self

open Mock in
/-- The one message that was signed. -/
def SignedOnce (signer : Address) (message : Bytes) : Prop :=
  signer = buyer ∧ message = signedBytes signingChain treasury buyer order

open Mock in
/-- The trade is on the terms of the one message that its buyer signed. -/
theorem signedOrder_placed : ∃ history s, (escrowSystem signingChain).Run history s ∧
    s.tradeCounter = 1 ∧ ∃ msg ordered, Placed history 0 msg ordered ∧
      SameOrder (ordered.trade 0 msg.sender msg.timestamp) (s.trades 0) ∧
      (s.trades 0).createdAt ≤ ordered.deadline.toNat ∧
      SignedOnce (s.trades 0).buyerAddress
        (signedBytes signingChain s.treasuryAddress (s.trades 0).buyerAddress ordered) := by
  have outcome : (((config [admin1, admin2] 1).deploy usdc 1).toOption.bind fun origin =>
      (replay signingChain [call buyer 1 (.createTrade order)] origin).map fun s =>
        (origin.treasuryAddress, s.treasuryAddress, s.tradeCounter)) = some (treasury, treasury, 1) := by
    decide +kernel
  obtain ⟨origin, deployed, outcome⟩ := Option.bind_eq_some_iff.mp outcome
  obtain ⟨s, reached, facts⟩ := Option.map_eq_some_iff.mp outcome
  simp only [Prod.mk.injEq] at facts
  obtain ⟨_, identity, counter⟩ := facts
  have deployment : (config [admin1, admin2] 1).Deployed origin := by
    refine ⟨usdc, 1, Nat.one_pos, ?_⟩
    cases result : (config [admin1, admin2] 1).deploy usdc 1 with
    | ok world =>
      rw [result] at deployed
      exact congrArg Except.ok (Option.some.inj deployed)
    | error _ => simp [result, Except.toOption] at deployed
  have step := replay_single reached
  have run : (escrowSystem signingChain).Run [⟨origin, call buyer 1 (.createTrade order), s⟩] s :=
    ⟨origin, ⟨_, deployment⟩, Path.single step⟩
  let hashed : Set Bytes :=
    {orderBytes signingChain treasury buyer order, signedBytes signingChain treasury buyer order}
  have named : signingChain.keccak256 (orderBytes signingChain treasury buyer order) = 416 := by
    decide +kernel
  have digested : signingChain.keccak256 (signedBytes signingChain treasury buyer order) = 60 := by
    decide +kernel
  have unforgeable : Unforgeable signingChain hashed SignedOnce := by
    constructor
    · rintro first (rfl | rfl) second (rfl | rfl) same
      · rfl
      · rw [named, digested] at same
        exact absurd same (by decide)
      · rw [named, digested] at same
        exact absurd same (by decide)
      · rfl
    · intro digest signature signer recovered
      simp only [signingChain] at recovered
      split at recovered
      · rename_i known
        cases recovered
        exact ⟨_, .inr rfl, ⟨rfl, rfl⟩, digested.trans known.1.symm⟩
      · cases recovered
  have covered : ∀ tradeId msg other,
      Placed [⟨origin, call buyer 1 (.createTrade order), s⟩] tradeId msg other →
      orderBytes signingChain s.treasuryAddress msg.sender other ∈ hashed ∧
        signedBytes signingChain s.treasuryAddress msg.sender other ∈ hashed := by
    intro tradeId msg other placed
    obtain ⟨entry, member, label, _⟩ := placed
    cases List.mem_singleton.mp member
    cases label
    rw [identity]
    exact ⟨.inl rfl, .inr rfl⟩
  obtain ⟨_, _, trades, _⟩ := signed_orders unforgeable run covered
  obtain ⟨msg, ordered, placed, terms, deadline, signed⟩ := trades 0 (by omega)
  exact ⟨_, s, run, counter, msg, ordered, placed, terms, deadline, signed⟩

end Agroasys.Escrow
