import Agroasys.Sdk.Addresses
import Agroasys.Sdk.SignedTrade

namespace Agroasys.Sdk

open Agroasys.Foundation Agroasys.Runtime Agroasys.Escrow

/-- `ethers.ZeroHash`. -/
def zeroHash : String :=
  "0x0000000000000000000000000000000000000000000000000000000000000000"

section Texts

private theorem hexWord_eq_some {text : String} (read : hexWord wide text.toList = some digits) :
    ∃ mark, text.toList = '0' :: mark :: digits ∧ (mark = 'x' ∨ wide ∧ mark = 'X') ∧ digits.length = 64 := by
  unfold hexWord at read
  split at read
  · rename_i mark given spelled
    rw [Option.ite_none_right_eq_some] at read
    obtain ⟨⟨marked, length, _⟩, same⟩ := read
    cases same
    exact ⟨mark, spelled, marked, length⟩
  · cases read

/-- Of the texts that pass, `ZeroHash` alone is the zero word. -/
theorem bytes32_eq_zero {text : String} (validated : hexWord false text.toList = some digits) (read : bytes32 text = some word) :
    word = 0 ↔ text = zeroHash := by
  constructor
  · intro zero
    obtain ⟨mark, spelled, marked, length⟩ := hexWord_eq_some validated
    obtain ⟨given, taken, mapped⟩ := Option.bind_eq_some_iff.mp read
    obtain ⟨other, again, _, _⟩ := hexWord_eq_some taken
    obtain ⟨number, numbered, coded⟩ := Option.map_eq_some_iff.mp mapped
    have same : given = digits := (List.cons.inj (List.cons.inj (again.symm.trans spelled)).2).2
    have residue : number % 2 ^ 256 = 0 := by
      simpa using congrArg BitVec.toNat (coded.trans zero)
    have zeros : digits = List.replicate digits.length '0' := by
      rw [same] at numbered
      apply hexNumber_residue numbered
      rw [length]
      exact residue
    rw [length] at zeros
    have mark_x : mark = 'x' := by
      rcases marked with marked | ⟨impossible, _⟩
      · exact marked
      · cases impossible
    apply String.toList_inj.mp
    rw [spelled, mark_x, zeros]
    rfl
  · intro same
    subst same
    have zero : bytes32 zeroHash = some 0 := by decide +kernel
    exact Option.some.inj (read.symm.trans zero)

/-- Only `ZeroAddress` passes for the zero address of a call. -/
theorem resolveAddress_zero {ethers : Ethers} (marked : ethers.Marked)
    (resolved : ethers.resolveAddress text = some .zero) : text = zeroAddress := by
  unfold Ethers.resolveAddress at resolved
  split at resolved
  · rename_i given wide
    obtain ⟨mark, spelled, _, length⟩ := prefixedDigits_eq_some wide
    unfold Ethers.getAddress at resolved
    split at resolved
    · rename_i digits found
      unfold addressDigits at found
      rcases Option.or_eq_some_iff.mp found with strict | ⟨_, bare⟩
      · obtain ⟨other, again, small, _⟩ := prefixedDigits_eq_some strict
        split at resolved
        · cases resolved
        · obtain ⟨number, numbered, coded⟩ := Option.map_eq_some_iff.mp resolved
          have same : given = digits := (List.cons.inj (List.cons.inj (spelled.symm.trans again)).2).2
          have residue : number % 2 ^ 160 = 0 := by
            simpa [Address.ofNumber, Address.zero] using congrArg (fun address => address.bits.toNat) coded
          have zeros : given = List.replicate given.length '0' := by
            rw [← same] at numbered
            apply hexNumber_residue numbered
            rw [length]
            exact residue
          rw [length] at zeros
          have mark_x : other = 'x' := by
            rcases small with small | ⟨impossible, _⟩
            · exact small
            · cases impossible
          apply String.toList_inj.mp
          rw [again, mark_x, ← same, zeros]
          rfl
      · rw [Option.ite_none_right_eq_some] at bare
        obtain ⟨spelling, _⟩ := bare
        unfold isAddressDigits at spelling
        simp only [Bool.and_eq_true, decide_eq_true_eq, spelled, List.length_cons, length] at spelling
        cases spelling.1
    · obtain ⟨rest, marks⟩ := marked text _ resolved
      cases spelled.symm.trans marks
  · obtain ⟨_, kept⟩ := Option.filter_eq_some_iff.mp resolved
    exact absurd rfl (of_decide_eq_true kept)

end Texts

section Fields

variable {σ Op : Type} {chain : Chain σ Op} {ethers : Ethers} {params : TradeParameters} {order : Order}

/-- The reverts of the field checks. -/
def fieldReverts : List Revert :=
  [.require "ricardian hash required", .require "supplier required", .panic .createTrade,
    .require "breakdown mismatch", .require "tranches must be > 0"]

/-- What the field checks ask of an order. -/
structure FieldsHold (order : Order) : Prop where
  ricardianHash : order.ricardianHash ≠ 0
  supplier : order.supplier ≠ .zero
  breakdown : order.logisticsAmount.toNat + order.platformFeesAmount.toNat + order.supplierFirstTranche.toNat +
    order.supplierSecondTranche.toNat = order.totalAmount.toNat
  tranches : 0 < order.supplierFirstTranche.toNat ∧ 0 < order.supplierSecondTranche.toNat

theorem verifySignature_spares (chain : Chain σ Op) (msg : Message) (buyer : Address) (order : Order) (s : World σ) :
    Spares fieldReverts (verifySignature chain msg buyer order s) := by
  unfold verifySignature
  apply Spares.bind
  · exact spares_other (by decide)
  · intro _
    split
    · exact spares_pure _
    · intro revert listed failed
      cases failed
      exact absurd listed (by decide)

private theorem safeTransferFrom_spares (chain : Chain σ Op) (source : Address) (amount : Nat) (s : World σ) :
    Spares fieldReverts (safeTransferFrom chain source amount s) := by
  intro revert listed failed
  unfold safeTransferFrom at failed
  split at failed
  · cases failed
  · cases failed
    simp [fieldReverts] at listed

/-- The field checks of `createTrade` pass for such orders, and no others. -/
theorem createTrade_fields {s : World σ} (unpaused : s.paused = false) :
    Spares fieldReverts (Escrow.createTrade chain msg order s) ↔ FieldsHold order := by
  have rest (next : World σ → Except Revert (World σ)) (last : ∀ s, Spares fieldReverts (next s))
      (s booked : World σ) : Spares fieldReverts (do
        require (order.buyerNonce.toNat = s.nonces msg.sender) "bad nonce"
        let signer ← verifySignature chain msg msg.sender order s
        require (signer = msg.sender) "bad signature"
        next (← safeTransferFrom chain msg.sender order.totalAmount.toNat booked)) := by
    apply Spares.bind (spares_other (by decide))
    intro _
    apply Spares.bind (verifySignature_spares _ _ _ _ _)
    intro signer
    apply Spares.bind (spares_other (by decide))
    intro _
    exact Spares.bind (safeTransferFrom_spares _ _ _ _) last
  unfold Escrow.createTrade
  rw [whenNotPaused, spares_passed unpaused, spares_require (by decide), spares_require (by decide),
    spares_checkedAdd (by decide), spares_checkedAdd (by decide), spares_checkedAdd (by decide),
    spares_require (by decide), spares_require (by decide)]
  constructor
  · intro passed
    obtain ⟨hash, supplier, _, _, _, breakdown, tranches, _⟩ := passed
    exact ⟨hash, supplier, breakdown.symm, tranches⟩
  · intro held
    have breakdown := held.breakdown
    have bounded := order.totalAmount.isLt
    refine ⟨held.ricardianHash, held.supplier, by omega, by omega, by omega, breakdown.symm, held.tranches, ?_⟩
    exact rest _ (fun _ => spares_pure _) s _

theorem refuseWhen_ok {failed : Prop} [Decidable failed] : refuseWhen failed message = .ok result ↔ ¬ failed := by
  unfold refuseWhen
  split <;> simp_all

private theorem validation_bind {action : Except SdkError α} {next : α → Except SdkError β} :
    (action >>= next) = .ok result ↔ ∃ value, action = .ok value ∧ next value = .ok result := by
  cases action <;> simp [bind, Except.bind]

/-- What validation says of the parameters. -/
structure Validated (ethers : Ethers) (params : TradeParameters) : Prop where
  supplier : params.supplier ≠ zeroAddress
  logistics : 0 ≤ params.logisticsAmount
  fees : 0 ≤ params.platformFeesAmount
  tranches : 0 < params.supplierFirstTranche ∧ 0 < params.supplierSecondTranche
  breakdown : params.totalAmount = params.expectedTotal
  ricardianHash : ∃ digits, hexWord false params.ricardianHash.toList = some digits

private theorem validated (accepted : validateTradeParameters ethers params = .ok ()) : Validated ethers params := by
  simp only [validateTradeParameters, validateAddress, validation_bind, refuseWhen_ok, exists_const] at accepted
  obtain ⟨⟨_, supplier⟩, _, logistics, fees, first, second, breakdown, ricardian⟩ := accepted
  refine ⟨supplier, by omega, by omega, ⟨by omega, by omega⟩, not_not.mp breakdown, ?_⟩
  exact Option.ne_none_iff_exists'.mp ricardian

private theorem uint256_toNat (read : uint256 value = some word) : (word.toNat : Int) = value := by
  unfold uint256 at read
  rw [Option.ite_none_right_eq_some] at read
  obtain ⟨⟨least, most⟩, same⟩ := read
  cases same
  rw [BitVec.toNat_ofInt]
  omega

/-- The call that a validated order makes passes every field check but one. -/
theorem fieldsHold_iff (marked : ethers.Marked) (accepted : validateTradeParameters ethers params = .ok ())
    (encoded : createTradeCall ethers params nonce deadline signature = some order) :
    FieldsHold order ↔ params.ricardianHash ≠ zeroHash := by
  have valid := validated accepted
  obtain ⟨supplier, supplied, encoded⟩ := Option.bind_eq_some_iff.mp encoded
  obtain ⟨totalAmount, total, encoded⟩ := Option.bind_eq_some_iff.mp encoded
  obtain ⟨logisticsAmount, logistics, encoded⟩ := Option.bind_eq_some_iff.mp encoded
  obtain ⟨platformFeesAmount, fees, encoded⟩ := Option.bind_eq_some_iff.mp encoded
  obtain ⟨supplierFirstTranche, first, encoded⟩ := Option.bind_eq_some_iff.mp encoded
  obtain ⟨supplierSecondTranche, second, encoded⟩ := Option.bind_eq_some_iff.mp encoded
  obtain ⟨ricardianHash, ricardian, encoded⟩ := Option.bind_eq_some_iff.mp encoded
  obtain ⟨counted, _, encoded⟩ := Option.bind_eq_some_iff.mp encoded
  obtain ⟨limited, _, encoded⟩ := Option.bind_eq_some_iff.mp encoded
  cases encoded
  obtain ⟨digits, spelled⟩ := valid.ricardianHash
  have zero := bytes32_eq_zero spelled ricardian
  constructor
  · intro held same
    exact held.ricardianHash (zero.mpr same)
  · intro nonzero
    refine ⟨fun same => nonzero (zero.mp same), ?_, ?_, ?_⟩
    · intro none
      change supplier = .zero at none
      rw [none] at supplied
      exact valid.supplier (resolveAddress_zero marked supplied)
    · have breakdown := valid.breakdown
      unfold TradeParameters.expectedTotal at breakdown
      rw [← uint256_toNat total, ← uint256_toNat logistics, ← uint256_toNat fees, ← uint256_toNat first,
        ← uint256_toNat second] at breakdown
      dsimp only
      omega
    · have positive := valid.tranches
      rw [← uint256_toNat first, ← uint256_toNat second] at positive
      dsimp only
      omega

/-- The escrow's field checks pass for what the SDK validated, exactly if the hash is
not `ZeroHash`. -/
theorem validated_accepted (marked : ethers.Marked) (accepted : validateTradeParameters ethers params = .ok ())
    (encoded : createTradeCall ethers params nonce deadline signature = some order) {s : World σ}
    (unpaused : s.paused = false) :
    Spares fieldReverts (Escrow.createTrade chain msg order s) ↔ params.ricardianHash ≠ zeroHash := by
  rw [createTrade_fields unpaused]
  exact fieldsHold_iff marked accepted encoded

end Fields

theorem plainEthers_marked : plainEthers.Marked := by
  intro text address read
  cases read

theorem sale_accepted : validateTradeParameters plainEthers saleParameters = .ok () ∧ ∃ order,
    createTradeCall plainEthers saleParameters 0 (.integer 5000) [0xB0] = some order ∧
      ∀ (msg : Message) (s : World MockUSDC), s.paused = false →
        Spares fieldReverts (Escrow.createTrade signingChain msg order s) := by
  have accepted : validateTradeParameters plainEthers saleParameters = .ok () := by decide +kernel
  have encodes : (createTradeCall plainEthers saleParameters 0 (.integer 5000) [0xB0]).isSome = true := by
    decide +kernel
  obtain ⟨order, encoded⟩ := Option.isSome_iff_exists.mp encodes
  refine ⟨accepted, order, encoded, ?_⟩
  intro msg s unpaused
  exact (validated_accepted plainEthers_marked accepted encoded unpaused).mpr (by decide +kernel)

/-- The SDK takes `ZeroHash` for a contract's hash, and the escrow refuses the call. -/
theorem zeroHash_refused : ∃ params order,
    validateTradeParameters plainEthers params = .ok () ∧
      createTradeCall plainEthers params 0 (.integer 5000) [0xB0] = some order ∧
      ∀ (msg : Message) (s : World MockUSDC), s.paused = false →
        Escrow.createTrade signingChain msg order s = .error (.require "ricardian hash required") := by
  have encodes : ((createTradeCall plainEthers { saleParameters with ricardianHash := zeroHash } 0 (.integer 5000)
      [0xB0]).map fun order => order.ricardianHash) = some 0 := by decide +kernel
  obtain ⟨order, encoded, zero⟩ := Option.map_eq_some_iff.mp encodes
  refine ⟨_, order, by decide +kernel, encoded, ?_⟩
  intro msg s unpaused
  unfold Escrow.createTrade
  rw [whenNotPaused, require, if_pos unpaused, require, if_neg (not_not.mpr zero)]
  rfl

end Agroasys.Sdk
