import Agroasys.Escrow.Runs

namespace Agroasys.Escrow

open Function Finset Agroasys.Foundation

variable {σ Op : Type}

/-- A standard ERC20: transfers move exactly the amount or revert, the total
supply fits in a `uint256`, and what the escrow holds leaves it only by its own
`transfer`, since it approves no spender. `sound` is the token's own invariant. -/
structure StandardERC20 (chain : Chain σ Op) (sound : σ → Prop) : Prop where
  supply : sound usdc → holdings (chain.token.balanceOf usdc) < 2 ^ 256
  transfer : sound usdc → chain.token.transfer usdc chain.self target amount = .ok next →
    sound next ∧
      Moved (chain.token.balanceOf usdc) (chain.token.balanceOf next) chain.self target amount
  transferFrom : sound usdc →
    chain.token.transferFrom usdc chain.self source chain.self amount = .ok next →
    sound next ∧
      Moved (chain.token.balanceOf usdc) (chain.token.balanceOf next) source chain.self amount
  unapproved : sound usdc →
    chain.token.transferFrom usdc chain.self chain.self chain.self amount = .ok next → amount = 0
  insufficientBalance : chain.token.transfer usdc chain.self target amount = .error .insufficientBalance →
    chain.token.balanceOf usdc chain.self < amount
  overflow : chain.token.transfer usdc chain.self target amount = .error .overflow →
    chain.self ≠ target ∧ 2 ^ 256 ≤ chain.token.balanceOf usdc target + amount
  call : sound usdc → sender ≠ chain.self → chain.token.call usdc sender op = .ok next →
    sound next ∧ chain.token.balanceOf usdc chain.self ≤ chain.token.balanceOf next chain.self

structure MockUSDC where
  balances : Address → Nat
  allowances : Address → Address → Nat
  totalSupply : Nat

namespace MockUSDC

/-- Transactions sent to the token. -/
inductive Operation where
  | transfer (target : Address) (amount : Word)
  | approve (spender : Address) (amount : Word)
  | transferFrom (source target : Address) (amount : Word)
  | mint (target : Address) (amount : Word)

/-- `_transfer`. -/
def transfer (usdc : MockUSDC) (source target : Address) (amount : Nat) : Except TokenError MockUSDC :=
  if source = .zero ∨ target = .zero then .error .rejected
  else if usdc.balances source < amount then .error .insufficientBalance
  else
    let debited := update usdc.balances source (usdc.balances source - amount)
    .ok { usdc with balances := update debited target (debited target + amount) }

/-- `_approve`, past its checks for zero addresses. -/
def setAllowance (usdc : MockUSDC) (owner spender : Address) (amount : Nat) : MockUSDC :=
  { usdc with
    allowances := update usdc.allowances owner (update (usdc.allowances owner) spender amount) }

/-- `_spendAllowance`: an allowance of `2 ^ 256 - 1` is never used up. -/
def spendAllowance (usdc : MockUSDC) (owner spender : Address) (amount : Nat) :
    Except TokenError MockUSDC :=
  if usdc.allowances owner spender = 2 ^ 256 - 1 then .ok usdc
  else if usdc.allowances owner spender < amount then .error .rejected
  else .ok (usdc.setAllowance owner spender (usdc.allowances owner spender - amount))

def transferFrom (usdc : MockUSDC) (spender source target : Address) (amount : Nat) :
    Except TokenError MockUSDC := do
  let usdc ← usdc.spendAllowance source spender amount
  usdc.transfer source target amount

def approve (usdc : MockUSDC) (owner spender : Address) (amount : Nat) : Except TokenError MockUSDC :=
  if owner = .zero ∨ spender = .zero then .error .rejected
  else .ok (usdc.setAllowance owner spender amount)

def mint (usdc : MockUSDC) (target : Address) (amount : Nat) : Except TokenError MockUSDC :=
  if target = .zero then .error .rejected
  else if 2 ^ 256 ≤ usdc.totalSupply + amount then .error .overflow
  else .ok { usdc with
    balances := update usdc.balances target (usdc.balances target + amount)
    totalSupply := usdc.totalSupply + amount }

def token : Token MockUSDC Operation where
  balanceOf := balances
  transfer := transfer
  transferFrom := transferFrom
  call usdc sender
    | .transfer target amount => usdc.transfer sender target amount.toNat
    | .approve spender amount => usdc.approve sender spender amount.toNat
    | .transferFrom source target amount => usdc.transferFrom sender source target amount.toNat
    | .mint target amount => usdc.mint target amount.toNat

/-- No balance exceeds the supply, and `holder` has approved nobody. -/
structure Sound (holder : Address) (usdc : MockUSDC) : Prop where
  supply : holdings usdc.balances = usdc.totalSupply
  fits : usdc.totalSupply < 2 ^ 256
  unapproved : ∀ spender, usdc.allowances holder spender = 0

theorem transfer_eq_ok {usdc next : MockUSDC} (success : usdc.transfer source target amount = .ok next) :
    Moved usdc.balances next.balances source target amount ∧ next.allowances = usdc.allowances ∧
      next.totalSupply = usdc.totalSupply := by
  unfold transfer at success
  split at success
  · cases success
  · split at success
    · cases success
    · rename_i covered
      cases success
      refine ⟨⟨Nat.le_of_not_lt covered, ?_⟩, rfl, rfl⟩
      split
      · rename_i same
        subst same
        simp [Nat.sub_add_cancel (Nat.le_of_not_lt covered)]
      · rename_i different
        simp [Ne.symm different]

theorem Sound.transfer {usdc next : MockUSDC} (sound : usdc.Sound holder)
    (success : usdc.transfer source target amount = .ok next) : next.Sound holder := by
  obtain ⟨moved, allowances, supply⟩ := transfer_eq_ok success
  refine ⟨?_, ?_, ?_⟩
  · rw [moved.holdings_eq, supply]
    exact sound.supply
  · rw [supply]
    exact sound.fits
  · rw [allowances]
    exact sound.unapproved

/-- Only what `holder` approved can be spent from its balance: nothing. -/
theorem Sound.transferFrom {usdc next : MockUSDC} (sound : usdc.Sound holder)
    (success : usdc.transferFrom spender source target amount = .ok next) :
    next.Sound holder ∧ Moved usdc.balances next.balances source target amount ∧
      (source = holder → amount = 0) := by
  unfold MockUSDC.transferFrom spendAllowance at success
  split at success
  · rename_i unlimited
    have moved := (transfer_eq_ok success).1
    refine ⟨sound.transfer success, moved, fun same => ?_⟩
    rw [same, sound.unapproved] at unlimited
    simp at unlimited
  · split at success
    · cases success
    · rename_i covered
      have moved := (transfer_eq_ok success).1
      have spent : Sound holder
          (usdc.setAllowance source spender (usdc.allowances source spender - amount)) := by
        refine ⟨sound.supply, sound.fits, fun other => ?_⟩
        have unapproved := sound.unapproved
        by_cases same : holder = source
        · subst same
          by_cases self : other = spender
          · simp [setAllowance, self, unapproved]
          · simp [setAllowance, self, unapproved]
        · simp [setAllowance, same, unapproved]
      refine ⟨spent.transfer success, moved, fun same => ?_⟩
      rw [same, sound.unapproved] at covered
      omega

private theorem Sound.call {usdc next : MockUSDC} (sound : usdc.Sound holder) (foreign : sender ≠ holder)
    (success : token.call usdc sender op = .ok next) :
    next.Sound holder ∧ usdc.balances holder ≤ next.balances holder := by
  cases op with
  | transfer target amount =>
    have moved := (transfer_eq_ok success).1
    exact ⟨sound.transfer success, moved.le_of_ne foreign.symm⟩
  | approve spender amount =>
    simp only [token, approve] at success
    split at success
    · cases success
    · cases success
      refine ⟨⟨sound.supply, sound.fits, fun other => ?_⟩, le_rfl⟩
      simp [setAllowance, foreign.symm, sound.unapproved]
  | transferFrom source target amount =>
    obtain ⟨kept, moved, guarded⟩ := sound.transferFrom success
    refine ⟨kept, ?_⟩
    by_cases same : source = holder
    · have covers := moved.source_le
      rw [same, guarded same] at covers
      exact covers
    · exact moved.le_of_ne (Ne.symm same)
  | mint target amount =>
    simp only [token, mint] at success
    split at success
    · cases success
    · split at success
      · cases success
      · rename_i fits
        cases success
        have minted := holdings_update usdc.balances target (usdc.balances target + amount.toNat)
        have supply := sound.supply
        refine ⟨⟨?_, Nat.lt_of_not_le fits, sound.unapproved⟩, ?_⟩
        · dsimp only
          omega
        · by_cases same : holder = target
          · simp [same]
          · simp [same]

/-- The mock token is a standard ERC20 for every contract that approves nobody. -/
theorem standard {chain : Chain MockUSDC Operation} (same : chain.token = token) :
    StandardERC20 chain (Sound chain.self) where
  supply sound := by
    rw [same]
    exact sound.supply ▸ sound.fits
  transfer sound success := by
    rw [same] at success ⊢
    exact ⟨sound.transfer success, (transfer_eq_ok success).1⟩
  transferFrom sound success := by
    rw [same] at success ⊢
    obtain ⟨kept, moved, _⟩ := sound.transferFrom success
    exact ⟨kept, moved⟩
  unapproved sound success := by
    rw [same] at success
    exact (sound.transferFrom success).2.2 rfl
  insufficientBalance {usdc target amount} failed := by
    rw [same] at failed ⊢
    simp only [token, MockUSDC.transfer] at failed ⊢
    split at failed
    · cases failed
    · split at failed
      · assumption
      · cases failed
  overflow {usdc target amount} failed := by
    rw [same] at failed
    simp only [token, MockUSDC.transfer] at failed
    split at failed
    · cases failed
    · split at failed <;> cases failed
  call sound foreign success := by
    rw [same] at success ⊢
    exact sound.call foreign success

end MockUSDC

/-! A chain with the mock token, on which runs are evaluated. A signature is one
byte there: the address of its signer. -/

def mockChain : Chain MockUSDC MockUSDC.Operation where
  token := MockUSDC.token
  keccak256 _ := 0
  recover _
    | [signer] => some ⟨signer.zeroExtend 160⟩
    | _ => none
  chainid := 31337
  self := ⟨0x1000⟩

namespace Mock

def buyer : Address := ⟨0xB0⟩
def supplier : Address := ⟨0x50⟩
def treasury : Address := ⟨0x70⟩
def oracle : Address := ⟨0x0A⟩
def admin1 : Address := ⟨0xA1⟩
def admin2 : Address := ⟨0xA2⟩

def config (admins : List Address) (requiredApprovals : Nat) : Config where
  usdcToken := ⟨0x2000⟩
  oracleAddress := oracle
  treasuryAddress := treasury
  admins := admins
  requiredApprovals := requiredApprovals

/-- The buyer holds the whole supply and has approved the escrow. -/
def usdc : MockUSDC where
  balances := update (fun _ => 0) buyer 1000
  allowances := update (fun _ _ => 0) buyer (update (fun _ => 0) mockChain.self 1000)
  totalSupply := 1000

def order : Order where
  supplier := supplier
  totalAmount := 100
  logisticsAmount := 10
  platformFeesAmount := 5
  supplierFirstTranche := 40
  supplierSecondTranche := 45
  ricardianHash := 1
  buyerNonce := 0
  deadline := 1000000
  signature := [0xB0]

def call (sender : Address) (timestamp : Nat) (call : Call) : Action MockUSDC.Operation :=
  .escrow ⟨sender, timestamp⟩ call

/-- Deployment at time 1, then the given transactions. -/
def scenario (config : Config) (actions : List (Action MockUSDC.Operation)) :
    Option (World MockUSDC) :=
  match config.deploy usdc 1 with
  | .ok origin => replay mockChain actions origin
  | .error _ => none

private theorem usdc_sound : MockUSDC.Sound mockChain.self usdc := by
  constructor
  · exact holdings_single buyer 1000
  · simp [usdc]
  · intro spender
    have different : mockChain.self ≠ buyer := by decide
    simp only [usdc, update_of_ne different]

/-- A scenario starts from a deployment with a sound token. -/
theorem scenario_funded {config : Config} (success : scenario config actions = some final) :
    ∃ origin history, config.Deployed origin ∧ MockUSDC.Sound mockChain.self origin.usdc ∧
      Path (escrowSystem mockChain) origin history final := by
  unfold scenario at success
  split at success
  · rename_i origin deployed
    obtain ⟨history, path⟩ := replay_path success
    refine ⟨origin, history, ⟨usdc, 1, Nat.one_pos, deployed⟩, ?_, path⟩
    obtain ⟨_, _, _, rfl⟩ := deploy_eq_ok deployed
    exact usdc_sound
  · cases success

theorem scenario_run {config : Config} (success : scenario config actions = some final) :
    ∃ history, (escrowSystem mockChain).Run history final := by
  obtain ⟨origin, history, deployed, _, path⟩ := scenario_funded success
  exact ⟨history, origin, ⟨config, deployed⟩, path⟩

end Mock

end Agroasys.Escrow
