import Agroasys.Escrow.Chronicle
import Agroasys.Indexer.Feed
import Agroasys.Runtime.Numerals

/-! The indexer reads the chronicle of the contract: what its tables show of trades and
proposals after any feed of the contract's events. -/

namespace Agroasys.Indexer

open Function Agroasys.Foundation Agroasys.Runtime

variable {Raw : Type}

/-- What reads of the tables find. -/
structure Contents where
  trades : String → Option Trade
  tradeEvents : List TradeEvent
  disputeProposals : String → Option DisputeProposal
  disputeEvents : List DisputeEvent
  oracleUpdateProposals : String → Option OracleUpdateProposal
  adminAddProposals : String → Option AdminAddProposal

section Contents

def Tables.contents (s : Tables) : Contents where
  trades := s.trades.get
  tradeEvents := s.tradeEvents.rows
  disputeProposals := s.disputeProposals.get
  disputeEvents := s.disputeEvents.rows
  oracleUpdateProposals := s.oracleUpdateProposals.get
  adminAddProposals := s.adminAddProposals.get

/-- What the database holds. -/
def Tables.stored (s : Tables) : Contents where
  trades := s.trades.store
  tradeEvents := s.tradeEvents.stored
  disputeProposals := s.disputeProposals.store
  disputeEvents := s.disputeEvents.stored
  oracleUpdateProposals := s.oracleUpdateProposals.store
  adminAddProposals := s.adminAddProposals.store

@[simp] theorem flush_contents (s : Tables) : s.flush.contents = s.contents := by
  simp [Tables.contents, Tables.flush]

/-- Between batches the database holds everything. -/
theorem index_stored (ethers : Ethers Raw) (escrowAddress : String) (batches : List (List (Block Raw))) :
    (index ethers escrowAddress batches).stored = (index ethers escrowAddress batches).contents := by
  cases batches using List.reverseRecOn with
  | nil => rfl
  | append_singleton earlier batch =>
    rw [index, List.foldl_concat, processBatch, flush_contents]
    rfl

theorem withTrade_found {s : Tables} (found : s.contents.trades (toString tradeId) = some trade) :
    ∃ loaded, withTrade tradeId s act = act trade loaded ∧ loaded.contents = s.contents := by
  have first := WriteBack.load_fst s.trades (toString tradeId)
  have same := WriteBack.get_load s.trades (toString tradeId)
  have present : s.trades.get (toString tradeId) = some trade := found
  unfold withTrade
  generalize s.trades.load (toString tradeId) = loading at first same
  obtain ⟨result, trades⟩ := loading
  obtain rfl : result = some trade := first.trans present
  refine ⟨_, rfl, ?_⟩
  simp only [Tables.contents, same]

private theorem withTrade_missing {s : Tables} (missing : s.contents.trades (toString tradeId) = none) :
    withTrade tradeId s act = s := by
  have first := WriteBack.load_fst s.trades (toString tradeId)
  have absent : s.trades.get (toString tradeId) = none := missing
  unfold withTrade
  generalize s.trades.load (toString tradeId) = loading at first
  obtain ⟨result, trades⟩ := loading
  obtain rfl : result = none := first.trans absent
  rfl

private theorem moveTrade_contents {s : Tables} (found : s.contents.trades (toString tradeId) = some trade) :
    (moveTrade tradeId change event s).contents = { s.contents with
      trades := update s.contents.trades (toString tradeId) (some (change trade))
      tradeEvents := s.contents.tradeEvents ++ [event trade] } := by
  obtain ⟨loaded, handled, same⟩ := withTrade_found found
  rw [moveTrade, handled, ← same]
  simp [Tables.contents]

private theorem noteTrade_contents {s : Tables} (found : s.contents.trades (toString tradeId) = some trade) :
    (noteTrade tradeId event s).contents = { s.contents with
      tradeEvents := s.contents.tradeEvents ++ [event trade] } := by
  obtain ⟨loaded, handled, same⟩ := withTrade_found found
  rw [noteTrade, handled, ← same]
  simp [Tables.contents]

theorem amend_found {Subject : Type} {table : WriteBack String (Proposal Subject)}
    {proposal : Proposal Subject} (change : Proposal Subject → Proposal Subject)
    (found : table.get (toString proposalId) = some proposal) :
    ∃ amended, amend table proposalId change = some (change proposal, amended) ∧
      amended.get = update table.get (toString proposalId) (some (change proposal)) := by
  have first := WriteBack.load_fst table (toString proposalId)
  have same := WriteBack.get_load table (toString proposalId)
  unfold amend
  generalize table.load (toString proposalId) = loading at first same
  obtain ⟨result, loaded⟩ := loading
  obtain rfl : result = some proposal := first.trans found
  refine ⟨_, rfl, ?_⟩
  have unchanged : loaded.get = table.get := same
  rw [WriteBack.get_set, unchanged]

private theorem amendDispute_contents {s : Tables}
    (found : s.contents.disputeProposals (toString proposalId) = some proposal) :
    (amendDispute proposalId change event s).contents = { s.contents with
      disputeProposals := update s.contents.disputeProposals (toString proposalId) (some (change proposal))
      disputeEvents := s.contents.disputeEvents ++ [event (change proposal)] } := by
  obtain ⟨amended, result, get⟩ := amend_found change found
  simp only [amendDispute, result, Tables.contents, get, Journal.rows_push]

private theorem amendOracleUpdate_contents {s : Tables}
    (found : s.contents.oracleUpdateProposals (toString proposalId) = some proposal) :
    (amendOracleUpdate proposalId change event s).contents = { s.contents with
      oracleUpdateProposals :=
        update s.contents.oracleUpdateProposals (toString proposalId) (some (change proposal)) } := by
  obtain ⟨amended, result, get⟩ := amend_found change found
  simp only [amendOracleUpdate, result, Tables.contents, get]

private theorem amendAdminAdd_contents {s : Tables}
    (found : s.contents.adminAddProposals (toString proposalId) = some proposal) :
    (amendAdminAdd proposalId change event s).contents = { s.contents with
      adminAddProposals :=
        update s.contents.adminAddProposals (toString proposalId) (some (change proposal)) } := by
  obtain ⟨amended, result, get⟩ := amend_found change found
  simp only [amendAdminAdd, result, Tables.contents, get]

end Contents

section Reading

/-- The columns of a trade that its creation fixes. -/
structure SameOrder (tradeId : Nat) (trade : Escrow.Trade) (entity : Trade) : Prop where
  id : entity.id = toString tradeId
  buyer : entity.buyer = addressText trade.buyerAddress
  supplier : entity.supplier = addressText trade.supplierAddress
  totalAmountLocked : entity.totalAmountLocked = trade.totalAmountLocked
  logisticsAmount : entity.logisticsAmount = trade.logisticsAmount
  platformFeesAmount : entity.platformFeesAmount = trade.platformFeesAmount
  supplierFirstTranche : entity.supplierFirstTranche = trade.supplierFirstTranche
  supplierSecondTranche : entity.supplierSecondTranche = trade.supplierSecondTranche
  ricardianHash : entity.ricardianHash = hexText 64 trade.ricardianHash.toNat

/-- The entity of a trade: one that a dispute settled stays frozen. -/
structure ShowsTrade (settled : Prop) (tradeId : Nat) (trade : Escrow.Trade) (entity : Trade) : Prop where
  order : SameOrder tradeId trade entity
  status : ¬ settled → entity.status = .of trade.status
  stuck : settled → entity.status = .frozen

/-- The columns that the three families share. -/
structure ShowsProposal {Matter Subject : Type} (executed : Bool) (proposalId : Nat) (standing : Standing Matter)
    (entity : Proposal Subject) : Prop where
  id : entity.id = toString proposalId
  approvalCount : entity.approvalCount = standing.approvalCount
  executed : entity.executed = executed
  cancelled : entity.cancelled = standing.cancelled

/-- The entity of a dispute proposal: whatever was proposed, it says resolve. -/
structure ShowsDispute (proposalId : Nat) (standing : Standing Escrow.DisputeMatter) (entity : DisputeProposal) :
    Prop extends ShowsProposal standing.executed proposalId standing entity where
  trade : entity.subject.trade = toString standing.matter.tradeId
  resolve : entity.subject.disputeStatus = .resolve

/-- The entity of an oracle or admin proposal, which is never marked as executed. -/
abbrev ShowsPending {Matter Subject : Type} (proposalId : Nat) (standing : Standing Matter)
    (entity : Proposal Subject) : Prop :=
  ShowsProposal false proposalId standing entity

/-- Every payout row says resolve, and every dispute that was paid has one. -/
structure PayoutRows (paid : Nat → Bool) (rows : List TradeEvent) : Prop where
  resolve : ∀ row ∈ rows, row.eventName = "DisputePayout" → row.payoutType = some .resolve
  listed : ∀ proposalId, paid proposalId = true → ∃ row ∈ rows,
    row.eventName = "DisputePayout" ∧ row.relatedProposalId = some (toString proposalId)

/-- Every row about a final decision says resolve, and every executed proposal has one. -/
structure FinalRows (disputes : Standings Escrow.DisputeMatter) (rows : List DisputeEvent) : Prop where
  resolve : ∀ row ∈ rows, row.eventName = "DisputeFinalized" → row.finalDisputeStatus = some .resolve
  listed : ∀ proposalId, (disputes.Enacts fun id _ => id = proposalId) → ∃ row ∈ rows,
    row.eventName = "DisputeFinalized" ∧ row.dispute = toString proposalId

/-- What the tables show of the contract. -/
structure Shows (account : Escrow.Account) (c : Contents) : Prop where
  coherent : account.Coherent
  trades : WriteBack.Tracks toString (fun tradeId => ShowsTrade (account.Settled tradeId) tradeId)
    account.trades c.trades
  disputes : WriteBack.Tracks toString ShowsDispute account.disputes c.disputeProposals
  oracleUpdates : WriteBack.Tracks toString ShowsPending account.oracleUpdates c.oracleUpdateProposals
  adminAdds : WriteBack.Tracks toString ShowsPending account.adminAdds c.adminAddProposals
  payouts : PayoutRows account.paid c.tradeEvents
  finals : FinalRows account.disputes c.disputeEvents

theorem PayoutRows.other (payouts : PayoutRows paid rows) (named : row.eventName ≠ "DisputePayout") :
    PayoutRows paid (rows ++ [row]) where
  resolve other member name := by
    rcases List.mem_append.mp member with earlier | last
    · exact payouts.resolve other earlier name
    · rw [List.mem_singleton] at last
      exact absurd (last ▸ name) named
  listed proposalId done := by
    obtain ⟨found, member, shown⟩ := payouts.listed proposalId done
    exact ⟨found, List.mem_append_left _ member, shown⟩

private theorem PayoutRows.pay (payouts : PayoutRows paid rows) (named : row.eventName = "DisputePayout")
    (resolve : row.payoutType = some .resolve) (related : row.relatedProposalId = some (toString proposalId)) :
    PayoutRows (update paid proposalId true) (rows ++ [row]) where
  resolve other member name := by
    rcases List.mem_append.mp member with earlier | last
    · exact payouts.resolve other earlier name
    · rw [List.mem_singleton] at last
      rw [last, resolve]
  listed other done := by
    by_cases same : other = proposalId
    · subst same
      exact ⟨row, by simp, named, related⟩
    · rw [update_of_ne same] at done
      obtain ⟨found, member, shown⟩ := payouts.listed other done
      exact ⟨found, List.mem_append_left _ member, shown⟩

private theorem FinalRows.other (finals : FinalRows disputes rows)
    (kept : ∀ among : Nat → Escrow.DisputeMatter → Prop, Standings.Enacts after among ↔ disputes.Enacts among)
    (named : row.eventName ≠ "DisputeFinalized") : FinalRows after (rows ++ [row]) where
  resolve other member name := by
    rcases List.mem_append.mp member with earlier | last
    · exact finals.resolve other earlier name
    · rw [List.mem_singleton] at last
      exact absurd (last ▸ name) named
  listed proposalId done := by
    obtain ⟨found, member, shown⟩ := finals.listed proposalId ((kept _).mp done)
    exact ⟨found, List.mem_append_left _ member, shown⟩

private theorem FinalRows.finalize (finals : FinalRows disputes rows) (present : disputes proposalId = some standing)
    (named : row.eventName = "DisputeFinalized") (resolve : row.finalDisputeStatus = some .resolve)
    (about : row.dispute = toString proposalId) :
    FinalRows (update disputes proposalId (some { standing with executed := true })) (rows ++ [row]) where
  resolve other member name := by
    rcases List.mem_append.mp member with earlier | last
    · exact finals.resolve other earlier name
    · rw [List.mem_singleton] at last
      rw [last, resolve]
  listed other done := by
    rcases (Standings.enacts_executed present).mp done with earlier | rfl
    · obtain ⟨found, member, shown⟩ := finals.listed other earlier
      exact ⟨found, List.mem_append_left _ member, shown⟩
    · exact ⟨row, by simp, named, about⟩

end Reading

section Telling

variable {account : Escrow.Account} {s : Tables} {getAddress : Escrow.Address → String}

private theorem ShowsTrade.congr {settled : Prop} (shows : ShowsTrade settled tradeId trade entity)
    (same : now ↔ settled) : ShowsTrade now tradeId trade entity :=
  ⟨shows.order, fun free => shows.status (free ∘ same.mpr), fun done => shows.stuck (same.mp done)⟩

private theorem Shows.locked (shows : Shows account s.contents) (trade : Escrow.Trade)
    (checksum : ∀ address, toLowerCase (getAddress address) = addressText address)
    (absent : account.trades trade.tradeId = none) (status : trade.status = .locked)
    (coherent : Escrow.Account.Coherent
      { account with trades := update account.trades trade.tradeId (some trade) }) :
    Shows { account with trades := update account.trades trade.tradeId (some trade) }
      (handle (decode getAddress trade.locking) origin s).contents := by
  have unsettled : ¬ account.Settled trade.tradeId := by
    intro settled
    obtain ⟨old, found, _⟩ := shows.coherent _ settled
    simp [absent] at found
  simp only [Escrow.Trade.locking, decode, handle, handleTradeLocked, Tables.contents, WriteBack.get_set,
    Journal.rows_push]
  refine ⟨coherent, ?_, shows.disputes, shows.oracleUpdates, shows.adminAdds, shows.payouts.other ?_,
    shows.finals⟩
  · refine shows.trades.set toString_injective ⟨⟨rfl, checksum _, checksum _, rfl, rfl, rfl, rfl, rfl, rfl⟩, ?_, ?_⟩
    · intro _
      rw [status]
      rfl
    · intro settled
      exact absurd settled unsettled
  · simp [Origin.row]

/-- A trade that is about to move was not settled by a dispute. -/
theorem Shows.unsettled {c : Contents} (shows : Shows account c) (found : account.trades tradeId = some trade)
    (unclosed : trade.status ≠ .closed) : ¬ account.Settled tradeId := by
  intro settled
  obtain ⟨old, known, closed⟩ := shows.coherent _ settled
  obtain rfl := Option.some.inj (found.symm.trans known)
  exact unclosed closed

theorem Shows.moved {move : Escrow.Move} (shows : Shows account s.contents) (found : account.trades tradeId = some trade)
    (source : trade.status = move.source)
    (change : Trade → Trade) (event : Trade → TradeEvent)
    (kept : ∀ entity, SameOrder tradeId trade entity → SameOrder tradeId trade (change entity))
    (status : ∀ entity, (change entity).status = .of move.target)
    (named : ∀ entity, (event entity).eventName ≠ "DisputePayout")
    (coherent : Escrow.Account.Coherent
      { account with trades := update account.trades tradeId (some (move.advance now trade)) }) :
    Shows { account with trades := update account.trades tradeId (some (move.advance now trade)) }
      (moveTrade tradeId change event s).contents := by
  have unsettled : ¬ account.Settled tradeId := by
    apply shows.unsettled found
    rw [source]
    cases move <;> simp [Escrow.Move.source]
  obtain ⟨entity, present, shown⟩ := shows.trades tradeId trade found
  rw [moveTrade_contents present]
  refine ⟨coherent, shows.trades.set toString_injective ?_, shows.disputes, shows.oracleUpdates,
    shows.adminAdds, shows.payouts.other (named entity), shows.finals⟩
  have order := kept entity shown.order
  refine ⟨⟨order.id, order.buyer, order.supplier, order.totalAmountLocked, order.logisticsAmount,
    order.platformFeesAmount, order.supplierFirstTranche, order.supplierSecondTranche, order.ricardianHash⟩, ?_, ?_⟩
  · intro _
    rw [status, Escrow.Move.advance_status]
  · intro settled
    exact absurd settled unsettled

private theorem Shows.noted (shows : Shows account s.contents) (event : Trade → TradeEvent)
    (named : ∀ entity, (event entity).eventName ≠ "DisputePayout") :
    Shows account (noteTrade tradeId event s).contents := by
  cases found : s.contents.trades (toString tradeId) with
  | none =>
    rw [noteTrade, withTrade_missing found]
    exact shows
  | some entity =>
    rw [noteTrade_contents found]
    exact { shows with payouts := shows.payouts.other (named entity) }

/-- The trades of the account and their entities are not concerned by what is told of a
dispute before its end. -/
theorem Shows.retold {disputes : Standings Escrow.DisputeMatter} {c : Contents} (shows : Shows account c)
    (same : ∀ among : Nat → Escrow.DisputeMatter → Prop, disputes.Enacts among ↔ account.disputes.Enacts among) :
    WriteBack.Tracks toString
      (fun tradeId => ShowsTrade (Escrow.Account.Settled { account with disputes := disputes } tradeId) tradeId)
      account.trades c.trades :=
  shows.trades.mono fun _ _ _ _ shown => shown.congr (same _)

private theorem handleDisputeSolutionProposed_contents {entity : Trade}
    (present : s.contents.trades (toString tradeId) = some entity) (named : entity.id = toString tradeId)
    (proposalId : Nat) (decision : Escrow.DisputeStatus) (proposer : String) (origin : Origin) :
    ∃ proposal row,
      (handleDisputeSolutionProposed proposalId tradeId (disputeStatusCode decision) proposer origin s).contents =
        { s.contents with
          disputeProposals := update s.contents.disputeProposals (toString proposalId) (some proposal)
          disputeEvents := s.contents.disputeEvents ++ [row] } ∧
      ShowsDispute proposalId ⟨⟨tradeId, decision⟩, 1, false, false⟩ proposal ∧
      row.eventName = "DisputeSolutionProposed" := by
  obtain ⟨loaded, handled, contents⟩ := withTrade_found present
  rw [handleDisputeSolutionProposed, handled, ← contents]
  refine ⟨_, _, by simp only [Tables.contents, WriteBack.get_set, Journal.rows_push]; rfl, ?_, rfl⟩
  exact ⟨⟨rfl, rfl, rfl, rfl⟩, named, disputeStatusEnum_code decision⟩

private theorem Shows.disputeProposed (shows : Shows account s.contents) (found : account.trades tradeId = some trade)
    (posts : Notice.Posts account.disputes (.proposed proposalId ⟨tradeId, decision⟩) after)
    (coherent : Escrow.Account.Coherent { account with disputes := after }) (proposer : String) (origin : Origin) :
    Shows { account with disputes := after }
      (handleDisputeSolutionProposed proposalId tradeId (disputeStatusCode decision) proposer origin s).contents := by
  have same := posts.enacts_iff (by simp)
  obtain ⟨entity, present, shown⟩ := shows.trades tradeId trade found
  obtain ⟨proposal, row, contents, proposed, named⟩ :=
    handleDisputeSolutionProposed_contents present shown.order.id proposalId decision proposer origin
  rw [contents]
  refine ⟨coherent, shows.retold same, ?_, shows.oracleUpdates, shows.adminAdds, shows.payouts,
    shows.finals.other same (by simp [named])⟩
  cases posts
  exact shows.disputes.set toString_injective proposed

/-- Approvals and cancellations change one proposal that is there. -/
theorem Shows.disputeAmended (shows : Shows account s.contents)
    (found : account.disputes proposalId = some standing) (change : DisputeProposal → DisputeProposal)
    (event : DisputeProposal → DisputeEvent)
    (same : ∀ among, Standings.Enacts (update account.disputes proposalId (some next)) among ↔
      account.disputes.Enacts among)
    (changed : ∀ entity, ShowsDispute proposalId standing entity → ShowsDispute proposalId next (change entity))
    (named : ∀ entity, (event entity).eventName ≠ "DisputeFinalized")
    (coherent : Escrow.Account.Coherent
      { account with disputes := update account.disputes proposalId (some next) }) :
    Shows { account with disputes := update account.disputes proposalId (some next) }
      (amendDispute proposalId change event s).contents := by
  obtain ⟨entity, present, shown⟩ := shows.disputes proposalId standing found
  rw [amendDispute_contents present]
  exact ⟨coherent, shows.retold same, shows.disputes.set toString_injective (changed entity shown),
    shows.oracleUpdates, shows.adminAdds, shows.payouts, shows.finals.other same (named _)⟩

private theorem Shows.disputePaid (shows : Shows account s.contents) (known : account.trades tradeId = some trade)
    (coherent : Escrow.Account.Coherent { account with paid := update account.paid proposalId true })
    (recipient : String) (amount : Nat) (decision : Escrow.DisputeStatus) (origin : Origin) :
    Shows { account with paid := update account.paid proposalId true }
      (handleDisputePayout tradeId proposalId recipient amount (disputeStatusCode decision) origin s).contents := by
  obtain ⟨entity, present, _⟩ := shows.trades tradeId trade known
  rw [handleDisputePayout, noteTrade_contents present]
  refine ⟨coherent, shows.trades, shows.disputes, shows.oracleUpdates, shows.adminAdds,
    shows.payouts.pay rfl ?_ rfl, shows.finals⟩
  simp [disputeStatusEnum_code]

private theorem Shows.disputeFinalized (shows : Shows account s.contents)
    (found : account.disputes proposalId = some standing) (matter : standing.matter = ⟨tradeId, decision⟩)
    (known : account.trades tradeId = some trade) (frozen : trade.status = .frozen)
    (coherent : Escrow.Account.Coherent { account with
      trades := update account.trades tradeId (some ((Escrow.Move.executeDispute decision).advance now trade))
      disputes := update account.disputes proposalId (some { standing with executed := true }) })
    (origin : Origin) :
    Shows { account with
      trades := update account.trades tradeId (some ((Escrow.Move.executeDispute decision).advance now trade))
      disputes := update account.disputes proposalId (some { standing with executed := true }) }
      (handleDisputeFinalized proposalId (disputeStatusCode decision) origin s).contents := by
  have unsettled : ¬ account.Settled tradeId := shows.unsettled known (by rw [frozen]; decide)
  obtain ⟨proposal, present, shown⟩ := shows.disputes proposalId standing found
  rw [handleDisputeFinalized, amendDispute_contents present]
  refine ⟨coherent, ?_, shows.disputes.set toString_injective ?_, shows.oracleUpdates, shows.adminAdds,
    shows.payouts, shows.finals.finalize found rfl ?_ shown.id⟩
  · intro other item present
    dsimp only at present
    by_cases same : other = tradeId
    · subst same
      rw [update_self] at present
      obtain rfl := Option.some.inj present
      obtain ⟨entity, stored, told⟩ := shows.trades other trade known
      have order := told.order
      refine ⟨entity, stored, ⟨order.id, order.buyer, order.supplier, order.totalAmountLocked,
        order.logisticsAmount, order.platformFeesAmount, order.supplierFirstTranche,
        order.supplierSecondTranche, order.ricardianHash⟩, ?_, ?_⟩
      · intro free
        exact absurd ((Standings.enacts_executed found).mpr (.inr (by rw [matter]))) free
      · intro _
        rw [told.status unsettled, frozen]
        rfl
    · rw [update_of_ne same] at present
      obtain ⟨entity, stored, told⟩ := shows.trades other item present
      refine ⟨entity, stored, told.congr ?_⟩
      refine (Standings.enacts_executed found).trans ?_
      simp [matter, Ne.symm same, Escrow.Account.Settled]
  · exact ⟨⟨shown.id, shown.approvalCount, rfl, shown.cancelled⟩, shown.trade, shown.resolve⟩
  · simp [disputeStatusEnum_code]

private theorem Shows.oracleUpdateAmended (shows : Shows account s.contents)
    (found : account.oracleUpdates proposalId = some standing)
    (change : OracleUpdateProposal → OracleUpdateProposal) (event : OracleUpdateProposal → OracleEvent)
    (changed : ∀ entity, ShowsPending proposalId standing entity → ShowsPending proposalId next (change entity)) :
    Shows { account with oracleUpdates := update account.oracleUpdates proposalId (some next) }
      (amendOracleUpdate proposalId change event s).contents := by
  obtain ⟨entity, present, shown⟩ := shows.oracleUpdates proposalId standing found
  rw [amendOracleUpdate_contents present]
  exact ⟨shows.coherent, shows.trades, shows.disputes,
    shows.oracleUpdates.set toString_injective (changed entity shown), shows.adminAdds, shows.payouts, shows.finals⟩

private theorem Shows.adminAddAmended (shows : Shows account s.contents)
    (found : account.adminAdds proposalId = some standing)
    (change : AdminAddProposal → AdminAddProposal) (event : AdminAddProposal → AdminEvent)
    (changed : ∀ entity, ShowsPending proposalId standing entity → ShowsPending proposalId next (change entity)) :
    Shows { account with adminAdds := update account.adminAdds proposalId (some next) }
      (amendAdminAdd proposalId change event s).contents := by
  obtain ⟨entity, present, shown⟩ := shows.adminAdds proposalId standing found
  rw [amendAdminAdd_contents present]
  exact ⟨shows.coherent, shows.trades, shows.disputes, shows.oracleUpdates,
    shows.adminAdds.set toString_injective (changed entity shown), shows.payouts, shows.finals⟩

/-- An execution reaches no entity. -/
theorem ShowsProposal.pending {Matter Subject : Type} {standing : Standing Matter} {entity : Proposal Subject}
    (shown : ShowsPending proposalId standing entity) :
    ShowsPending proposalId { standing with executed := true } entity :=
  ⟨shown.id, shown.approvalCount, shown.executed, shown.cancelled⟩

private theorem Shows.dispute {event : Escrow.Event} (shows : Shows account s.contents)
    (announced : event.dispute? = some notice) (posts : notice.Posts account.disputes after)
    (coherent : Escrow.Account.Coherent { account with disputes := after }) (origin : Origin) :
    Shows { account with disputes := after } (handle (decode getAddress event) origin s).contents := by
  have same := posts.enacts_iff (Escrow.Event.dispute?_pending announced)
  cases event with
  | disputeApproved proposalId approver approvalCount required =>
    obtain rfl := Option.some.inj announced
    cases posts with
    | approved found =>
      refine shows.disputeAmended found _ _ same ?_ (fun _ => by simp [Origin.row]) coherent
      intro entity shown
      exact ⟨⟨shown.id, rfl, shown.executed, shown.cancelled⟩, shown.trade, shown.resolve⟩
  | disputeProposalExpiredCancelled proposalId tradeId cancelledBy =>
    obtain rfl := Option.some.inj announced
    cases posts with
    | cancelled found =>
      refine shows.disputeAmended found _ _ same ?_ (fun _ => by simp [Origin.row]) coherent
      intro entity shown
      exact ⟨⟨shown.id, shown.approvalCount, shown.executed, rfl⟩, shown.trade, shown.resolve⟩
  | _ => simp [Escrow.Event.dispute?] at announced

private theorem Shows.oracleUpdate {event : Escrow.Event} (shows : Shows account s.contents)
    (announced : event.oracleUpdate? = some notice) (posts : notice.Posts account.oracleUpdates after)
    (origin : Origin) :
    Shows { account with oracleUpdates := after } (handle (decode getAddress event) origin s).contents := by
  cases event with
  | oracleUpdateProposed proposalId proposer newOracle eta emergencyFastTrack =>
    obtain rfl := Option.some.inj announced
    cases posts with
    | proposed absent =>
      simp only [decode, handle, handleOracleUpdateProposed, Tables.contents, WriteBack.get_set]
      exact ⟨shows.coherent, shows.trades, shows.disputes,
        shows.oracleUpdates.set toString_injective ⟨rfl, rfl, rfl, rfl⟩, shows.adminAdds, shows.payouts,
        shows.finals⟩
  | oracleUpdateApproved proposalId approver approvalCount required =>
    obtain rfl := Option.some.inj announced
    cases posts with
    | approved found =>
      refine shows.oracleUpdateAmended found _ _ ?_
      intro entity shown
      exact ⟨shown.id, rfl, shown.executed, shown.cancelled⟩
  | oracleUpdateProposalExpiredCancelled proposalId cancelledBy =>
    obtain rfl := Option.some.inj announced
    cases posts with
    | cancelled found =>
      refine shows.oracleUpdateAmended found _ _ ?_
      intro entity shown
      exact ⟨shown.id, shown.approvalCount, shown.executed, rfl⟩
  | oracleUpdated oldOracle newOracle =>
    obtain rfl := Option.some.inj announced
    cases posts with
    | @executed proposalId standing found =>
      obtain ⟨entity, present, shown⟩ := shows.oracleUpdates _ _ found
      exact { shows with oracleUpdates := shows.oracleUpdates.keep present shown.pending }
  | _ => simp [Escrow.Event.oracleUpdate?] at announced

private theorem Shows.adminAdd {event : Escrow.Event} (shows : Shows account s.contents)
    (announced : event.adminAdd? = some notice) (posts : notice.Posts account.adminAdds after)
    (origin : Origin) :
    Shows { account with adminAdds := after } (handle (decode getAddress event) origin s).contents := by
  cases event with
  | adminAddProposed proposalId proposer newAdmin eta =>
    obtain rfl := Option.some.inj announced
    cases posts with
    | proposed absent =>
      simp only [decode, handle, handleAdminAddProposed, Tables.contents, WriteBack.get_set]
      exact ⟨shows.coherent, shows.trades, shows.disputes, shows.oracleUpdates,
        shows.adminAdds.set toString_injective ⟨rfl, rfl, rfl, rfl⟩, shows.payouts, shows.finals⟩
  | adminAddApproved proposalId approver approvalCount required =>
    obtain rfl := Option.some.inj announced
    cases posts with
    | approved found =>
      refine shows.adminAddAmended found _ _ ?_
      intro entity shown
      exact ⟨shown.id, rfl, shown.executed, shown.cancelled⟩
  | adminAddProposalExpiredCancelled proposalId cancelledBy =>
    obtain rfl := Option.some.inj announced
    cases posts with
    | cancelled found =>
      refine shows.adminAddAmended found _ _ ?_
      intro entity shown
      exact ⟨shown.id, shown.approvalCount, shown.executed, rfl⟩
  | adminAdded newAdmin =>
    obtain rfl := Option.some.inj announced
    cases posts with
    | @executed proposalId standing found =>
      obtain ⟨entity, present, shown⟩ := shows.adminAdds _ _ found
      exact { shows with adminAdds := shows.adminAdds.keep present shown.pending }
  | _ => simp [Escrow.Event.adminAdd?] at announced

private theorem Shows.silent {event : Escrow.Event} (shows : Shows account s.contents)
    (silent : event.silent = true) (origin : Origin) :
    Shows account (handle (decode getAddress event) origin s).contents := by
  cases event with
  | platformFeesPaidStage1 => exact shows.noted _ (fun _ => by simp [Origin.row])
  | claimableAccrued => exact shows.noted _ (fun _ => by simp [Origin.row])
  | unpauseProposed | unpauseApproved | unpauseProposalCancelled | treasuryPayoutAddressUpdateProposed
  | treasuryPayoutAddressUpdateApproved | treasuryPayoutAddressUpdated
  | treasuryPayoutAddressUpdateProposalExpiredCancelled | treasuryClaimed | oracleDisabledEmergency
  | claimed | claimsPaused | claimsUnpaused | paused | unpaused => exact shows
  | _ => simp [Escrow.Event.silent] at silent

private theorem Shows.announced {event : Escrow.Event} {move : Escrow.Move} (shows : Shows account s.contents)
    (announced : event.move? = some (tradeId, move)) (found : account.trades tradeId = some trade)
    (source : trade.status = move.source)
    (coherent : Escrow.Account.Coherent
      { account with trades := update account.trades tradeId (some (move.advance now trade)) })
    (origin : Origin) :
    Shows { account with trades := update account.trades tradeId (some (move.advance now trade)) }
      (handle (decode getAddress event) origin s).contents := by
  have sameOrder : ∀ (entity : Trade) (status : TradeStatus) (arrival : Option Nat),
      SameOrder tradeId trade entity →
      SameOrder tradeId trade { entity with status := status, arrivalTimestamp := arrival } :=
    fun _ _ _ order => ⟨order.id, order.buyer, order.supplier, order.totalAmountLocked, order.logisticsAmount,
      order.platformFeesAmount, order.supplierFirstTranche, order.supplierSecondTranche, order.ricardianHash⟩
  cases event with
  | fundsReleasedStage1 | arrivalConfirmed | finalTrancheReleased | disputeOpenedByBuyer
  | tradeCancelledAfterLockTimeout | inTransitTimeoutRefunded =>
    obtain ⟨rfl, rfl⟩ := Prod.mk.inj (Option.some.inj announced)
    exact shows.moved found source _ _ (fun entity order => sameOrder entity _ _ order) (fun _ => rfl)
      (fun _ => by simp [Origin.row]) coherent
  | _ => simp [Escrow.Event.move?] at announced

/-- Every event of the contract's chronicle is read as the tables show it. -/
theorem Shows.tell {event : Escrow.Event} (shows : Shows account s.contents)
    (tells : Escrow.Tells account event next)
    (checksum : ∀ address, toLowerCase (getAddress address) = addressText address) (origin : Origin) :
    Shows next (handle (decode getAddress event) origin s).contents := by
  have coherent := tells.coherent shows.coherent
  cases tells with
  | locked trade absent status => exact shows.locked trade checksum absent status coherent
  | moved announced found source now => exact shows.announced announced found source coherent origin
  | disputeProposed found frozen posts => exact shows.disputeProposed found posts coherent _ origin
  | dispute announced posts => exact shows.dispute announced posts coherent origin
  | disputePaid found matter known => exact shows.disputePaid known coherent _ _ _ origin
  | disputeFinalized found matter paid known frozen now =>
    exact shows.disputeFinalized found matter known frozen coherent origin
  | oracleUpdate announced posts => exact shows.oracleUpdate announced posts origin
  | adminAdd announced posts => exact shows.adminAdd announced posts origin
  | silent silent => exact shows.silent silent origin

end Telling

section Feeds

variable {σ Op : Type} {chain : Escrow.Chain σ Op} {ethers : Ethers Raw} {encode : Escrow.Event → Raw}
  {getAddress : Escrow.Address → String}

def Reads (account : Escrow.Account) (s : Tables) : Prop := Shows account s.contents

private theorem reads_nothing : Reads .empty .empty where
  coherent tradeId := by
    rintro ⟨_, _, present, _⟩
    cases present
  trades tradeId trade present := by cases present
  disputes proposalId standing present := by cases present
  oracleUpdates proposalId standing present := by cases present
  adminAdds proposalId standing present := by cases present
  payouts := ⟨fun _ member => (nomatch member), fun _ paid => (nomatch paid)⟩
  finals := ⟨fun _ member => (nomatch member), fun _ ⟨_, _, present, _⟩ => (nomatch present)⟩

private theorem moment_known {batches : List (List (Block Raw))} {event : ChainEvent Raw}
    (member : Moment.arrival block event ∈ batches.flatMap batchMoments) :
    ∃ batch ∈ batches, block ∈ batch ∧ event ∈ block.events := by
  obtain ⟨batch, known, among⟩ := List.mem_flatMap.mp member
  simp only [batchMoments, List.mem_append, List.mem_flatMap, List.mem_map, List.mem_singleton] at among
  obtain ⟨_, inside, _, present, same⟩ | other := among
  · cases same
    exact ⟨batch, known, inside, present⟩
  · cases other

/-- After any feed of its events the tables show the contract. -/
theorem index_shows (decodes : ethers.Decodes encode getAddress)
    (run : (Escrow.escrowSystem chain).Run history s)
    (brings : Brings ethers escrowAddress encode batches s.events) :
    Shows s.account (index ethers escrowAddress batches).stored := by
  rw [index_stored, index_moments]
  refine (?_ : Reads s.account _)
  refine System.Trace.read ?_ ?_ (Escrow.run_chronicle run) (moments_logs decodes brings.emitted) reads_nothing
  · intro moment member account event next tables seen tells shows
    cases moment with
    | endOfBatch => cases seen
    | arrival block arrived =>
      obtain ⟨batch, known, inside, present⟩ := moment_known member
      have distinct := brings.distinguished batch known block inside arrived present
      simp only [Moment.log?] at seen
      split at seen
      · rename_i escrow
        simp only [Moment.act, processEvent, escrow, if_true, seen, distinct, Bool.false_eq_true, if_false]
        exact Shows.tell shows tells decodes.checksum _
      · cases seen
  · intro moment member account tables unseen shows
    cases moment with
    | endOfBatch =>
      have same : (Moment.act ethers escrowAddress tables .endOfBatch).contents = tables.contents :=
        flush_contents tables
      rwa [Reads, same]
    | arrival block arrived =>
      have same : Moment.act ethers escrowAddress tables (.arrival block arrived) = tables := by
        simp only [Moment.log?] at unseen
        split at unseen
        · rename_i escrow
          simp only [Moment.act, processEvent, escrow, if_true, unseen]
        · rename_i foreign
          simp only [Moment.act, processEvent, foreign, Bool.false_eq_true, if_false]
      rwa [same]

end Feeds

end Agroasys.Indexer
