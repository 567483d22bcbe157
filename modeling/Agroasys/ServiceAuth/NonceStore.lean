import Agroasys.Foundation.Leases
import Agroasys.Foundation.Outcomes
import Agroasys.Runtime.Collections
import Agroasys.Runtime.Text

/-! `createInMemoryNonceStore`, and the map of pairs that it bounds. Times are milliseconds. -/

namespace Agroasys.ServiceAuth

open Agroasys.Foundation Agroasys.Runtime

/-- A call of `consume`, and the time it is made. -/
structure Consumption where
  apiKey : String
  nonce : String
  ttlSeconds : Int
  now : Nat

namespace Consumption

def pair (call : Consumption) : String × String := (call.apiKey, call.nonce)

def expiresAt (call : Consumption) : Nat := call.now + call.ttlSeconds.toNat * 1000

end Consumption

def assertPositiveInteger (value : Int) (name : String) : Except String Unit :=
  if value ≤ 0 then .error (name ++ " must be a positive integer") else .ok ()

def assertNonEmpty (value name : String) : Except String Unit :=
  if value = "" ∨ trim value = "" then .error (name ++ " is required") else .ok ()

/-- The checks that `consume` begins with, in every store. -/
def Consumption.check (call : Consumption) : Except String Unit := do
  assertNonEmpty call.apiKey "apiKey"
  assertNonEmpty call.nonce "nonce"
  assertPositiveInteger call.ttlSeconds "nonce ttlSeconds"

section InMemory

abbrev NonceMap := InsertionMap String Nat

def pruneExpired (currentTime : Nat) (store : NonceMap) : NonceMap :=
  store.filter fun entry => currentTime < entry.2

/-- How many of the first entries `capStoreSize` deletes: it stops at the size it wants, or at
an empty key. -/
def surplus (maxEntries : Nat) : List (String × Nat) → Nat
  | [] => 0
  | (firstKey, _) :: rest =>
    if rest.length + 1 > maxEntries then if firstKey = "" then 0 else surplus maxEntries rest + 1 else 0

def capStoreSize (maxEntries : Nat) (store : NonceMap) : NonceMap :=
  store.drop (surplus maxEntries store.entries)

/-- The key of a pair. -/
def nonceKey (pair : String × String) : String := pair.1 ++ ":" ++ pair.2

/-- `consume` of `createInMemoryNonceStore`. -/
def consumeInMemory (maxEntries : Nat) (call : Consumption) (store : NonceMap) :
    Except String Bool × NonceMap :=
  match call.check with
  | .error message => (.error message, store)
  | .ok () =>
    let store := pruneExpired call.now store
    let key := nonceKey call.pair
    if (store.get key).any fun expiresAt => expiresAt ≠ 0 && expiresAt > call.now then (.ok false, store)
    else (.ok true, capStoreSize maxEntries (store.set key call.expiresAt))

end InMemory

section Pairs

/-- The entries of a map that is keyed by the pair, the newest first. -/
abbrev PairStore := List (Lease (String × String))

/-- What `consume` is for, over that map: true if no unexpired entry is there, and then one is. -/
def consumePair (call : Consumption) (rows : PairStore) : Except String Bool × PairStore :=
  match call.check with
  | .error message => (.error message, rows)
  | .ok () =>
    let taken := takeLease true call.now ⟨call.pair, call.expiresAt⟩ rows
    (.ok taken.1, taken.2)

end Pairs

/-- The answers of a store to calls one after the other. -/
def answers {Store : Type} (consume : Consumption → Store → Except String Bool × Store) :
    List Consumption → Store → List (Except String Bool)
  | [], _ => []
  | call :: calls, store => (consume call store).1 :: answers consume calls (consume call store).2

/-- The entries of the map after these calls. -/
def held (calls : List Consumption) : PairStore :=
  calls.foldl (fun rows call => (consumePair call rows).2) []

/-- After one of these calls, so many younger entries had not expired. -/
def Crowded (maxEntries : Nat) (calls : List Consumption) (entry : Lease (String × String)) : Prop :=
  ∃ before, before <+: calls ∧ entry ∈ (held before).drop maxEntries

/-- A call names a pair that has not expired, but was crowded out. -/
def Forgotten (maxEntries : Nat) (earlier : List Consumption) (call : Consumption) : Prop :=
  call.check = .ok () ∧ ∃ entry ∈ held earlier, entry.key = call.pair ∧ call.now < entry.expiresAt ∧
    Crowded maxEntries earlier entry

end Agroasys.ServiceAuth
