import CrFaucet.Redemption.Effects
import CrFaucet.Redemption.System

/-!
Owns what failed reads do to payouts: `TreasuryRefresher::tick` run once with
some of its reads failing, against the same tick with all of them answered.

Only the supply read has a default. `tick` then stores a snapshot with supply 0,
which lowers the denominator of every payout computed from it.
-/

set_option autoImplicit false

namespace CrFaucet.Treasury

open Interaction
open Redemption
open Token (Address)

/-- How the outside answers the commands of one tick. -/
structure Readings where
  refresh : Answer
  balance : Answer
  supply : Answer
  pendingAtomic : Answer
  pendingCount : Answer
  now : Answer
  stored : Answer

namespace Readings

variable (readings : Readings)

def answers : List Answer :=
  [readings.refresh, readings.balance, readings.supply, readings.pendingAtomic,
    readings.pendingCount, readings.now, readings.stored]

/-- The same moment, with every command answered. What the wallet reports as its balance is taken
to be the same whether `refresh` went through or not. -/
def healthy : Readings where
  refresh := { readings.refresh with outcome := .ok }
  balance := { readings.balance with outcome := .ok }
  supply := { readings.supply with outcome := .ok }
  pendingAtomic := { readings.pendingAtomic with outcome := .ok }
  pendingCount := { readings.pendingCount with outcome := .ok }
  now := { readings.now with outcome := .ok }
  stored := { readings.stored with outcome := .ok }

end Readings

variable (lua : Lua) (enclave : Address) (world : World) (readings : Readings)

/-- The snapshot one tick stores, if it does not end with an error. -/
def tickAlone : Option TreasurySnapshot :=
  (tick.drive (exec lua enclave) world readings.answers).2.join

/-- What a tick observes, given the balances and the supply it goes by. -/
def observed (balance unlocked supply : Nat) : TreasurySnapshot where
  moneroBalanceAtomic := balance
  moneroUnlockedAtomic := unlocked
  pendingRedemptionsAtomic := Redis.readCounter world.redis.pendingAtomic
  pendingRedemptionsCount := Redis.readCounter world.redis.pendingCount
  miningPoolTokenTotalSupply := supply
  asOfUnix := readings.now.time

/-- The supply as a `u128`. -/
def supplyAtomic : Nat := min world.token.erc20.totalSupply u128Max

theorem readL2_reply (answer : Answer) (value : Nat) :
    (world.readL2 answer (some value)).2 = if answer.outcome = .ok then some value else none := by
  unfold World.readL2 Outcome.perform
  cases answer.outcome <;> rfl

theorem onRedis_read (answer : Answer) (value : Redis → Option Nat) :
    (world.onRedis answer fun redis => (redis, value redis)).1 = world := by
  unfold World.onRedis Outcome.perform
  cases answer.outcome <;> rfl

/-- **What one tick stores.** The balance and both counters must be read and the
snapshot be written; only the supply may be missing. -/
theorem tickAlone_eq :
    tickAlone lua enclave world readings = readings.balance.balance.bind fun balances =>
      if readings.pendingAtomic.outcome = .ok ∧ readings.pendingCount.outcome = .ok ∧
          readings.stored.outcome = .ok then
        some (observed world readings balances.1 balances.2
          (if readings.supply.outcome = .ok then supplyAtomic world else 0))
      else none := by
  cases balances : readings.balance.balance with
  | none => simp [tickAlone, tick, Readings.answers, send, Program.drive, exec, balances]
  | some both =>
      have supply : Option.getD (if readings.supply.outcome = .ok then
          some (supplyAtomic world) else none) 0 =
            if readings.supply.outcome = .ok then supplyAtomic world else 0 := by
        split <;> rfl
      by_cases pendingAtomic : readings.pendingAtomic.outcome = .ok
      · by_cases pendingCount : readings.pendingCount.outcome = .ok
        · by_cases stored : readings.stored.outcome = .ok
          · simp only [tickAlone, tick, send, Program.pure_eq, Program.call_bind,
              Readings.answers, Program.drive, exec, balances, World.onRedis_reply, onRedis_read,
              pendingAtomic, pendingCount, stored, ↓reduceIte, Option.join_some, and_self,
              Option.bind_some, Option.some.injEq]
            rw [readL2_reply]
            exact congrArg (observed world readings both.1 both.2) supply
          · simp [tickAlone, tick, Readings.answers, send, Program.drive, exec, balances,
              World.onRedis_reply, pendingAtomic, pendingCount, stored]
        · simp [tickAlone, tick, Readings.answers, send, Program.drive, exec, balances,
            World.onRedis_reply, pendingAtomic, pendingCount]
      · simp [tickAlone, tick, Readings.answers, send, Program.drive, exec, balances,
          World.onRedis_reply, pendingAtomic]

/-! ### Payouts from two snapshots -/

/-- No redemption, whatever its amount and the pending total, is worth more against
`failed` than against `sound`. Both are read as `i64`. -/
def NeverRaises (premiumBp : Nat) (failed sound : TreasurySnapshot) : Prop :=
  ∀ pendingNow < 2 ^ 63, ∀ amount < 2 ^ 63,
    payoutAtomic premiumBp failed pendingNow amount ≤
      payoutAtomic premiumBp sound pendingNow amount

/-- Whatever is pending, the capped rate without the supply is no more than the rate with it: the
wallet holds so much that the cap binds in both. -/
def CapBinds (premiumBp balance supply : Nat) : Prop :=
  ∀ pendingNow < 2 ^ 63, 0 < pendingNow →
    capAtomic premiumBp pendingNow * satAdd supply pendingNow ≤
      min balance (capAtomic premiumBp (satAdd supply pendingNow)) * pendingNow

/-- One rate is at most another exactly if no amount in a range that reaches the first denominator
is worth more at it. -/
theorem forall_mul_div_le_iff {balance balance' denom denom' bound : Nat} (positive : 0 < denom)
    (positive' : 0 < denom') (inRange : denom < bound) :
    (∀ amount < bound, amount * balance / denom ≤ amount * balance' / denom') ↔
      balance * denom' ≤ balance' * denom := by
  constructor
  · intro never
    have whole := never denom inRange
    rw [Nat.mul_div_cancel_left _ positive, Nat.le_div_iff_mul_le positive'] at whole
    rwa [Nat.mul_comm denom] at whole
  · intro rates amount _
    rw [Nat.le_div_iff_mul_le positive']
    apply Nat.le_of_mul_le_mul_right _ positive
    calc amount * balance / denom * denom' * denom
        = amount * balance / denom * denom * denom' := Nat.mul_right_comm ..
      _ ≤ amount * balance * denom' := Nat.mul_le_mul_right _ (Nat.div_mul_le_self ..)
      _ = amount * (balance * denom') := Nat.mul_assoc ..
      _ ≤ amount * (balance' * denom) := Nat.mul_le_mul_left _ rates
      _ = amount * balance' * denom := (Nat.mul_assoc ..).symm

section Payouts

variable {premiumBp : Nat}

theorem capAtomic_le_mul (premiumBp denom : Nat) :
    capAtomic premiumBp denom ≤ denom * (premiumBp + 1) := by
  have product : satMul denom premiumBp / 10000 ≤ denom * premiumBp :=
    (Nat.div_le_self ..).trans (Nat.min_le_left ..)
  rw [Nat.mul_add, Nat.mul_one, Nat.add_comm]
  exact (Nat.min_le_left ..).trans (Nat.add_le_add_left product denom)

/-- For amounts of the store and a premium of the configuration nothing is too wide. -/
theorem proRata_of_small {balance denom amount : Nat} (bp : premiumBp < 2 ^ 32)
    (small : amount < 2 ^ 63) :
    proRata premiumBp balance denom amount =
      some (amount * min balance (capAtomic premiumBp denom) / denom) := by
  have capped : min balance (capAtomic premiumBp denom) ≤ u128Max :=
    (Nat.min_le_right ..).trans (Nat.min_le_right ..)
  have product : amount * min balance (capAtomic premiumBp denom) ≤ u256Max :=
    (Nat.mul_le_mul small.le capped).trans (by decide)
  have share : amount * min balance (capAtomic premiumBp denom) / denom ≤
      amount * (premiumBp + 1) := by
    apply Nat.div_le_of_le_mul
    calc amount * min balance (capAtomic premiumBp denom)
        ≤ amount * (denom * (premiumBp + 1)) :=
          Nat.mul_le_mul_left _ ((Nat.min_le_right ..).trans (capAtomic_le_mul ..))
      _ = denom * (amount * (premiumBp + 1)) := Nat.mul_left_comm ..
  have wide : amount * (premiumBp + 1) ≤ 2 ^ 63 * 2 ^ 32 := Nat.mul_le_mul small.le bp
  have fits := share.trans (wide.trans (by decide : 2 ^ 63 * 2 ^ 32 ≤ u128Max))
  simp only [proRata, Nat.min_eq_left product, if_pos fits]

theorem payoutAtomic_of_small {snap : TreasurySnapshot} {amount : Nat} (bp : premiumBp < 2 ^ 32)
    (small : amount < 2 ^ 63) (pendingNow : Nat) :
    payoutAtomic premiumBp snap pendingNow amount =
      amount * min snap.moneroBalanceAtomic (capAtomic premiumBp (snap.denom pendingNow)) /
        snap.denom pendingNow := by
  unfold payoutAtomic
  split
  · rename_i nothing
    rcases nothing with empty | unfunded
    · rw [empty, Nat.div_zero]
    · rw [unfunded, Nat.zero_min, Nat.mul_zero, Nat.zero_div]
  · rw [proRata_of_small bp small, Option.getD_some]

/-- **When a missing supply raises no payout**, there being a supply and a balance. -/
theorem neverRaises_iff {failed sound : TreasurySnapshot} (bp : premiumBp < 2 ^ 32)
    (missing : failed.miningPoolTokenTotalSupply = 0)
    (issued : 0 < sound.miningPoolTokenTotalSupply)
    (sameBalance : sound.moneroBalanceAtomic = failed.moneroBalanceAtomic)
    (funded : 0 < failed.moneroBalanceAtomic) :
    NeverRaises premiumBp failed sound ↔
      CapBinds premiumBp failed.moneroBalanceAtomic sound.miningPoolTokenTotalSupply := by
  have range : 2 ^ 63 < u128Max := by decide
  -- Without the supply the denominator is what is pending, and with it it is larger.
  have alone : ∀ pendingNow < 2 ^ 63, failed.denom pendingNow = pendingNow := by
    intro pendingNow small
    rw [TreasurySnapshot.denom, missing, satAdd]
    omega
  have larger : ∀ pendingNow < 2 ^ 63, pendingNow < sound.denom pendingNow := by
    intro pendingNow small
    rw [TreasurySnapshot.denom, satAdd]
    omega
  apply forall₂_congr
  intro pendingNow small
  have payouts : (∀ amount < 2 ^ 63, payoutAtomic premiumBp failed pendingNow amount ≤
        payoutAtomic premiumBp sound pendingNow amount) ↔
      ∀ amount < 2 ^ 63,
        amount * min failed.moneroBalanceAtomic (capAtomic premiumBp pendingNow) / pendingNow ≤
          amount * min failed.moneroBalanceAtomic
            (capAtomic premiumBp (sound.denom pendingNow)) / sound.denom pendingNow := by
    apply forall₂_congr
    intro amount amountSmall
    rw [payoutAtomic_of_small bp amountSmall, payoutAtomic_of_small bp amountSmall,
      alone pendingNow small, sameBalance]
  rw [payouts]
  cases Nat.eq_zero_or_pos pendingNow with
  | inl nothing =>
      subst nothing
      refine ⟨fun _ impossible => absurd impossible (Nat.lt_irrefl 0), fun _ amount _ => ?_⟩
      rw [Nat.div_zero]
      exact Nat.zero_le _
  | inr positive =>
      have more := larger pendingNow small
      rw [forall_mul_div_le_iff positive (Nat.zero_lt_of_lt more) small,
        imp_iff_right positive]
      constructor
      · intro rates
        -- A balance below the cap would be shared among fewer.
        have capped : capAtomic premiumBp pendingNow ≤ failed.moneroBalanceAtomic := by
          by_contra uncapped
          rw [Nat.min_eq_left (Nat.le_of_not_le uncapped)] at rates
          have fewer : failed.moneroBalanceAtomic * sound.denom pendingNow ≤
              failed.moneroBalanceAtomic * pendingNow :=
            rates.trans (Nat.mul_le_mul_right _ (Nat.min_le_left ..))
          exact absurd (Nat.le_of_mul_le_mul_left fewer funded) (Nat.not_le_of_lt more)
        rwa [Nat.min_eq_right capped] at rates
      · exact (Nat.mul_le_mul_right _ (Nat.min_le_right ..)).trans

/-- So large a balance covers the supply and all that can be pending. -/
theorem CapBinds.le_balance {balance supply : Nat} (binds : CapBinds premiumBp balance supply) :
    satAdd supply (2 ^ 63 - 1) ≤ balance := by
  have most := binds (2 ^ 63 - 1) (by decide) (by decide)
  have whole : (2 ^ 63 - 1) * satAdd supply (2 ^ 63 - 1) ≤ (2 ^ 63 - 1) * balance := by
    calc (2 ^ 63 - 1) * satAdd supply (2 ^ 63 - 1)
        ≤ capAtomic premiumBp (2 ^ 63 - 1) * satAdd supply (2 ^ 63 - 1) :=
          Nat.mul_le_mul_right _ (le_capAtomic premiumBp (by decide))
      _ ≤ balance * (2 ^ 63 - 1) := most.trans (Nat.mul_le_mul_right _ (Nat.min_le_left ..))
      _ = (2 ^ 63 - 1) * balance := Nat.mul_comm ..
  exact Nat.le_of_mul_le_mul_left whole (by decide)

theorem capBinds_zero_iff {balance supply : Nat} :
    CapBinds 0 balance supply ↔ satAdd supply (2 ^ 63 - 1) ≤ balance := by
  refine ⟨CapBinds.le_balance, ?_⟩
  intro covered pendingNow small _
  have range : 2 ^ 63 < u128Max := by decide
  have within : satAdd supply pendingNow ≤ satAdd supply (2 ^ 63 - 1) := by
    unfold satAdd
    omega
  have fits : satAdd supply pendingNow ≤ u128Max := Nat.min_le_right ..
  rw [capAtomic_zero (by omega), capAtomic_zero fits, Nat.min_eq_right (within.trans covered),
    Nat.mul_comm]

end Payouts

/-- Two observations of one moment, one without the supply. -/
theorem neverRaises_observed_iff {premiumBp balance unlocked : Nat} (bp : premiumBp < 2 ^ 32) :
    NeverRaises premiumBp (observed world readings balance unlocked 0)
        (observed world readings balance unlocked (supplyAtomic world)) ↔
      world.token.erc20.totalSupply = 0 ∨ balance = 0 ∨
        CapBinds premiumBp balance (supplyAtomic world) := by
  have supply : supplyAtomic world = 0 ↔ world.token.erc20.totalSupply = 0 := by
    have positive : u128Max ≠ 0 := by decide
    rw [supplyAtomic]
    omega
  rcases Nat.eq_zero_or_pos (supplyAtomic world) with unissued | issued
  · rw [unissued]
    exact ⟨fun _ => Or.inl (supply.1 unissued), fun _ _ _ _ _ => le_rfl⟩
  · rw [or_iff_right fun none => issued.ne' (supply.2 none)]
    rcases Nat.eq_zero_or_pos balance with empty | funded
    · refine ⟨fun _ => Or.inl empty, fun _ pendingNow _ amount _ => ?_⟩
      have nothing : payoutAtomic premiumBp (observed world readings balance unlocked 0)
          pendingNow amount = 0 := if_pos (Or.inr empty)
      rw [nothing]
      exact Nat.zero_le _
    · rw [or_iff_right funded.ne']
      exact neverRaises_iff bp rfl issued rfl funded

/-- **When failed reads raise no payout.** Whatever fails, if the tick stores a
snapshot then the same tick with every read answered stores one too; and the
first never promises more than the second exactly when the supply was read, or
there is no supply, or no balance, or the cap binds whatever is pending. That takes
a balance of the supply and all the store can hold, and without a premium no more. -/
theorem failed_reads_never_raise_iff (premiumBp : Nat) (bp : premiumBp < 2 ^ 32)
    {failed : TreasurySnapshot} (stored : tickAlone lua enclave world readings = some failed) :
    (∃ sound, tickAlone lua enclave world readings.healthy = some sound ∧
      (NeverRaises premiumBp failed sound ↔
        readings.supply.outcome = .ok ∨ world.token.erc20.totalSupply = 0 ∨
          failed.moneroBalanceAtomic = 0 ∨
          CapBinds premiumBp failed.moneroBalanceAtomic (supplyAtomic world))) ∧
    (CapBinds premiumBp failed.moneroBalanceAtomic (supplyAtomic world) →
      satAdd (supplyAtomic world) (2 ^ 63 - 1) ≤ failed.moneroBalanceAtomic) ∧
    (premiumBp = 0 →
      satAdd (supplyAtomic world) (2 ^ 63 - 1) ≤ failed.moneroBalanceAtomic →
      CapBinds premiumBp failed.moneroBalanceAtomic (supplyAtomic world)) := by
  refine ⟨?_, CapBinds.le_balance, ?_⟩
  · rw [tickAlone_eq] at stored
    obtain ⟨⟨balance, unlocked⟩, balances, stored⟩ := Option.bind_eq_some_iff.1 stored
    split at stored
    · obtain rfl := Option.some.inj stored
      refine ⟨observed world readings balance unlocked (supplyAtomic world), ?_, ?_⟩
      · rw [tickAlone_eq]
        simp only [Readings.healthy, balances, Option.bind_some, and_self, if_true]
        rfl
      · by_cases read : readings.supply.outcome = .ok
        · rw [if_pos read]
          exact ⟨fun _ => Or.inl read, fun _ _ _ _ _ => le_rfl⟩
        · rw [if_neg read, or_iff_right read]
          exact neverRaises_observed_iff world readings bp
    · cases stored
  · rintro rfl covered
    exact capBinds_zero_iff.2 covered

/-- Everything is answered but the supply; the wallet holds one XMR. -/
def supplyFails : Readings where
  refresh := {}
  balance := { balance := some (10 ^ 12, 10 ^ 12) }
  supply := { outcome := .refused }
  pendingAtomic := {}
  pendingCount := {}
  now := {}
  stored := {}

/-- `supply` base units are out, and one more token is being redeemed. -/
def oneRedeemed (supply : Nat) : World :=
  let token := Token.deployed 7 9 0
  let world := World.genesis { token with erc20 := { token.erc20 with totalSupply := supply } }
  { world with redis := { world.redis with pendingAtomic := some (10 ^ 12) } }

theorem failed_reads_never_raise_iff_unissued :
    ∃ failed sound, tickAlone sample.lua sample.enclave (oneRedeemed 0) supplyFails = some failed ∧
      tickAlone sample.lua sample.enclave (oneRedeemed 0) supplyFails.healthy = some sound ∧
      NeverRaises 0 failed sound := by
  have stored : tickAlone sample.lua sample.enclave (oneRedeemed 0) supplyFails =
      some (observed (oneRedeemed 0) supplyFails (10 ^ 12) (10 ^ 12) 0) := by decide
  obtain ⟨⟨sound, answered, iff⟩, _⟩ := failed_reads_never_raise_iff sample.lua sample.enclave
    (oneRedeemed 0) supplyFails 0 (by decide) stored
  exact ⟨_, sound, stored, answered, iff.2 (Or.inr (Or.inl rfl))⟩

/-- One token is out and one is redeemed: half the wallet each. With the supply read
failing the redeemer is promised all of it. -/
theorem supplyFails_raises :
    ∃ failed sound,
      tickAlone sample.lua sample.enclave (oneRedeemed (10 ^ 12)) supplyFails = some failed ∧
      tickAlone sample.lua sample.enclave (oneRedeemed (10 ^ 12)) supplyFails.healthy =
        some sound ∧
      payoutAtomic 0 sound (10 ^ 12) (10 ^ 12) = 5 * 10 ^ 11 ∧
      payoutAtomic 0 failed (10 ^ 12) (10 ^ 12) = 10 ^ 12 :=
  ⟨observed (oneRedeemed (10 ^ 12)) supplyFails (10 ^ 12) (10 ^ 12) 0,
    observed (oneRedeemed (10 ^ 12)) supplyFails (10 ^ 12) (10 ^ 12) (10 ^ 12),
    by decide, by decide, by decide, by decide⟩

end CrFaucet.Treasury
