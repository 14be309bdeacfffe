import Mathlib.Algebra.BigOperators.Group.Finset.Basic
import Mathlib.Algebra.GroupWithZero.Nat
import Mathlib.Algebra.Order.BigOperators.Group.Finset
import Mathlib.Data.Fintype.Basic

/-!
Owns the OpenZeppelin `ERC20` base the token is built on: balances, allowances,
the total supply, and the internal moves `_update`, `_mint`, `_burn`,
`_transfer`, `_approve` and `_spendAllowance`. A revert is `none`.

`unchecked` blocks wrap modulo `2 ^ 256`, as the compiler emits them. That they
never do wrap is a theorem here (`Backed`), not part of the model.

Does not own the public entry points, which need a caller; see
`Token.MiningPoolToken`.
-/

set_option autoImplicit false

namespace CrFaucet.Token

/-- An account. `0` is `address(0)`. -/
abbrev Address := Fin (2 ^ 160)

instance addressCount_neZero : NeZero (2 ^ 160) := ⟨Nat.ne_of_gt (Nat.two_pow_pos 160)⟩

/-- The modulus of `uint256`. -/
def uint256 : Nat := 2 ^ 256

/-- `require(condition, ..)`. -/
def require (condition : Prop) [Decidable condition] : Option Unit :=
  if condition then some () else none

@[simp] theorem require_eq_some {condition : Prop} [Decidable condition] {result : Unit} :
    require condition = some result ↔ condition := by
  unfold require
  split <;> simp_all

/-- `a += b` with the overflow check on. -/
def checkedAdd (a b : Nat) : Option Nat := do
  require (a + b < uint256)
  some (a + b)

/-- `a += b` inside `unchecked`. -/
def uncheckedAdd (a b : Nat) : Nat := (a + b) % uint256

/-- `a - b` inside `unchecked`. -/
def uncheckedSub (a b : Nat) : Nat := (a + uint256 - b) % uint256

/-- The storage of the `ERC20` base. -/
structure Erc20 where
  balances : Address → Nat
  allowances : Address → Address → Nat
  totalSupply : Nat

namespace Erc20

/-- The first half of `_update`: take `value` from the sender, or raise the
supply when `address(0)` mints. -/
def debit (token : Erc20) (sender : Address) (value : Nat) : Option Erc20 :=
  if sender = 0 then
    (checkedAdd token.totalSupply value).map fun supply => { token with totalSupply := supply }
  else if value ≤ token.balances sender then
    some { token with
      balances := Function.update token.balances sender (token.balances sender - value) }
  else none

/-- The second half of `_update`: give `value` to the receiver, or lower the
supply when it is `address(0)`. -/
def credit (token : Erc20) (receiver : Address) (value : Nat) : Erc20 :=
  if receiver = 0 then { token with totalSupply := uncheckedSub token.totalSupply value }
  else { token with
    balances := Function.update token.balances receiver
      (uncheckedAdd (token.balances receiver) value) }

/-- `_update`. -/
def update (token : Erc20) (sender receiver : Address) (value : Nat) : Option Erc20 :=
  (token.debit sender value).map fun debited => debited.credit receiver value

/-- `_transfer`. -/
def transfer (token : Erc20) (sender receiver : Address) (value : Nat) : Option Erc20 := do
  require (sender ≠ 0)
  require (receiver ≠ 0)
  token.update sender receiver value

/-- `_mint`. -/
def mint (token : Erc20) (account : Address) (value : Nat) : Option Erc20 := do
  require (account ≠ 0)
  token.update 0 account value

/-- `_burn`. -/
def burn (token : Erc20) (account : Address) (value : Nat) : Option Erc20 := do
  require (account ≠ 0)
  token.update account 0 value

/-- `_approve`. -/
def approve (token : Erc20) (owner spender : Address) (value : Nat) : Option Erc20 := do
  require (owner ≠ 0)
  require (spender ≠ 0)
  some { token with
    allowances := Function.update token.allowances owner
      (Function.update (token.allowances owner) spender value) }

/-- `_spendAllowance`: the largest allowance is never reduced. -/
def spendAllowance (token : Erc20) (owner spender : Address) (value : Nat) : Option Erc20 :=
  if token.allowances owner spender = uint256 - 1 then some token
  else do
    require (value ≤ token.allowances owner spender)
    token.approve owner spender (token.allowances owner spender - value)

/-- The balances add up to a supply that fits a `uint256`. -/
structure Backed (token : Erc20) : Prop where
  sum : ∑ account, token.balances account = token.totalSupply
  fits : token.totalSupply < uint256

end Erc20

theorem sum_add_eq_of_ne {Index Value : Type*} [Fintype Index] [DecidableEq Index]
    [AddCommMonoid Value] {first second : Index → Value} (index : Index)
    (same : ∀ other, other ≠ index → first other = second other) :
    ∑ other, first other + second index = ∑ other, second other + first index := by
  have rest : ∑ other ∈ Finset.univ.erase index, first other =
      ∑ other ∈ Finset.univ.erase index, second other :=
    Finset.sum_congr rfl fun other member => same other (Finset.ne_of_mem_erase member)
  rw [← Finset.add_sum_erase _ first (Finset.mem_univ index),
    ← Finset.add_sum_erase _ second (Finset.mem_univ index), rest]
  rw [add_right_comm, add_comm (first index), add_right_comm]

theorem sum_replace {Index : Type*} [Fintype Index] [DecidableEq Index] (values : Index → Nat)
    (index : Index) (value : Nat) :
    ∑ other, Function.update values index value other + values index =
      ∑ other, values other + value := by
  have moved := sum_add_eq_of_ne index fun other distinct =>
    Function.update_of_ne distinct value values
  rwa [Function.update_self] at moved

namespace Erc20

variable {token after : Erc20} {owner spender account sender receiver : Address} {value : Nat}

theorem Backed.balance_le (backed : token.Backed) (account : Address) :
    token.balances account ≤ token.totalSupply := by
  rw [← backed.sum]
  exact Finset.single_le_sum (fun _ _ => Nat.zero_le _) (Finset.mem_univ account)

/-! ### What each internal move does -/

theorem mint_eq (minted : token.mint account value = some after) :
    account ≠ 0 ∧ token.totalSupply + value < uint256 ∧
      after = { token with
        totalSupply := token.totalSupply + value
        balances := Function.update token.balances account
          (uncheckedAdd (token.balances account) value) } := by
  simp only [mint, update, debit, checkedAdd, Option.bind_eq_bind, Option.bind_eq_some_iff,
    Option.map_eq_some_iff, Option.some.injEq, require_eq_some, ↓reduceIte] at minted
  obtain ⟨_, nonzero, _, ⟨_, ⟨_, fits, rfl⟩, rfl⟩, rfl⟩ := minted
  exact ⟨nonzero, fits, by simp only [credit, nonzero, ↓reduceIte]⟩

theorem mint_succeeds (nonzero : account ≠ 0) (fits : token.totalSupply + value < uint256) :
    ∃ after, token.mint account value = some after := by
  simp [mint, update, debit, checkedAdd, require, nonzero, fits]

theorem burn_eq (burned : token.burn account value = some after) :
    account ≠ 0 ∧ value ≤ token.balances account ∧
      after = { token with
        totalSupply := uncheckedSub token.totalSupply value
        balances := Function.update token.balances account (token.balances account - value) } := by
  simp only [burn, update, Option.bind_eq_bind, Option.bind_eq_some_iff, Option.map_eq_some_iff,
    require_eq_some] at burned
  obtain ⟨_, nonzero, debited, debit, rfl⟩ := burned
  simp only [Erc20.debit, nonzero, ↓reduceIte, Option.ite_none_right_eq_some, Option.some.injEq]
    at debit
  obtain ⟨covered, rfl⟩ := debit
  exact ⟨nonzero, covered, by simp only [credit, ↓reduceIte]⟩

theorem transfer_eq (moved : token.transfer sender receiver value = some after) :
    value ≤ token.balances sender ∧
      after = { token with
        balances := Function.update
          (Function.update token.balances sender (token.balances sender - value)) receiver
          (uncheckedAdd (Function.update token.balances sender (token.balances sender - value)
            receiver) value) } := by
  simp only [transfer, update, Option.bind_eq_bind, Option.bind_eq_some_iff,
    Option.map_eq_some_iff, require_eq_some] at moved
  obtain ⟨_, senderNonzero, _, receiverNonzero, debited, debit, rfl⟩ := moved
  simp only [Erc20.debit, senderNonzero, ↓reduceIte, Option.ite_none_right_eq_some,
    Option.some.injEq] at debit
  obtain ⟨covered, rfl⟩ := debit
  exact ⟨covered, by simp only [credit, receiverNonzero, ↓reduceIte]⟩

theorem approve_frame (approved : token.approve owner spender value = some after) :
    after.balances = token.balances ∧ after.totalSupply = token.totalSupply := by
  simp only [approve, Option.bind_eq_bind, Option.bind_eq_some_iff, require_eq_some,
    Option.some.injEq] at approved
  obtain ⟨_, _, _, _, rfl⟩ := approved
  exact ⟨rfl, rfl⟩

theorem spendAllowance_frame (spent : token.spendAllowance owner spender value = some after) :
    after.balances = token.balances ∧ after.totalSupply = token.totalSupply := by
  unfold spendAllowance at spent
  split at spent
  · cases spent
    exact ⟨rfl, rfl⟩
  · simp only [Option.bind_eq_bind, Option.bind_eq_some_iff, require_eq_some] at spent
    obtain ⟨_, _, approved⟩ := spent
    exact approve_frame approved

theorem Backed.of_frame (backed : token.Backed)
    (frame : after.balances = token.balances ∧ after.totalSupply = token.totalSupply) :
    after.Backed := by
  obtain ⟨balances, supply⟩ := frame
  exact ⟨by rw [balances, supply]; exact backed.sum, by rw [supply]; exact backed.fits⟩

/-! ### No `unchecked` block ever wraps -/

theorem Backed.uncheckedAdd_eq (backed : token.Backed) (account : Address)
    (fits : token.totalSupply + value < uint256) :
    uncheckedAdd (token.balances account) value = token.balances account + value := by
  have small := backed.balance_le account
  exact Nat.mod_eq_of_lt (by omega)

theorem Backed.uncheckedSub_eq (backed : token.Backed) (covered : value ≤ token.totalSupply) :
    uncheckedSub token.totalSupply value = token.totalSupply - value := by
  have fits := backed.fits
  unfold uncheckedSub
  rw [show token.totalSupply + uint256 - value = (token.totalSupply - value) + uint256 by omega,
    Nat.add_mod_right]
  exact Nat.mod_eq_of_lt (by omega)

theorem Backed.mint (backed : token.Backed) (minted : token.mint account value = some after) :
    after.Backed ∧ after.totalSupply = token.totalSupply + value ∧
      after.balances account = token.balances account + value := by
  obtain ⟨_, fits, rfl⟩ := mint_eq minted
  have exact' := backed.uncheckedAdd_eq account fits
  refine ⟨⟨?_, fits⟩, rfl, by simp [exact']⟩
  have replaced := sum_replace token.balances account (token.balances account + value)
  rw [backed.sum] at replaced
  simp only [exact']
  omega

theorem Backed.burn (backed : token.Backed) (burned : token.burn account value = some after) :
    after.Backed ∧ after.totalSupply + value = token.totalSupply := by
  obtain ⟨_, covered, rfl⟩ := burn_eq burned
  have held := backed.balance_le account
  have exact' := backed.uncheckedSub_eq (covered.trans held)
  have fits := backed.fits
  have replaced := sum_replace token.balances account (token.balances account - value)
  rw [backed.sum] at replaced
  refine ⟨⟨?_, ?_⟩, ?_⟩ <;> simp only [exact'] <;> omega

theorem Backed.transfer (backed : token.Backed)
    (moved : token.transfer sender receiver value = some after) :
    after.Backed ∧ after.totalSupply = token.totalSupply := by
  obtain ⟨covered, rfl⟩ := transfer_eq moved
  set debited := Function.update token.balances sender (token.balances sender - value) with debit
  have held := backed.balance_le sender
  have fits := backed.fits
  have taken := sum_replace token.balances sender (token.balances sender - value)
  rw [backed.sum, ← debit] at taken
  -- The debited balances sum to `totalSupply - value`, so crediting cannot wrap.
  have small : debited receiver ≤ ∑ other, debited other :=
    Finset.single_le_sum (fun _ _ => Nat.zero_le _) (Finset.mem_univ receiver)
  have exact' : uncheckedAdd (debited receiver) value = debited receiver + value :=
    Nat.mod_eq_of_lt (by omega)
  have given := sum_replace debited receiver (debited receiver + value)
  refine ⟨⟨?_, fits⟩, rfl⟩
  simp only [exact']
  omega

end Erc20

end CrFaucet.Token
