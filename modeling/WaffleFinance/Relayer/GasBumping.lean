import Mathlib.Algebra.Order.Floor.Ring
import Mathlib.Data.Rat.Floor
import WaffleFinance.Lib.Machine
import WaffleFinance.Relayer.Ledgers

/-!
# Replacing a transaction at a higher gas price

The minimal increment is taken for a price, the cap may lie below the current price, and the bumps
are counted for a hash, while every replacement has a new one: along a chain nothing is refused.
-/

namespace WaffleFinance.Relayer

open Lib

/-- The double next to a number from one on, the even one of two. -/
def toDouble (x : ℚ) : ℚ :=
  let unit : ℚ := 2 ^ ⌊x⌋₊.log2 / 2 ^ 52
  let below := ⌊x / unit⌋
  let rest := x / unit - below
  if rest < 1 / 2 ∨ rest = 1 / 2 ∧ Even below then below * unit else (below + 1) * unit

-- A thousand times 1.005 is below 1005, a thousand times 1.15 is 1150.
example : toDouble (toDouble (201 / 200) * 1000) < 1005 ∧
    toDouble (toDouble (23 / 20) * 1000) = 1150 := by
  decide +kernel

/-- The percentage is the value of a double. -/
structure GasBumpingConfig where
  maxBumpAttempts : ℕ
  bumpPercentage : ℚ
  minBumpAmount : ℕ
  maxGasPrice : ℕ
  bumpBackoffMs : ℕ

namespace GasBumpingConfig

variable (c : GasBumpingConfig) (price : ℕ)

/-- The percentage in whole thousandths; the product is one of doubles. -/
def thousandths : ℕ := ⌊toDouble (c.bumpPercentage * 1000)⌋.toNat

def bumpAmount : ℕ := price * c.thousandths / 1000

def calculateBumpedGasPrice : ℕ :=
  let bumpedPrice := if c.minBumpAmount < c.bumpAmount price then c.bumpAmount price
    else c.minBumpAmount
  if c.maxGasPrice < bumpedPrice then c.maxGasPrice else bumpedPrice

/-- What is asked of a new price. -/
def Raises (new : ℕ) : Prop :=
  price + c.minBumpAmount ≤ new ∧ c.bumpPercentage * price ≤ new ∧ new ≤ c.maxGasPrice

/-- The cap leaves room for both increments, and so do the thousandths, unless the minimum is
enough. -/
def HasRoom : Prop :=
  price + c.minBumpAmount ≤ c.maxGasPrice ∧ c.bumpPercentage * price ≤ c.maxGasPrice ∧
    (price = 0 ∨ (price + c.minBumpAmount) * 1000 ≤ price * c.thousandths) ∧
    (c.bumpPercentage * price ≤ c.minBumpAmount ∨
      ⌈c.bumpPercentage * price⌉₊ * 1000 ≤ price * c.thousandths)

lemma le_bumpAmount {n : ℕ} : n ≤ c.bumpAmount price ↔ n * 1000 ≤ price * c.thousandths :=
  Nat.le_div_iff_mul_le (by decide)

lemma calculateBumpedGasPrice_eq : c.calculateBumpedGasPrice price =
    min c.maxGasPrice (max c.minBumpAmount (c.bumpAmount price)) := by
  unfold calculateBumpedGasPrice
  dsimp only
  split_ifs <;> omega

lemma raises_iff : c.Raises price (c.calculateBumpedGasPrice price) ↔ c.HasRoom price := by
  have hzero : price = 0 ↔ price + c.minBumpAmount ≤ c.minBumpAmount := by omega
  rw [calculateBumpedGasPrice_eq, Raises, HasRoom, hzero, ← le_bumpAmount, ← le_bumpAmount,
    Nat.ceil_le]
  push_cast
  simp only [le_min_iff, le_max_iff, min_le_left, and_true]
  tauto

end GasBumpingConfig

/-- What is stored for a hash; where nothing is, it is zero. -/
structure GasBumpingStrategy where
  bumpCount : Text → ℕ
  lastBumpTime : Text → ℕ

namespace GasBumpingStrategy

variable (c : GasBumpingConfig) (g : GasBumpingStrategy) (now : ℕ) (hash : Text)

def canBump : Bool :=
  g.bumpCount hash < c.maxBumpAttempts && g.lastBumpTime hash + c.bumpBackoffMs ≤ now

def recordBump : GasBumpingStrategy where
  bumpCount := Function.update g.bumpCount hash (g.bumpCount hash + 1)
  lastBumpTime := Function.update g.lastBumpTime hash now

def resetBump : GasBumpingStrategy where
  bumpCount := Function.update g.bumpCount hash 0
  lastBumpTime := Function.update g.lastBumpTime hash 0

def getBumpedGasPrice (price : ℕ) : Option ℕ :=
  if g.canBump c now hash then some (c.calculateBumpedGasPrice price) else none

/-- The new hash is only logged. -/
def recordSuccessfulBump (_newHash : Text) : GasBumpingStrategy := g.resetBump hash

lemma raises_of_getBumpedGasPrice {price p : ℕ}
    (h : g.getBumpedGasPrice c now hash price = some p) : c.Raises price p ↔ c.HasRoom price := by
  unfold getBumpedGasPrice at h
  split at h
  · cases h
    exact c.raises_iff price
  · cases h

end GasBumpingStrategy

/-- A transaction that is replaced, and how often it has been. -/
structure BumpChain where
  strategy : GasBumpingStrategy
  hash : Text
  price : ℕ
  granted : ℕ

/-- A call of the strategy, or a replacement if a price for it is granted. -/
inductive BumpCall where
  | recordBump (now : ℕ) (hash : Text)
  | resetBump (hash : Text)
  | replace (now : ℕ) (newHash : Text)

namespace BumpCall

def newHash? : BumpCall → Option Text
  | replace _ newHash => some newHash
  | _ => none

/-- Only the bumps that are granted are recorded for the hashes of a chain, and the clock is past
the backoff. -/
def Fits (c : GasBumpingConfig) (chain : List Text) : BumpCall → Prop
  | recordBump _ hash => hash ∉ chain
  | resetBump _ => True
  | replace now newHash => newHash ∈ chain ∧ c.bumpBackoffMs ≤ now

end BumpCall

namespace BumpChain

variable (c : GasBumpingConfig)

/-- A bump that is granted is recorded, and so is its success. -/
def exec (x : BumpCall) (b : BumpChain) : Except Unit BumpChain :=
  match x with
  | .recordBump now hash => .ok { b with strategy := b.strategy.recordBump now hash }
  | .resetBump hash => .ok { b with strategy := b.strategy.resetBump hash }
  | .replace now newHash =>
    match b.strategy.getBumpedGasPrice c now b.hash b.price with
    | none => .error ()
    | some price =>
      .ok ⟨(b.strategy.recordBump now b.hash).recordSuccessfulBump b.hash newHash, newHash, price,
        b.granted + 1⟩

def machine : Machine BumpChain BumpCall Unit := ⟨exec c⟩

/-- A chain that starts with a transaction, after the first `n` calls. -/
def after (g : GasBumpingStrategy) (hash : Text) (price : ℕ) (calls : List BumpCall) (n : ℕ) :
    BumpChain :=
  (machine c).stateAt ⟨g, hash, price, 0⟩ calls n

/-- The hashes of the replacements that are asked for. -/
def asked (calls : List BumpCall) : List Text := calls.filterMap BumpCall.newHash?

/-- The strategy knows nothing of the chain. -/
structure Unknown (chain : List Text) (b : BumpChain) : Prop where
  hash : b.hash ∈ chain
  bumpCount : ∀ h ∈ chain, b.strategy.bumpCount h = 0
  lastBumpTime : ∀ h ∈ chain, b.strategy.lastBumpTime h = 0

variable {c} {chain : List Text} {b : BumpChain} {x : BumpCall} {calls : List BumpCall}

lemma replace_eq {now : ℕ} {newHash : Text} : (machine c).step b (.replace now newHash) =
    if b.strategy.canBump c now b.hash then
      ⟨b.strategy.resetBump b.hash, newHash, c.calculateBumpedGasPrice b.price, b.granted + 1⟩
    else b := by
  by_cases hcan : b.strategy.canBump c now b.hash = true
  · simp [machine, Machine.step, exec, GasBumpingStrategy.getBumpedGasPrice, hcan,
      GasBumpingStrategy.recordSuccessfulBump, GasBumpingStrategy.recordBump,
      GasBumpingStrategy.resetBump]
  · simp [machine, Machine.step, exec, GasBumpingStrategy.getBumpedGasPrice, hcan]

lemma granted_step_le (b : BumpChain) (x : BumpCall) :
    ((machine c).step b x).granted ≤ b.granted + (asked [x]).length := by
  cases x with
  | replace now newHash =>
    rw [replace_eq]
    split
    · exact le_rfl
    · exact Nat.le_succ _
  | _ => exact le_rfl

lemma Unknown.reset (hb : Unknown chain b) {hash newHash : Text} {price granted : ℕ}
    (hnew : newHash ∈ chain) :
    Unknown chain ⟨b.strategy.resetBump hash, newHash, price, granted⟩ := by
  refine ⟨hnew, fun h hh => ?_, fun h hh => ?_⟩
  · by_cases heq : h = hash <;> simp [GasBumpingStrategy.resetBump, heq, hb.bumpCount h hh]
  · by_cases heq : h = hash <;> simp [GasBumpingStrategy.resetBump, heq, hb.lastBumpTime h hh]

/-- No replacement is refused, and afterwards the strategy does not know of it. -/
lemma Unknown.step (hb : Unknown chain b) (hx : x.Fits c chain) (hmax : 0 < c.maxBumpAttempts) :
    Unknown chain ((machine c).step b x) ∧
      ((machine c).step b x).granted = b.granted + (asked [x]).length := by
  cases x with
  | recordBump now hash =>
    have hne : ∀ h ∈ chain, h ≠ hash := fun h hh => ne_of_mem_of_not_mem hh hx
    refine ⟨⟨hb.hash, fun h hh => ?_, fun h hh => ?_⟩, rfl⟩
    · exact (Function.update_of_ne (hne h hh) _ _).trans (hb.bumpCount h hh)
    · exact (Function.update_of_ne (hne h hh) _ _).trans (hb.lastBumpTime h hh)
  | resetBump hash => exact ⟨hb.reset hb.hash, rfl⟩
  | replace now newHash =>
    have hcan : b.strategy.canBump c now b.hash = true := by
      simp [GasBumpingStrategy.canBump, hb.bumpCount _ hb.hash, hb.lastBumpTime _ hb.hash, hmax,
        hx.2]
    rw [replace_eq, if_pos hcan]
    exact ⟨hb.reset hx.1, rfl⟩

lemma asked_cons (x : BumpCall) (calls : List BumpCall) :
    (asked (x :: calls)).length = (asked [x]).length + (asked calls).length := by
  rw [← List.length_append, asked, asked, asked, ← List.filterMap_append, List.singleton_append]

lemma granted_run_le (b : BumpChain) (calls : List BumpCall) :
    ((machine c).run b calls).granted ≤ b.granted + (asked calls).length := by
  induction calls generalizing b with
  | nil => exact le_rfl
  | cons x calls ih =>
    have hstep := granted_step_le (c := c) b x
    have hrun := ih ((machine c).step b x)
    rw [asked_cons]
    exact hrun.trans (by omega)

lemma Unknown.granted_run (hb : Unknown chain b) (hmax : 0 < c.maxBumpAttempts)
    (hcalls : ∀ x ∈ calls, x.Fits c chain) :
    ((machine c).run b calls).granted = b.granted + (asked calls).length := by
  induction calls generalizing b with
  | nil => rfl
  | cons x calls ih =>
    obtain ⟨hunknown, hgranted⟩ := hb.step (hcalls x (by simp)) hmax
    have hrun := ih hunknown fun y hy => hcalls y (by simp [hy])
    rw [asked_cons, ← Nat.add_assoc, ← hgranted]
    exact hrun

end BumpChain

open BumpChain

/-- A price that is granted raises the current one as it should exactly where there is room.  Over a
chain the bound holds if no more replacements are asked for, and if nothing else is recorded for its
hashes, only then: all of them are granted. -/
theorem gas_bump_progress (c : GasBumpingConfig) (g : GasBumpingStrategy) (hash : Text)
    (price : ℕ) (calls : List BumpCall) :
    (∀ now p, g.getBumpedGasPrice c now hash price = some p →
      (c.Raises price p ↔ c.HasRoom price)) ∧
    ∀ n, let granted := (after c g hash price calls n).granted
      let replacements := (asked (calls.take n)).length
      (replacements ≤ c.maxBumpAttempts → granted ≤ c.maxBumpAttempts) ∧
        ∀ chain, Unknown chain ⟨g, hash, price, 0⟩ → (∀ x ∈ calls, x.Fits c chain) →
          0 < c.maxBumpAttempts →
          (granted ≤ c.maxBumpAttempts ↔ replacements ≤ c.maxBumpAttempts) := by
  refine ⟨fun now p hp => g.raises_of_getBumpedGasPrice c now hash hp, fun n => ⟨?_, ?_⟩⟩
  · have hle := granted_run_le (c := c) ⟨g, hash, price, 0⟩ (calls.take n)
    rw [Nat.zero_add] at hle
    exact hle.trans
  · intro chain hunknown hcalls hmax
    have htaken : ∀ x ∈ calls.take n, x.Fits c chain :=
      fun x hx => hcalls x (List.mem_of_mem_take hx)
    have hall := hunknown.granted_run hmax htaken
    rw [Nat.zero_add] at hall
    rw [after, Machine.stateAt, hall]

/-- One bump is allowed and two are granted; a low price is raised by less than the minimum, and a
high one is lowered. -/
theorem gas_bump_exceeds :
    let c : GasBumpingConfig := ⟨1, toDouble (11 / 10), 10 ^ 9, 10 ^ 11, 5000⟩
    (after c ⟨fun _ => 0, fun _ => 0⟩ ['a'] (3 * 10 ^ 10)
        [.replace 10000 ['b'], .replace 20000 ['c']] 2).granted = 2 ∧
      c.calculateBumpedGasPrice (10 ^ 8) = 10 ^ 9 ∧
      c.calculateBumpedGasPrice (12 * 10 ^ 10) = 10 ^ 11 := by
  decide +kernel

end WaffleFinance.Relayer
