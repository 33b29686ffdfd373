import ScadaCore.Base.Time
import ScadaCore.Data.MachineInt
import ScadaCore.Lts.System

/-!
# Base.RateLimiter — a token bucket

A rate limiter has a number of tokens. A request takes one, and is refused where there is
none; before that, tokens are added for the whole seconds since the request before. There
are never more than `maxBurst` of them.

All numbers are of type `int`. The tokens to be added are computed before they are limited,
and after a long pause they do not fit. And the clock is read anew at every request, also one
that is refused, so that what is short of a second is lost.
-/

namespace ScadaCore.Base

open Lts.System

def int : MachineInt := ⟨32, true⟩

/-- The result of an operation of type `int`, whose behaviour is undefined if it does not
fit. -/
def checkedInt (m : Int) : Option Int := if int.Holds m then some m else none

structure RateLimiter where
  maxRate : Int
  maxBurst : Int
  tokens : Int
  lastTime : Int
deriving DecidableEq, Repr

namespace RateLimiter

/-- `RateLimiter(int max_rate, int max_burst)`. -/
def ofBurst (maxRate maxBurst : Int) (now : Int) : RateLimiter :=
  { maxRate, maxBurst, tokens := maxBurst, lastTime := now }

def elapsedSec (l : RateLimiter) (now : Int) : Int :=
  int.cast ((now - l.lastTime).tdiv second)

/-- `Request`, at the time `now`; `none` is an overflow. -/
def request (l : RateLimiter) (now : Int) : Option (Bool × RateLimiter) := do
  let added ← checkedInt (l.elapsedSec now * l.maxRate)
  let tokens ← checkedInt (l.tokens + added)
  let tokens := if tokens > l.maxBurst then l.maxBurst else tokens
  if tokens = 0 then
    return (false, { l with tokens, lastTime := now })
  else
    let tokens ← checkedInt (tokens - 1)
    return (true, { l with tokens, lastTime := now })

/-! ## One request -/

variable {l l' : RateLimiter} {now m : Int} {b : Bool}

theorem holds_int_iff : int.Holds m ↔ -2147483648 ≤ m ∧ m < 2147483648 := Iff.rfl

theorem checkedInt_of_holds (h : int.Holds m) : checkedInt m = some m := if_pos h

theorem checkedInt_of_not_holds (h : ¬ int.Holds m) : checkedInt m = none := if_neg h

/-- The tokens that there are with those that are added, before they are limited. -/
def level (l : RateLimiter) (now : Int) : Int := l.tokens + l.elapsedSec now * l.maxRate

/-- There are no more tokens than there may be, and none are owed. -/
structure Filled (l : RateLimiter) : Prop where
  maxBurst : int.Holds l.maxBurst
  nonneg : 0 ≤ l.tokens
  le : l.tokens ≤ l.maxBurst

def found (l : RateLimiter) (now : Int) : Int :=
  if l.level now > l.maxBurst then l.maxBurst else l.level now

def take (l : RateLimiter) (now : Int) : Bool × RateLimiter :=
  (l.found now ≠ 0,
    { l with tokens := l.found now - (if l.found now = 0 then 0 else 1), lastTime := now })

theorem request_eq_take (h : l.Filled) (hlow : 0 ≤ l.level now) (hhigh : l.level now < 2147483648) :
    l.request now = some (l.take now) := by
  have hburst := holds_int_iff.mp h.maxBurst
  have hnonneg := h.nonneg
  have hle := h.le
  have hadded : int.Holds (l.elapsedSec now * l.maxRate) := by
    unfold level at hlow hhigh
    rw [holds_int_iff]
    omega
  have hsum : int.Holds (l.level now) := by
    rw [holds_int_iff]
    omega
  have hfound : int.Holds (l.found now - 1) := by
    rw [holds_int_iff, found]
    split_ifs <;> omega
  unfold request take
  rw [checkedInt_of_holds hadded]
  simp only [Option.bind_eq_bind, Option.bind_some]
  rw [← level, checkedInt_of_holds hsum, Option.bind_some, ← found, checkedInt_of_holds hfound]
  by_cases hzero : l.found now = 0 <;> simp [hzero]

theorem request_of_overflow (hhigh : 2147483648 ≤ l.level now) : l.request now = none := by
  have hsum : ¬ int.Holds (l.level now) := by
    rw [holds_int_iff]
    omega
  unfold request
  by_cases hadded : int.Holds (l.elapsedSec now * l.maxRate)
  · rw [checkedInt_of_holds hadded]
    simp only [Option.bind_eq_bind, Option.bind_some]
    rw [← level, checkedInt_of_not_holds hsum, Option.bind_none]
  · rw [checkedInt_of_not_holds hadded]
    rfl

theorem tokens_neg_of_request (h : l.Filled) (hlow : l.level now < 0)
    (hrequest : l.request now = some (b, l')) : l'.tokens < 0 := by
  have hburst : 0 ≤ l.maxBurst := Int.le_trans h.nonneg h.le
  have hfound : l.found now = l.level now := if_neg (by omega)
  unfold request at hrequest
  simp only [Option.bind_eq_bind, Option.bind_eq_some_iff, checkedInt,
    Option.ite_none_right_eq_some, Option.some_inj] at hrequest
  obtain ⟨_, ⟨_, rfl⟩, _, ⟨_, rfl⟩, hrest⟩ := hrequest
  rw [← level, ← found, hfound, if_neg (by omega)] at hrest
  simp only [Option.bind_eq_some_iff, Option.ite_none_right_eq_some, Option.some_inj,
    Option.pure_def, Prod.mk.injEq] at hrest
  obtain ⟨_, ⟨_, rfl⟩, -, rfl⟩ := hrest
  show l.level now - 1 < 0
  omega

theorem found_le (l : RateLimiter) (now : Int) :
    l.found now ≤ l.maxBurst ∧ l.found now ≤ l.level now := by
  unfold found
  split_ifs <;> omega

theorem take_tokens (l : RateLimiter) (now : Int) :
    (l.take now).2.tokens + ((l.take now).1.toNat : Int) = l.found now := by
  by_cases hzero : l.found now = 0 <;> simp [take, hzero]

theorem Filled.take (h : l.Filled) (hlow : 0 ≤ l.level now) : (l.take now).2.Filled := by
  have hnonneg := h.nonneg
  have hle := h.le
  have hfound := found_le l now
  refine ⟨h.maxBurst, ?_, ?_⟩
  · unfold RateLimiter.take found
    dsimp only
    split_ifs <;> omega
  · unfold RateLimiter.take
    dsimp only
    split_ifs <;> omega

theorem second_mul_elapsedSec_le (hnow : l.lastTime ≤ now) :
    second * l.elapsedSec now ≤ now - l.lastTime := by
  have hgap : 0 ≤ now - l.lastTime := by omega
  have hnonneg : 0 ≤ (now - l.lastTime).tdiv second := Int.tdiv_nonneg hgap (by decide)
  have hcast : l.elapsedSec now ≤ (now - l.lastTime).tdiv second :=
    MachineInt.cast_le (Int.le_trans (by decide) hnonneg)
  have hdiv := Int.mul_tdiv_self_le (k := second) hgap
  exact Int.le_trans (Int.mul_le_mul_of_nonneg_left hcast (by decide)) hdiv

/-! ## Requests over time -/

/-- A limiter, and when it has allowed a request. -/
structure Usage where
  limiter : RateLimiter
  allowed : List Int
deriving DecidableEq, Repr

/-- One request after the other; `none` is after an overflow. -/
def system (l : RateLimiter) : Lts.System (Option Usage) Int where
  init := some { limiter := l, allowed := [] }
  step s now := do
    let u ← s
    let (ok, limiter) ← u.limiter.request now
    return { limiter, allowed := if ok then u.allowed ++ [now] else u.allowed }

def Usage.allowedIn (u : Usage) (start : Int) (length : Int) : Nat :=
  u.allowed.countP fun time => start ≤ time ∧ time ≤ start + length

/-- The tokens are in their limits, and so are the requests in each window of time. -/
structure WithinBudget (u : Usage) : Prop where
  nonneg : 0 ≤ u.limiter.tokens
  le : u.limiter.tokens ≤ u.limiter.maxBurst
  window : ∀ start length, 0 ≤ length → second * u.allowedIn start length ≤
    second * u.limiter.maxBurst + u.limiter.maxRate * length

/-- In a window that is still open, the tokens count as well. -/
structure Balanced (u : Usage) (start : Int) (length : Int) : Prop where
  total : second * u.allowedIn start length ≤
    second * u.limiter.maxBurst + u.limiter.maxRate * length
  before : u.limiter.lastTime < start → u.allowedIn start length = 0
  inside : start ≤ u.limiter.lastTime → u.limiter.lastTime ≤ start + length →
    second * (u.limiter.tokens + u.allowedIn start length) ≤
      second * u.limiter.maxBurst + u.limiter.maxRate * (u.limiter.lastTime - start)

/-- What holds as long as nothing overflows. -/
structure Inv (u : Usage) : Prop where
  filled : u.limiter.Filled
  rate : 0 ≤ u.limiter.maxRate
  balanced : ∀ start length, 0 ≤ length → Balanced u start length

theorem Inv.withinBudget {u : Usage} (h : Inv u) : WithinBudget u where
  nonneg := h.filled.nonneg
  le := h.filled.le
  window start length hlength := (h.balanced start length hlength).total

theorem allowedIn_request (u : Usage) (l : RateLimiter) (ok : Bool) (now start : Int)
    (length : Int) :
    ({ limiter := l, allowed := if ok then u.allowed ++ [now] else u.allowed } : Usage).allowedIn
        start length =
      u.allowedIn start length +
        if start ≤ now ∧ now ≤ start + length then ok.toNat else 0 := by
  unfold Usage.allowedIn
  cases ok with
  | false => simp
  | true => simp [List.countP_append, List.countP_singleton]

def Usage.next (u : Usage) (now : Int) : Usage where
  limiter := (u.limiter.take now).2
  allowed := if (u.limiter.take now).1 then u.allowed ++ [now] else u.allowed

theorem Balanced.inside_next {u : Usage} {start length : Int} (h : Balanced u start length)
    (hrate : 0 ≤ u.limiter.maxRate) (hnow : u.limiter.lastTime ≤ now) (hstart : start ≤ now)
    (hend : now ≤ start + length) :
    second * ((u.limiter.take now).2.tokens + (u.next now).allowedIn start length) ≤
      second * u.limiter.maxBurst + u.limiter.maxRate * (now - start) := by
  have htokens := take_tokens u.limiter now
  have hfound := found_le u.limiter now
  have hcount : (u.next now).allowedIn start length =
      u.allowedIn start length + (u.limiter.take now).1.toNat := by
    refine (allowedIn_request u _ _ now start length).trans ?_
    rw [if_pos ⟨hstart, hend⟩]
  have hsum : (u.limiter.take now).2.tokens + ((u.next now).allowedIn start length : Int) =
      u.limiter.found now + u.allowedIn start length := by
    rw [hcount, ← htokens]
    omega
  rw [hsum]
  have hpassed : 0 ≤ u.limiter.maxRate * (now - start) := Int.mul_nonneg hrate (by omega)
  by_cases hbefore : u.limiter.lastTime < start
  · -- the first request in the window finds no more than a full bucket
    have hzero := h.before hbefore
    rw [hzero]
    unfold second
    omega
  · have hinside := h.inside (by omega) (by omega)
    have hsplit : u.limiter.maxRate * (now - start) =
        u.limiter.maxRate * (u.limiter.lastTime - start) +
          u.limiter.maxRate * (now - u.limiter.lastTime) := by
      rw [← Int.mul_add]
      congr 1
      omega
    have hadded : second * (u.limiter.elapsedSec now * u.limiter.maxRate) ≤
        u.limiter.maxRate * (now - u.limiter.lastTime) := by
      rw [← Int.mul_assoc, Int.mul_comm _ u.limiter.maxRate]
      exact Int.mul_le_mul_of_nonneg_left (second_mul_elapsedSec_le hnow) hrate
    have hlevel := hfound.2
    unfold level at hlevel
    unfold second at hinside hadded ⊢
    omega

theorem Balanced.next {u : Usage} {start length : Int} (h : Balanced u start length)
    (hfilled : u.limiter.Filled) (hrate : 0 ≤ u.limiter.maxRate)
    (hnow : u.limiter.lastTime ≤ now) (hlow : 0 ≤ u.limiter.level now) :
    Balanced (u.next now) start length := by
  have hnonneg : 0 ≤ (u.limiter.take now).2.tokens := (hfilled.take hlow).nonneg
  -- outside of the window nothing is counted
  have houtside : ¬ (start ≤ now ∧ now ≤ start + length) →
      (u.next now).allowedIn start length = u.allowedIn start length := by
    intro hout
    refine (allowedIn_request u _ _ now start length).trans ?_
    rw [if_neg hout, Nat.add_zero]
  constructor
  · show second * ((u.next now).allowedIn start length : Int) ≤
      second * u.limiter.maxBurst + u.limiter.maxRate * length
    by_cases hin : start ≤ now ∧ now ≤ start + length
    · have hinside := h.inside_next hrate hnow hin.1 hin.2
      have hle : u.limiter.maxRate * (now - start) ≤ u.limiter.maxRate * length :=
        Int.mul_le_mul_of_nonneg_left (by omega) hrate
      unfold second at hinside ⊢
      omega
    · rw [houtside hin]
      exact h.total
  · intro hbefore
    have hstart : now < start := hbefore
    rw [houtside (by omega)]
    exact h.before (by omega)
  · exact h.inside_next hrate hnow

theorem Inv.next {u : Usage} (h : Inv u) (hnow : u.limiter.lastTime ≤ now)
    (hlow : 0 ≤ u.limiter.level now) : Inv (u.next now) where
  filled := h.filled.take hlow
  rate := h.rate
  balanced start length hlength := (h.balanced start length hlength).next h.filled h.rate hnow hlow

theorem Inv.init {maxRate maxBurst : Int} (hrate : 0 ≤ maxRate) (hburst : 0 ≤ maxBurst)
    (hint : int.Holds maxBurst) (now : Int) :
    Inv { limiter := ofBurst maxRate maxBurst now, allowed := [] } where
  filled := ⟨hint, hburst, Int.le_refl _⟩
  rate := hrate
  balanced start length hlength := by
    have hwindow : 0 ≤ maxRate * length := Int.mul_nonneg hrate hlength
    constructor
    · show second * 0 ≤ second * maxBurst + maxRate * length
      unfold second
      omega
    · intro _
      rfl
    · intro hstart hend
      have hpassed : 0 ≤ maxRate * (now - start) := Int.mul_nonneg hrate (Int.sub_nonneg_of_le hstart)
      show second * (maxBurst + 0) ≤ second * maxBurst + maxRate * (now - start)
      unfold second
      omega

/-! ## The budget -/

variable (s : Option Usage)

def Later (now : Int) : Prop := ∀ u ∈ s, u.limiter.lastTime ≤ now

/-- The tokens with those to be added are a number that an `int` can hold, and not negative:
the pause has not been too long. -/
def Fits (now : Int) : Prop :=
  ∀ u ∈ s, 0 ≤ u.limiter.level now ∧ u.limiter.level now < 2147483648

theorem step_eq_next {u : Usage} (h : u.limiter.Filled) (hfits : Fits (some u) now) :
    (system l).step (some u) now = some (u.next now) := by
  obtain ⟨hlow, hhigh⟩ := hfits u rfl
  show (u.limiter.request now).bind _ = _
  rw [request_eq_take h hlow hhigh]
  rfl

theorem step_eq_some {u u' : Usage} (h : (system l).step (some u) now = some u') :
    ∃ ok, u.limiter.request now = some (ok, u'.limiter) := by
  replace h : (u.limiter.request now).bind _ = some u' := h
  obtain ⟨⟨ok, limiter⟩, hrequest, hu'⟩ := Option.bind_eq_some_iff.mp h
  cases hu'
  exact ⟨ok, hrequest⟩

/-- **The budget of a rate limiter.** Whenever requests come, the tokens stay in their limits,
nothing overflows and in every window of time no more requests are allowed than the burst and
the rate let through, exactly if at each request the tokens and those to be added make a number
that is not negative and fits into an `int`. -/
theorem rateLimiter_budget_iff (maxRate maxBurst start : Int) (hrate : 0 ≤ maxRate)
    (hburst : 0 ≤ maxBurst) (hint : int.Holds maxBurst) (times : List Int)
    (hlater : (system (ofBurst maxRate maxBurst start)).Meets Later times) :
    (system (ofBurst maxRate maxBurst start)).Always (fun s => ∃ u, s = some u ∧ WithinBudget u)
      times ↔
    (system (ofBurst maxRate maxBurst start)).Meets Fits times := by
  apply always_iff_meets_of _ (fun s => ∃ u, s = some u ∧ Inv u) _ Later
  · exact ⟨_, rfl, Inv.init hrate hburst hint start⟩
  · rintro s ⟨u, rfl, h⟩
    exact ⟨u, rfl, h.withinBudget⟩
  · rintro s now ⟨u, rfl, h⟩ hnow hfits
    rw [step_eq_next h.filled hfits]
    exact ⟨_, rfl, h.next (hnow u rfl) (hfits u rfl).1⟩
  · rintro s now ⟨u, rfl, h⟩ hnow hfits ⟨u', heq, hbudget⟩
    obtain ⟨ok, hrequest⟩ := step_eq_some heq
    apply hfits
    intro v hv
    obtain rfl := Option.mem_some_iff.mp hv
    constructor
    · by_contra hlow
      have hneg := tokens_neg_of_request h.filled (by omega) hrequest
      have hnonneg := hbudget.nonneg
      omega
    · by_contra hhigh
      rw [request_of_overflow (by omega)] at hrequest
      cases hrequest
  · exact hlater

instance (s : Option Usage) (now : Int) : Decidable (Later s now) :=
  inferInstanceAs (Decidable (∀ u ∈ s, _))

instance (s : Option Usage) (now : Int) : Decidable (Fits s now) :=
  inferInstanceAs (Decidable (∀ u ∈ s, _))

/-- A request a second, with one too many. -/
theorem rateLimiter_budget_kept :
    let S := system (ofBurst 1 2 0)
    let times := [0, 0, 0, second, second, 100 * second]
    S.Always (fun s => ∃ u, s = some u ∧ WithinBudget u) times ∧
      (S.run times).map Usage.allowed = some [0, 0, second, 100 * second] := by
  refine ⟨(rateLimiter_budget_iff 1 2 0 (by decide) (by decide) (by decide) _ ?_).mpr ?_,
    by decide⟩
  · rw [meets_iff_meetsFrom]
    decide
  · rw [meets_iff_meetsFrom]
    decide

/-- A thousand requests a second, and a pause of 30 days. -/
theorem rateLimiter_budget_broken :
    let S := system (ofBurst 1000 1000 0)
    let times := [2592000 * second]
    S.Meets Later times ∧ ¬ S.Meets Fits times ∧ S.run times = none := by
  refine ⟨?_, ?_, by decide⟩
  · rw [meets_iff_meetsFrom]
    decide
  · rw [meets_iff_meetsFrom]
    decide

/-! ## Patience -/

/-- The last request that was allowed is a second ago. -/
def Patient (u : Usage) (now : Int) : Prop := ∀ time ∈ u.allowed.getLast?, time + second ≤ now

instance (u : Usage) (now : Int) : Decidable (Patient u now) :=
  inferInstanceAs (Decidable (∀ time ∈ u.allowed.getLast?, _))

/-- The clock does not go back, and a pause brings no more tokens than an `int` can hold. -/
def Modest (now : Int) : Prop :=
  ∀ u ∈ s, u.limiter.lastTime ≤ now ∧
    u.limiter.maxRate * (now - u.limiter.lastTime).tdiv second < 2147483648

/-- Whoever has been patient is served. -/
def Served (now : Int) : Prop :=
  ∃ u, s = some u ∧ (Patient u now → ∃ limiter, u.limiter.request now = some (true, limiter))

/-- Whoever has been patient finds a token or has not asked for a second, and nothing
overflows. -/
def Ready (now : Int) : Prop :=
  ∀ u ∈ s, Patient u now →
    (0 < u.limiter.tokens ∨ second ≤ now - u.limiter.lastTime) ∧ u.limiter.level now < 2147483648

/-- What holds of a limiter that lets something through. -/
structure Open (u : Usage) : Prop where
  filled : u.limiter.Filled
  rate : 1 ≤ u.limiter.maxRate
  burst : 1 ≤ u.limiter.maxBurst
  last : ∀ time ∈ u.allowed.getLast?, time ≤ u.limiter.lastTime

theorem elapsedSec_eq (hrate : 1 ≤ l.maxRate) (hnow : l.lastTime ≤ now)
    (hmodest : l.maxRate * (now - l.lastTime).tdiv second < 2147483648) :
    l.elapsedSec now = (now - l.lastTime).tdiv second := by
  have hnonneg : 0 ≤ (now - l.lastTime).tdiv second := Int.tdiv_nonneg (by omega) (by decide)
  have hle : 1 * (now - l.lastTime).tdiv second ≤ l.maxRate * (now - l.lastTime).tdiv second :=
    Int.mul_le_mul_of_nonneg_right hrate hnonneg
  apply MachineInt.cast_of_holds
  rw [holds_int_iff]
  omega

theorem tdiv_second_pos_iff {gap : Int} (h : 0 ≤ gap) : 0 < gap.tdiv second ↔ second ≤ gap := by
  rw [Int.tdiv_eq_ediv_of_nonneg h]
  unfold second
  omega

variable {u : Usage} {s}

section

variable (h : Open u) (hmodest : Modest (some u) now)

include h hmodest

theorem Open.level_nonneg : 0 ≤ u.limiter.level now := by
  obtain ⟨hnow, hproduct⟩ := hmodest u rfl
  have hnonneg := h.filled.nonneg
  have hadded : 0 ≤ u.limiter.elapsedSec now * u.limiter.maxRate := by
    rw [elapsedSec_eq h.rate hnow hproduct]
    have hrate := h.rate
    exact Int.mul_nonneg (Int.tdiv_nonneg (by omega) (by decide)) (by omega)
  unfold level
  omega

theorem Open.level_pos_iff :
    0 < u.limiter.level now ↔
      0 < u.limiter.tokens ∨ second ≤ now - u.limiter.lastTime := by
  obtain ⟨hnow, hproduct⟩ := hmodest u rfl
  have hnonneg := h.filled.nonneg
  have hrate := h.rate
  have hgap : 0 ≤ (now - u.limiter.lastTime).tdiv second :=
    Int.tdiv_nonneg (by omega) (by decide)
  rw [← tdiv_second_pos_iff (by omega), level, elapsedSec_eq h.rate hnow hproduct]
  constructor
  · intro hpos
    by_contra hnone
    have hzero : (now - u.limiter.lastTime).tdiv second = 0 := by omega
    rw [hzero, Int.zero_mul] at hpos
    omega
  · rintro (htokens | hsecond)
    · have := Int.mul_nonneg hgap (show 0 ≤ u.limiter.maxRate by omega)
      omega
    · have := Int.mul_pos hsecond (show 0 < u.limiter.maxRate by omega)
      omega

theorem Open.request_iff :
    (∃ limiter, u.limiter.request now = some (true, limiter)) ↔
      (0 < u.limiter.tokens ∨ second ≤ now - u.limiter.lastTime) ∧
        u.limiter.level now < 2147483648 := by
  have hlow := h.level_nonneg hmodest
  rw [← h.level_pos_iff hmodest]
  by_cases hhigh : u.limiter.level now < 2147483648
  · rw [request_eq_take h.filled hlow hhigh]
    have hfound : u.limiter.found now = 0 ↔ u.limiter.level now = 0 := by
      have hburst := h.burst
      unfold found
      split_ifs <;> omega
    simp only [take, Option.some_inj, Prod.mk.injEq, exists_and_left, exists_eq', and_true,
      decide_eq_true_iff, ne_eq, hfound, hhigh]
    omega
  · rw [request_of_overflow (by omega)]
    simp [hhigh]

theorem Open.next : Open (u.next now) := by
  refine ⟨h.filled.take (h.level_nonneg hmodest), h.rate, h.burst, ?_⟩
  intro time htime
  show time ≤ now
  unfold Usage.next at htime
  split_ifs at htime
  · rw [List.getLast?_concat, Option.mem_some_iff] at htime
    exact Int.le_of_eq htime.symm
  · exact Int.le_trans (h.last time htime) (hmodest u rfl).1

theorem Open.level_lt_of_not_patient (hpatient : ¬ Patient u now) :
    u.limiter.level now < 2147483648 := by
  unfold Patient at hpatient
  push Not at hpatient
  obtain ⟨time, htime, hsoon⟩ := hpatient
  have hlast := h.last time htime
  obtain ⟨hnow, hproduct⟩ := hmodest u rfl
  have hgap : ¬ 0 < (now - u.limiter.lastTime).tdiv second := by
    rw [tdiv_second_pos_iff (by omega)]
    omega
  have hnonneg : 0 ≤ (now - u.limiter.lastTime).tdiv second :=
    Int.tdiv_nonneg (by omega) (by decide)
  have hzero : (now - u.limiter.lastTime).tdiv second = 0 := by omega
  have hle := h.filled.le
  have hburst := (holds_int_iff.mp h.filled.maxBurst).2
  rw [level, elapsedSec_eq h.rate hnow hproduct, hzero, Int.zero_mul]
  omega

end

theorem Ready.fits (hready : Ready (some u) now) (h : Open u) (hmodest : Modest (some u) now) :
    Fits (some u) now := by
  intro v hv
  obtain rfl := Option.mem_some_iff.mp hv
  refine ⟨h.level_nonneg hmodest, ?_⟩
  by_cases hpatient : Patient u now
  · exact (hready u rfl hpatient).2
  · exact h.level_lt_of_not_patient hmodest hpatient

/-- **The patience of a rate limiter.** Every request that comes at least a second after the
last one that was allowed is allowed, exactly if each of them finds a token that is left or
comes a second after the request before it, allowed or refused, and nothing overflows. -/
theorem rateLimiter_patience_iff (maxRate maxBurst start : Int) (hrate : 1 ≤ maxRate)
    (hburst : 1 ≤ maxBurst) (hint : int.Holds maxBurst) (times : List Int)
    (hmodest : (system (ofBurst maxRate maxBurst start)).Meets Modest times) :
    (system (ofBurst maxRate maxBurst start)).Meets Served times ↔
      (system (ofBurst maxRate maxBurst start)).Meets Ready times := by
  have hinit : Open { limiter := ofBurst maxRate maxBurst start, allowed := [] } :=
    ⟨⟨hint, by show 0 ≤ maxBurst; omega, Int.le_refl _⟩, hrate, hburst, by simp⟩
  apply meets_congr_of _ (fun s => ∃ u, s = some u ∧ Open u) ⟨_, rfl, hinit⟩ _ _ hmodest
  · rintro s now ⟨u, rfl, hopen⟩ hmod hready
    rw [step_eq_next hopen.filled (hready.fits hopen hmod)]
    exact ⟨_, rfl, hopen.next hmod⟩
  · rintro s now ⟨u, rfl, hopen⟩ hmod
    have hserved : Served (some u) now ↔
        (Patient u now → ∃ limiter, u.limiter.request now = some (true, limiter)) := by
      simp [Served]
    rw [hserved, hopen.request_iff hmod]
    simp [Ready]

instance (s : Option Usage) (now : Int) : Decidable (Modest s now) :=
  inferInstanceAs (Decidable (∀ u ∈ s, _))

instance (s : Option Usage) (now : Int) : Decidable (Ready s now) :=
  inferInstanceAs (Decidable (∀ u ∈ s, _))

/-- Asking every second. -/
theorem rateLimiter_patience_kept :
    (system (ofBurst 1 1 0)).Meets Served [0, second, 2 * second] := by
  refine (rateLimiter_patience_iff 1 1 0 (by decide) (by decide) (by decide) _ ?_).mpr ?_
  · rw [meets_iff_meetsFrom]
    decide
  · rw [meets_iff_meetsFrom]
    decide

/-- Asking every half of a second: after the first request none is allowed, not even the one
two and a half seconds later. -/
theorem rateLimiter_patience_lost :
    let S := system (ofBurst 1 1 0)
    let half := second.tdiv 2
    let times := [0, half, 2 * half, 3 * half, 4 * half, 5 * half]
    S.Meets Modest times ∧ (S.run times).map Usage.allowed = some [0] ∧ ¬ S.Meets Served times := by
  refine ⟨?_, by decide, ?_⟩
  · rw [meets_iff_meetsFrom]
    decide
  · intro hserved
    obtain ⟨u, hu, hallowed⟩ :=
      hserved [0, second.tdiv 2] (2 * second.tdiv 2) ⟨[_, _, _], rfl⟩
    have hwaiting : (system (ofBurst 1 1 0)).run [0, second.tdiv 2] =
        some ⟨⟨1, 1, 0, second.tdiv 2⟩, [0]⟩ := by decide
    obtain rfl := Option.some_inj.mp (hwaiting.symm.trans hu)
    have hrefused : RateLimiter.request ⟨1, 1, 0, second.tdiv 2⟩ (2 * second.tdiv 2) =
        some (false, ⟨1, 1, 0, 2 * second.tdiv 2⟩) := by decide
    obtain ⟨limiter, hlimiter⟩ := hallowed (by decide)
    cases hrefused.symm.trans hlimiter

end RateLimiter

end ScadaCore.Base
