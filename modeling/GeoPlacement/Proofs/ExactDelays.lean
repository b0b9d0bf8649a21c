import GeoPlacement.Proofs.Retries
import GeoPlacement.Proofs.Versions
import Mathlib.Algebra.Group.Nat.Defs

/-!
# Exact delays

A resource that fails again and again should wait for the base of the delays, doubled with each
failure, up to the maximum. This module says for which settings the delays are **exactly** that.

The numbers in a running operator are limited: a count of failures and the factor of a delay have 32
bits, a span of time has 64 bits of seconds and stops at the longest one when it is multiplied.
`BackoffWords` and `WordBackoff` are the settings and the backoff in such numbers. Of all these
limits only two ever show: a factor of 32 bits, where the maximum does not cut the delay, and the
time for which an idle count may be kept.

## Main results

* `BackoffSettings.isAccepted_iff`: the settings that an environment may hold are those in words.
* `WordBackoff.refines_run`: along every run the backoff in words is that in natural numbers.
* `Backoff.failures_run`: after every run that fails a resource `j` times in a row it has `j`
  failures.
* `BackoffSettings.isExact_iff`: the settings with exact delays.
-/

namespace GeoPlacement

/-! ### The settings that are accepted -/

/-- A count that was read is below the bound. -/
theorem lt_of_readCount? {bound n : Nat} {text : String} (h : readCount? bound text = some n) :
    n < bound := by
  rw [readCount?] at h
  split at h
  · cases h
  · split at h
    · next hlt =>
      obtain rfl := Option.some.inj h
      exact hlt
    · cases h
  · cases h

namespace Settings

variable {env : Table String String} {name : String} {bits default n : Nat}

/-- A variable holds a number of its range, as its default does. -/
theorem lt_of_number (h : number env name bits default = .ok n) (hdefault : default < 1 <<< bits) :
    n < 1 <<< bits := by
  rw [number] at h
  split at h
  · obtain rfl := Except.ok.inj h
    exact hdefault
  · split at h
    · next hread =>
      obtain rfl := Except.ok.inj h
      exact lt_of_readCount? hread
    · cases h

/-- A variable that is not set has its default. -/
theorem number_of_unset (h : env.get? (variableStem ++ name) = none) :
    number env name bits default = .ok default := by
  simp only [number, h]

/-- A variable may hold every number of its range. -/
theorem number_of_set (h : env.get? (variableStem ++ name) = some (toString n))
    (hn : n < 1 <<< bits) : number env name bits default = .ok n := by
  simp only [number, h, readCount?_toString hn]

/-- The settings of the retries were read from variables of their own. -/
theorem numbers_of_read {settings : Settings} (h : read env = .ok settings) :
    number env "RETRY_LIMIT" 32 5 = .ok settings.backoff.retryLimit ∧
      number env "BACKOFF_BASE_MILLIS" 64 500 = .ok settings.backoff.baseMillis ∧
      number env "BACKOFF_MAX_SECONDS" 64 300 = .ok settings.backoff.maxSeconds := by
  simp only [read, bind, Except.bind] at h
  repeat' split at h
  all_goals cases h
  exact ⟨by assumption, by assumption, by assumption⟩

end Settings

/-- The settings of the retries in limited numbers. -/
structure BackoffWords where
  retryLimit : UInt32
  baseMillis : UInt64
  maxSeconds : UInt64

/-- The settings that the words stand for. -/
def BackoffWords.settings (words : BackoffWords) : BackoffSettings where
  retryLimit := words.retryLimit.toNat
  baseMillis := words.baseMillis.toNat
  maxSeconds := words.maxSeconds.toNat

namespace BackoffSettings

/-- Whether some environment sets the retries up in this way. -/
def IsAccepted (s : BackoffSettings) : Prop :=
  ∃ env settings, Settings.read env = .ok settings ∧ settings.backoff = s

/-- An environment that sets the retries up and leaves all else as it is. -/
def environment (s : BackoffSettings) : Table String String :=
  ((Table.empty.insert (Settings.variableStem ++ "RETRY_LIMIT") (toString s.retryLimit)).insert
    (Settings.variableStem ++ "BACKOFF_BASE_MILLIS") (toString s.baseMillis)).insert
    (Settings.variableStem ++ "BACKOFF_MAX_SECONDS") (toString s.maxSeconds)

/-- The variables that give the settings, by their names. -/
theorem get?_environment (s : BackoffSettings) (name : String) :
    s.environment.get? (Settings.variableStem ++ name) =
      if name = "BACKOFF_MAX_SECONDS" then some (toString s.maxSeconds)
      else if name = "BACKOFF_BASE_MILLIS" then some (toString s.baseMillis)
      else if name = "RETRY_LIMIT" then some (toString s.retryLimit)
      else none := by
  simp only [environment, Table.get?_insert, Table.get?_empty, String.append_right_inj, eq_comm]

/-- The environment of settings in words is read as these settings. -/
theorem read_environment (words : BackoffWords) :
    Settings.read words.settings.environment = .ok { backoff := words.settings } := by
  have hunset : ∀ name ∈ ["THREADINESS", "DEBOUNCE_SECONDS", "RESYNC_SECONDS",
      "CACHE_SYNC_TIMEOUT_SECONDS"],
      words.settings.environment.get? (Settings.variableStem ++ name) = none := by
    intro name hname
    rw [get?_environment]
    simp only [List.mem_cons, List.not_mem_nil, or_false] at hname
    rcases hname with rfl | rfl | rfl | rfl <;> simp
  rw [Settings.read, Settings.number_of_unset (hunset _ (by simp)),
    Settings.number_of_unset (hunset _ (by simp)), Settings.number_of_unset (hunset _ (by simp)),
    Settings.number_of_unset (hunset _ (by simp)),
    Settings.number_of_set (get?_environment _ "RETRY_LIMIT") words.retryLimit.toNat_lt,
    Settings.number_of_set (get?_environment _ "BACKOFF_BASE_MILLIS") words.baseMillis.toNat_lt,
    Settings.number_of_set (get?_environment _ "BACKOFF_MAX_SECONDS") words.maxSeconds.toNat_lt]
  rfl

/-- **The settings that are accepted** are those in words. -/
theorem isAccepted_iff {s : BackoffSettings} :
    s.IsAccepted ↔ ∃ words : BackoffWords, words.settings = s := by
  constructor
  · rintro ⟨env, settings, hread, rfl⟩
    obtain ⟨hlimit, hbase, hmax⟩ := Settings.numbers_of_read hread
    refine ⟨⟨.ofNat settings.backoff.retryLimit, .ofNat settings.backoff.baseMillis,
      .ofNat settings.backoff.maxSeconds⟩, ?_⟩
    rw [BackoffWords.settings,
      UInt32.toNat_ofNat_of_lt' (Settings.lt_of_number hlimit (by decide)),
      UInt64.toNat_ofNat_of_lt' (Settings.lt_of_number hbase (by decide)),
      UInt64.toNat_ofNat_of_lt' (Settings.lt_of_number hmax (by decide))]
  · rintro ⟨words, rfl⟩
    exact ⟨_, _, read_environment words, rfl⟩

end BackoffSettings

/-! ### Failures in a row -/

/-- What changes the count of a resource. -/
inductive BackoffStep
  /-- A pass failed. -/
  | failure (key : ObjectRef)
  /-- A pass succeeded. -/
  | success (key : ObjectRef)
deriving DecidableEq

/-- The resource of a step. -/
def BackoffStep.key : BackoffStep → ObjectRef
  | failure key => key
  | success key => key

namespace Backoff

/-- What a step makes of the counts. -/
def step (b : Backoff) : BackoffStep → Backoff
  | .failure key => (b.next key).2
  | .success key => b.reset key

/-- What a run of steps makes of the counts. -/
def run (b : Backoff) (steps : List BackoffStep) : Backoff :=
  steps.foldl step b

variable {b b' : Backoff} {key : ObjectRef}

/-- A step does not change the settings. -/
theorem settings_step (b : Backoff) (step : BackoffStep) :
    (b.step step).retryLimit = b.retryLimit ∧ (b.step step).delay = b.delay := by
  cases step with
  | failure key => exact b.settings_next key
  | success key => exact ⟨rfl, rfl⟩

/-- Nor does a run. -/
theorem settings_run (b : Backoff) (steps : List BackoffStep) :
    (b.run steps).retryLimit = b.retryLimit ∧ (b.run steps).delay = b.delay := by
  induction steps generalizing b with
  | nil => exact ⟨rfl, rfl⟩
  | cons step steps ih =>
      obtain ⟨hlimit, hdelay⟩ := ih (b.step step)
      obtain ⟨hlimit', hdelay'⟩ := b.settings_step step
      exact ⟨hlimit.trans hlimit', hdelay.trans hdelay'⟩

/-- A step counts for its own resource only. -/
theorem failures_step_of_ne {step : BackoffStep} (h : step.key ≠ key) :
    (b.step step).failures key = b.failures key := by
  cases step with
  | failure other => exact (b.failures_next other key).trans (if_neg h)
  | success other => exact (b.failures_reset other key).trans (if_neg h)

/-- **Failures in a row**: however the steps of other resources stand between them, `j` failures of
a resource that has none before count as `j`, up to the limit. -/
theorem failures_run {steps : List BackoffStep} {i j : Nat}
    (hsteps : steps.filter (·.key = key) = List.replicate j (.failure key))
    (hstart : b.failures key = i) (hlimit : i + j ≤ b.retryLimit) :
    (b.run steps).failures key = i + j := by
  induction steps generalizing b i j with
  | nil =>
      obtain rfl : j = 0 := by simpa using hsteps.symm
      exact hstart
  | cons step steps ih =>
      obtain ⟨hsettings, -⟩ := b.settings_step step
      by_cases hkey : step.key = key
      · rw [List.filter_cons_of_pos (by simpa using hkey)] at hsteps
        obtain ⟨j, rfl⟩ : ∃ j', j = j' + 1 := by
          cases j with
          | zero => cases hsteps
          | succ j => exact ⟨j, rfl⟩
        obtain ⟨rfl, hrest⟩ := List.cons.inj hsteps
        have hcount : (b.step (.failure key)).failures key = i + 1 := by
          rw [step, failures_next, if_pos rfl, hstart, if_neg (by omega)]
        rw [run, List.foldl_cons, ← run, ih hrest hcount (by omega)]
        omega
      · rw [List.filter_cons_of_neg (by simpa using hkey)] at hsteps
        exact ih hsteps ((failures_step_of_ne hkey).trans hstart) (by omega)

end Backoff

/-! ### Limited numbers -/

/-- The longest span of time in nanoseconds: the whole seconds have 64 bits. -/
def longestSpan : Nat := 2 ^ 64 * 10 ^ 9 - 1

/-- A span of time in nanoseconds. -/
structure Span where
  nanos : Nat
  nanos_le : nanos ≤ longestSpan

namespace Span

/-- A span of whole seconds. -/
def ofSeconds (seconds : UInt64) : Span where
  nanos := seconds.toNat * 10 ^ 9
  nanos_le := by
    have := seconds.toNat_lt
    rw [longestSpan]
    omega

/-- A span of whole milliseconds. -/
def ofMillis (millis : UInt64) : Span where
  nanos := millis.toNat * 10 ^ 6
  nanos_le := by
    have := millis.toNat_lt
    rw [longestSpan]
    omega

/-- A span so many times, which stops at the longest one. -/
def times (s : Span) (factor : UInt32) : Span where
  nanos := min (s.nanos * factor.toNat) longestSpan
  nanos_le := Nat.min_le_right ..

/-- The shorter of two spans. -/
def shorter (s t : Span) : Span :=
  if t.nanos < s.nanos then t else s

/-- The longer of two spans. -/
def longer (s t : Span) : Span :=
  if s.nanos < t.nanos then t else s

/-- The shorter one of two spans has the smaller number of nanoseconds. -/
theorem nanos_shorter (s t : Span) : (s.shorter t).nanos = min s.nanos t.nanos := by
  rw [shorter]
  split <;> omega

theorem nanos_longer (s t : Span) : (s.longer t).nanos = max s.nanos t.nanos := by
  rw [longer]
  split <;> omega

/-- Where a product is cut at another span anyway, it does not show that it stops at the longest. -/
theorem nanos_times_shorter (s t : Span) (factor : UInt32) :
    ((s.times factor).shorter t).nanos = min (s.nanos * factor.toNat) t.nanos := by
  have := t.nanos_le
  rw [nanos_shorter, times, Nat.min_assoc, Nat.min_eq_right this]

end Span

/-- A power of two, if it has 32 bits. -/
def powerOfTwo? (exponent : UInt32) : Option UInt32 :=
  if 2 ^ exponent.toNat < UInt32.size then some (.ofNat (2 ^ exponent.toNat)) else none

/-- A backoff in limited numbers. -/
structure WordBackoff where
  attempts : Table ObjectRef UInt32 := .empty
  retryLimit : UInt32
  base : Span
  max : Span

namespace WordBackoff

/-- Sets up the counts, unless an idle count would have to be kept for too long. -/
def ofWords? (words : BackoffWords) : Option WordBackoff :=
  let max := Span.ofSeconds words.maxSeconds
  let idle := (max.times 2).longer (.ofSeconds 60)
  if idle.nanos ≤ Backoff.maxIdleSeconds * 10 ^ 9 then
    some { retryLimit := words.retryLimit, base := .ofMillis words.baseMillis, max }
  else
    none

/-- The factor of the delay after so many failures, the largest number if 32 bits are too few. -/
def factor (attempt : UInt32) : UInt32 :=
  (powerOfTwo? attempt).getD (-1)

/-- The number of failures in a row of a resource. -/
def failures (w : WordBackoff) (key : ObjectRef) : UInt32 :=
  (w.attempts.get? key).getD 0

/-- Forgets the failures of a resource. -/
def reset (w : WordBackoff) (key : ObjectRef) : WordBackoff :=
  { w with attempts := w.attempts.erase key }

/-- Counts a failure: the delay before the next try, `none` once the limit is spent. The sum of a
count and one wraps around. -/
def next (w : WordBackoff) (key : ObjectRef) : Option Span × WordBackoff :=
  let attempt := w.failures key
  if w.retryLimit ≤ attempt then
    (none, w.reset key)
  else
    (some ((w.base.times (factor attempt)).shorter w.max),
      { w with attempts := w.attempts.insert key (attempt + 1) })

/-- What a step makes of the counts. -/
def step (w : WordBackoff) : BackoffStep → WordBackoff
  | .failure key => (w.next key).2
  | .success key => w.reset key

/-- What a run of steps makes of the counts. -/
def run (w : WordBackoff) (steps : List BackoffStep) : WordBackoff :=
  steps.foldl step w

/-- The factors are those of natural numbers. -/
theorem toNat_factor (attempt : UInt32) :
    (factor attempt).toNat = Backoff.factor attempt.toNat := by
  have hfits : 2 ^ attempt.toNat < UInt32.size ↔ attempt.toNat < 32 :=
    Nat.pow_lt_pow_iff_right (m := 32) (by decide)
  rw [factor, powerOfTwo?, Backoff.factor]
  by_cases h : attempt.toNat < 32
  · rw [if_pos (hfits.mpr h), if_pos h, Option.getD_some, Nat.one_shiftLeft]
    exact UInt32.toNat_ofNat_of_lt' (hfits.mpr h)
  · rw [if_neg (mt hfits.mp h), if_neg h]
    rfl

/-- **A backoff in words stands for one in natural numbers** with the same settings and counts. -/
structure Refines (w : WordBackoff) (b : Backoff) : Prop where
  retryLimit : w.retryLimit.toNat = b.retryLimit
  base : w.base.nanos = b.base * 10 ^ 6
  max : w.max.nanos = b.max * 10 ^ 6
  failures : ∀ key, (w.failures key).toNat = b.failures key

/-- An idle count may be kept for a product that stops at the longest span iff it may be for the
exact one. -/
theorem idle_le_iff (words : BackoffWords) :
    (((Span.ofSeconds words.maxSeconds).times 2).longer (.ofSeconds 60)).nanos ≤
      Backoff.maxIdleSeconds * 10 ^ 9 ↔
        2 * words.settings.maxSeconds ≤ Backoff.maxIdleSeconds := by
  have htwice : ((Span.ofSeconds words.maxSeconds).times 2).nanos =
      min (words.settings.maxSeconds * 10 ^ 9 * 2) longestSpan := rfl
  have hminute : (Span.ofSeconds 60).nanos = 60 * 10 ^ 9 := rfl
  rw [Span.nanos_longer, htwice, hminute, longestSpan, Backoff.maxIdleSeconds]
  omega

/-- **It is set up** iff the other one is, and then stands for it. -/
theorem refines_ofWords? (words : BackoffWords) :
    Option.Rel Refines (ofWords? words) (Backoff.ofSettings? words.settings) := by
  have hidle := idle_le_iff words
  rw [ofWords?, Backoff.ofSettings?]
  by_cases h : 2 * words.settings.maxSeconds ≤ Backoff.maxIdleSeconds
  · rw [if_pos (hidle.mpr h), if_pos h]
    refine .some ⟨rfl, rfl, ?_, fun key => rfl⟩
    change words.maxSeconds.toNat * 10 ^ 9 = words.maxSeconds.toNat * 1000 * 10 ^ 6
    omega
  · rw [if_neg (mt hidle.mp h), if_neg h]
    exact .none

section Steps

variable {w : WordBackoff} {b : Backoff}

/-- Forgetting the failures of a resource is the same in words and in natural numbers. -/
theorem Refines.reset (h : w.Refines b) (key : ObjectRef) :
    (w.reset key).Refines (b.reset key) where
  retryLimit := h.retryLimit
  base := h.base
  max := h.max
  failures query := by
    rw [Backoff.failures_reset, ← h.failures, WordBackoff.failures, WordBackoff.reset,
      Table.get?_erase]
    split <;> rfl

/-- The delay in words is that in natural numbers: neither its factor nor the product is cut in
another way. -/
theorem Refines.nanos_delay (h : w.Refines b) (key : ObjectRef) :
    ((w.base.times (factor (w.failures key))).shorter w.max).nanos =
      b.delay (b.failures key) * 10 ^ 6 := by
  rw [Span.nanos_times_shorter, toNat_factor, h.base, h.max, h.failures, Backoff.delay,
    Nat.mul_right_comm, Nat.mul_min_mul_right]

/-- **A failure is answered in words as in natural numbers**: the delay is the same, and the count
does not wrap around. It is below the limit, which is itself a word. -/
theorem Refines.next (h : w.Refines b) (key : ObjectRef) :
    (w.next key).1.map Span.nanos = (b.next key).1.map (· * 10 ^ 6) ∧
      (w.next key).2.Refines (b.next key).2 := by
  have hlimit : w.retryLimit ≤ w.failures key ↔ b.retryLimit ≤ b.failures key := by
    rw [UInt32.le_iff_toNat_le, h.retryLimit, h.failures]
  by_cases hspent : b.retryLimit ≤ b.failures key
  · rw [Backoff.next_of_spent hspent, WordBackoff.next, if_pos (hlimit.mpr hspent)]
    exact ⟨rfl, h.reset key⟩
  · rw [Backoff.next_of_left hspent, WordBackoff.next, if_neg (mt hlimit.mp hspent)]
    refine ⟨congrArg some (h.nanos_delay key), h.retryLimit, h.base, h.max, fun query => ?_⟩
    have hcount : (w.failures key + 1).toNat = b.failures key + 1 := by
      have hlt := w.retryLimit.toNat_lt
      rw [h.retryLimit] at hlt
      rw [UInt32.toNat_add, h.failures]
      exact Nat.mod_eq_of_lt (by change b.failures key + 1 < 2 ^ 32; omega)
    have hquery := h.failures query
    rw [WordBackoff.failures] at hquery
    rw [WordBackoff.failures, Backoff.failures, Table.get?_insert, Table.get?_insert]
    split
    · exact hcount
    · exact hquery

/-- A step preserves this. -/
theorem Refines.step (h : w.Refines b) (step : BackoffStep) :
    (w.step step).Refines (b.step step) := by
  cases step with
  | failure key => exact (h.next key).2
  | success key => exact h.reset key

/-- **Along every run** the backoff in words stands for that in natural numbers. -/
theorem refines_run (h : w.Refines b) (steps : List BackoffStep) :
    (w.run steps).Refines (b.run steps) := by
  induction steps generalizing w b with
  | nil => exact h
  | cons step steps ih => exact ih (h.step step)

end Steps

end WordBackoff

/-- Whether the words **suffice**: a backoff in words is set up iff one in natural numbers is, and
after every run it answers the next failure of every resource with the same delay. -/
def BackoffWords.Suffice (words : BackoffWords) : Prop :=
  Option.Rel
    (fun (w : WordBackoff) (b : Backoff) => ∀ steps, (w.run steps).Refines (b.run steps) ∧
      ∀ key, ((w.run steps).next key).1.map Span.nanos =
        ((b.run steps).next key).1.map (· * 10 ^ 6))
    (WordBackoff.ofWords? words) (Backoff.ofSettings? words.settings)

/-- **Words suffice** for all settings that they can express. -/
theorem BackoffWords.suffice (words : BackoffWords) : words.Suffice := by
  have hstart := WordBackoff.refines_ofWords? words
  rw [Suffice]
  generalize WordBackoff.ofWords? words = w at hstart ⊢
  generalize Backoff.ofSettings? words.settings = b at hstart ⊢
  cases hstart with
  | none => exact .none
  | some h =>
      refine .some fun steps => ?_
      have hrun := WordBackoff.refines_run h steps
      exact ⟨hrun, fun key => (hrun.next key).1⟩

/-! ### Exact delays -/

namespace Backoff

/-- From the thirty-third failure on the delay is that for the largest factor. -/
theorem delay_of_le (b : Backoff) {j : Nat} (h : 32 ≤ j) :
    b.delay j = min (b.base * (2 ^ 32 - 1)) b.max := by
  have hfactor : factor j = 2 ^ 32 - 1 := if_neg (Nat.not_lt.mpr h)
  rw [delay, hfactor]

/-- **The delay is the base doubled with each failure**, up to the maximum, unless the factor has
more than 32 bits and the maximum does not cut the delay. The largest factor is short of the exact
one, which shows unless both delays are cut. -/
theorem delay_eq_iff (b : Backoff) (j : Nat) : b.delay j = min (b.base * 2 ^ j) b.max ↔
    j < 32 ∨ b.base = 0 ∨ b.max ≤ b.base * (2 ^ 32 - 1) := by
  by_cases hj : j < 32
  · rw [delay, factor, if_pos hj, Nat.one_shiftLeft]
    exact iff_of_true rfl (.inl hj)
  · rw [delay_of_le b (Nat.not_lt.mp hj)]
    have hpow : 2 ^ 32 ≤ 2 ^ j := Nat.pow_le_pow_right Nat.two_pos (Nat.not_lt.mp hj)
    rcases Nat.eq_zero_or_pos b.base with hbase | hbase
    · simp [hbase]
    · have hlt : b.base * (2 ^ 32 - 1) < b.base * 2 ^ j := by
        refine Nat.mul_lt_mul_of_pos_left ?_ hbase
        omega
      omega

/-- What is set up has the settings and has counted no failure. -/
theorem eq_of_ofSettings? {s : BackoffSettings} {b : Backoff} (h : ofSettings? s = some b) :
    b = { retryLimit := s.retryLimit, base := s.baseMillis, max := s.maxSeconds * 1000 } := by
  rw [ofSettings?] at h
  split at h
  · exact (Option.some.inj h).symm
  · cases h

/-- A backoff is set up iff twice the largest delay is within the longest time of idling. -/
theorem exists_ofSettings?_iff (s : BackoffSettings) :
    (∃ b, ofSettings? s = some b) ↔ 2 * s.maxSeconds ≤ maxIdleSeconds := by
  rw [ofSettings?]
  split
  · next h => exact iff_of_true ⟨_, rfl⟩ h
  · next h => exact iff_of_false (by simp) h

/-- **After `j` failures in a row** the next one is answered with the delay for this number. -/
theorem next_run {s : BackoffSettings} {b : Backoff} (h : ofSettings? s = some b) {key : ObjectRef}
    {steps : List BackoffStep} {j : Nat} (hj : j < s.retryLimit)
    (hsteps : steps.filter (·.key = key) = List.replicate j (.failure key)) :
    ((b.run steps).next key).1 = some (b.delay j) := by
  obtain ⟨hlimit, hdelay⟩ := b.settings_run steps
  have hstart : b.retryLimit = s.retryLimit ∧ b.failures key = 0 := by
    rw [eq_of_ofSettings? h]
    exact ⟨rfl, rfl⟩
  have hcount := failures_run hsteps hstart.2 (by omega)
  rw [next_of_left (by omega), hcount, hdelay, Nat.zero_add]

end Backoff

/-- Failures of one resource only are failures in a row. -/
theorem filter_replicate_failure (key : ObjectRef) (j : Nat) :
    (List.replicate j (BackoffStep.failure key)).filter (·.key = key) =
      List.replicate j (.failure key) :=
  List.filter_replicate_of_pos (decide_eq_true rfl)

namespace BackoffSettings

/-- Whether delays are **exact**: a backoff is set up, and a failure that comes after `j` failures
of the resource and nothing else of it is answered with the base doubled `j` times, up to the
maximum, as long as retries are left. -/
def IsExact (s : BackoffSettings) : Prop :=
  ∃ b, Backoff.ofSettings? s = some b ∧
    ∀ (key : ObjectRef) (steps : List BackoffStep) (j : Nat), j < s.retryLimit →
      steps.filter (·.key = key) = List.replicate j (.failure key) →
      ((b.run steps).next key).1 = some (min (s.baseMillis * 2 ^ j) (s.maxSeconds * 1000))

/-- The exact delays fail where no backoff is set up, or where a failure after the thirty-second has
a factor that shows. The failure that decides is the thirty-third one. -/
theorem isExact_iff_bounds (s : BackoffSettings) :
    s.IsExact ↔ 2 * s.maxSeconds ≤ Backoff.maxIdleSeconds ∧
      (s.retryLimit ≤ 32 ∨ s.baseMillis = 0 ∨
        s.maxSeconds * 1000 ≤ s.baseMillis * (2 ^ 32 - 1)) := by
  constructor
  · rintro ⟨b, hb, hexact⟩
    refine ⟨(Backoff.exists_ofSettings?_iff s).mp ⟨b, hb⟩, ?_⟩
    by_cases hlimit : s.retryLimit ≤ 32
    · exact .inl hlimit
    have hsteps := filter_replicate_failure default 32
    have hdelay := hexact default _ 32 (Nat.not_le.mp hlimit) hsteps
    rw [Backoff.next_run hb (Nat.not_le.mp hlimit) hsteps, Option.some.injEq] at hdelay
    obtain rfl := Backoff.eq_of_ofSettings? hb
    exact ((Backoff.delay_eq_iff _ 32).mp hdelay).imp (absurd · (by decide)) id
  · rintro ⟨hidle, hshows⟩
    obtain ⟨b, hb⟩ := (Backoff.exists_ofSettings?_iff s).mpr hidle
    refine ⟨b, hb, fun key steps j hj hsteps => ?_⟩
    rw [Backoff.next_run hb hj hsteps, Option.some.injEq]
    obtain rfl := Backoff.eq_of_ofSettings? hb
    exact (Backoff.delay_eq_iff _ j).mpr (hshows.imp (Nat.lt_of_lt_of_le hj) id)

/-- **The settings with exact delays.** Of the settings that are accepted they are those that set up
a backoff at all, with a maximum of at most five hundred years, and with which no factor of more
than 32 bits shows, be it that the retries do not reach so far, that the base is zero or that the
maximum cuts the delay. Each single delay is exact under the same condition, and is else the one for
the largest factor. Limited numbers suffice to compute all this: no count wraps around and no span
is cut short. -/
theorem isExact_iff {s : BackoffSettings} (h : s.IsAccepted) :
    (s.IsExact ↔ 2 * s.maxSeconds ≤ Backoff.maxIdleSeconds ∧
      (s.retryLimit ≤ 32 ∨ s.baseMillis = 0 ∨
        s.maxSeconds * 1000 ≤ s.baseMillis * (2 ^ 32 - 1))) ∧
    (∀ b, Backoff.ofSettings? s = some b →
      ∀ (key : ObjectRef) (steps : List BackoffStep) (j : Nat), j < s.retryLimit →
        steps.filter (·.key = key) = List.replicate j (.failure key) →
        ∃ delay, ((b.run steps).next key).1 = some delay ∧
          (delay = min (s.baseMillis * 2 ^ j) (s.maxSeconds * 1000) ↔
            j < 32 ∨ s.baseMillis = 0 ∨ s.maxSeconds * 1000 ≤ s.baseMillis * (2 ^ 32 - 1)) ∧
          (32 ≤ j → delay = min (s.baseMillis * (2 ^ 32 - 1)) (s.maxSeconds * 1000))) ∧
    ∃ words : BackoffWords, words.settings = s ∧ words.Suffice := by
  refine ⟨s.isExact_iff_bounds, fun b hb key steps j hj hsteps => ?_, ?_⟩
  · have hnext := Backoff.next_run hb hj hsteps
    obtain rfl := Backoff.eq_of_ofSettings? hb
    exact ⟨_, hnext, Backoff.delay_eq_iff _ j, Backoff.delay_of_le _⟩
  · obtain ⟨words, hwords⟩ := isAccepted_iff.mp h
    exact ⟨words, hwords, words.suffice⟩

/-- Forty retries with delays of at most five minutes are exact. -/
theorem isExact_iff_capped :
    (⟨40, 500, 300⟩ : BackoffSettings).IsAccepted ∧ (⟨40, 500, 300⟩ : BackoffSettings).IsExact := by
  have haccepted : (⟨40, 500, 300⟩ : BackoffSettings).IsAccepted :=
    isAccepted_iff.mpr ⟨⟨40, 500, 300⟩, rfl⟩
  exact ⟨haccepted, (isExact_iff haccepted).1.mpr ⟨by decide, .inr (.inr (by decide))⟩⟩

/-- Not all settings that are accepted have exact delays: with a base of one millisecond and a
maximum of fifty days, the thirty-third delay is a millisecond short, and with a maximum of more
than five hundred years there is no backoff at all. -/
theorem not_isExact :
    ((⟨33, 1, 4294968⟩ : BackoffSettings).IsAccepted ∧
      ¬ (⟨33, 1, 4294968⟩ : BackoffSettings).IsExact) ∧
    (⟨5, 500, 15768000001⟩ : BackoffSettings).IsAccepted ∧
      ¬ (⟨5, 500, 15768000001⟩ : BackoffSettings).IsExact := by
  refine ⟨⟨isAccepted_iff.mpr ⟨⟨33, 1, 4294968⟩, rfl⟩, ?_⟩,
    isAccepted_iff.mpr ⟨⟨5, 500, 15768000001⟩, rfl⟩, ?_⟩
  · rw [isExact_iff_bounds]
    decide
  · rw [isExact_iff_bounds]
    decide

end BackoffSettings

end GeoPlacement
