import Kukeon.Runner.Tick

/-! # The authored backoff as a duration

`effectiveRestartBackoff` multiplies the authored seconds into a `time.Duration` of 64 bits. The
validation asks only that they are not negative.
-/

namespace Kukeon.Runner.Backoff

open ModelHub ApiScheme

/-- The most seconds whose nanoseconds 64 signed bits hold. -/
def maxSeconds : Int := 9223372036

theorem duration_exact_iff {n : Int} (hn : 0 ≤ n) :
    duration (n * second) = n * second ↔ n ≤ maxSeconds := by
  have hr : duration (n * second) < 2 ^ 63 := by
    have := Int.bmod_lt (x := n * second) (m := 2 ^ 64) (by decide)
    unfold duration
    omega
  unfold maxSeconds second at *
  constructor
  · omega
  · intro hm
    exact Int.bmod_eq_of_le_mul_two (by omega) (by omega)

/-- The floor that a container is restarted with once it is stored. -/
def storedBackoff (spec : V1Beta1.ContainerSpec) : Int :=
  effectiveRestartBackoff (convertContainerSpecToInternal 0 0 spec)

/-- The floor is the authored number of seconds, and no container of the same policy that was
    authored with fewer waits where this one is restarted. -/
def BackoffExact (spec : V1Beta1.ContainerSpec) (n : Int) : Prop :=
  storedBackoff spec = n * second ∧
    ∀ (less : V1Beta1.ContainerSpec) (m : Int), validateContainerRestart less = .ok () →
      less.restartBackoffSeconds = some m → m ≤ n →
      ∀ (now : Time) (state : Option ContainerRestartState) (policy : String) (maxRetries : Int),
        restartDecisionFor now state policy (storedBackoff less) maxRetries = .restartDeferred →
        restartDecisionFor now state policy (storedBackoff spec) maxRetries = .restartDeferred

theorem nonneg_of_valid {spec : V1Beta1.ContainerSpec} {n : Int}
    (hv : validateContainerRestart spec = .ok ()) (hs : spec.restartBackoffSeconds = some n) :
    0 ≤ n := by
  by_contra hn
  simp [validateContainerRestart, hs, Int.not_le.mp hn] at hv

theorem deferred_mono {now : Time} {state : Option ContainerRestartState} {policy : String}
    {less more maxRetries : Int} (hb : less ≤ more)
    (hd : restartDecisionFor now state policy less maxRetries = .restartDeferred) :
    restartDecisionFor now state policy more maxRetries = .restartDeferred := by
  cases state with
  | none => cases hd
  | some state => grind [restartDecisionFor]

theorem storedBackoff_eq {spec : V1Beta1.ContainerSpec} {n : Int}
    (hs : spec.restartBackoffSeconds = some n) : storedBackoff spec = duration (n * second) := by
  simp [storedBackoff, effectiveRestartBackoff, convertContainerSpecToInternal, hs]

theorem backoffExact_iff {spec : V1Beta1.ContainerSpec} {n : Int}
    (hv : validateContainerRestart spec = .ok ()) (hs : spec.restartBackoffSeconds = some n) :
    BackoffExact spec n ↔ n ≤ maxSeconds := by
  have he := duration_exact_iff (nonneg_of_valid hv hs)
  constructor
  · rintro ⟨hsm, _⟩
    exact he.mp ((storedBackoff_eq hs).symm.trans hsm)
  · intro hn
    have hsm := (storedBackoff_eq hs).trans (he.mpr hn)
    refine ⟨hsm, fun less m hvl hg hm now state policy maxRetries hd => ?_⟩
    refine deferred_mono ?_ hd
    rw [hsm, storedBackoff_eq hg,
      (duration_exact_iff (nonneg_of_valid hvl hg)).mpr (hm.trans hn)]
    unfold second
    omega

def alwaysAfter (seconds : Int) : V1Beta1.ContainerSpec :=
  { id := "web", restartPolicy := ApiScheme.restartPolicyAlways, restartBackoffSeconds := some seconds }

theorem backoffExact_hour : BackoffExact (alwaysAfter 3600) 3600 :=
  (backoffExact_iff (by decide) rfl).mpr (by decide)

theorem longBackoff_fires_at_once :
    let spec := alwaysAfter 9223372037
    validateContainerRestart spec = .ok () ∧ storedBackoff spec < 0 ∧
      restartDecisionFor 1 (some { attempts := 1, lastAttempt := 1 }) spec.restartPolicy
        (storedBackoff spec) onFailureMaxRestarts = .restartFired := by
  decide

end Kukeon.Runner.Backoff
