import TaxLiability.Security.RateLimitFilter

/-!
# Security/Throttle — what a subject is let through with over time

    first ├──── minute ────┼──── minute ────┼──── minute ────┤      minutes of the subject's own
               10 at most       10 at most       10 at most         a 429 only at the tenth

The minutes of a subject are counted from its first request to an LLM route.  A window of `m`
minutes, wherever it starts, lets `10 · (m + 1)` through at most (`let_through_le`); and a request
is refused exactly if ten were let through in its minute, so one who waits a minute passes
(`rateLimited_iff`).
-/

open Machine Llm TokenBucket

namespace Security

namespace SpendGate

variable {S : Container} {L : Bucket4j}

/-- **The instants a subject was let through at**, latest first. -/
def letThrough (s : SpendGate L) (subject : String) : List ℕ :=
  (s.served.filter fun x => x.consumed = some subject).map (·.request.instant)

/-! ## The invariant -/

/-- **A bucket keeps the instants of its subject**, was made at the first of them, and withholds
nothing. -/
structure Kept (s : SpendGate L) : Prop where
  noted : ∀ subject, s.letThrough subject
    = ((s.bucketsBySubject subject).map fun b => (L.view b).grants).getD []
  filled : ∀ subject b, s.bucketsBySubject subject = some b →
    (L.view b).refilled ≤ s.now ∧ (L.view b).grants.getLast? = some (L.view b).created
      ∧ ∃ n, (L.view b).Exact REQUESTS_PER_MINUTE MINUTE n

theorem kept_start : (start : SpendGate L).Kept := ⟨fun _ => rfl, nofun⟩

/-- **The bucket a request finds**: the subject's, or a full one. -/
theorem Kept.bucket {s : SpendGate L} (hs : s.Kept) (subject : String) {instant : ℕ}
    (hclock : s.now ≤ instant) :
    (L.view (s.bucket subject instant)).refilled ≤ instant
      ∧ (∃ n, (L.view (s.bucket subject instant)).Exact REQUESTS_PER_MINUTE MINUTE n)
      ∧ s.letThrough subject = (L.view (s.bucket subject instant)).grants
      ∧ (s.letThrough subject).getLast?.getD instant
        = (L.view (s.bucket subject instant)).created := by
  rw [hs.noted, SpendGate.bucket]
  cases hb : s.bucketsBySubject subject with
  | none =>
    rw [Option.getD_none, L.view_full]
    exact ⟨Nat.le_refl _, ⟨0, Bucket.exact_full instant⟩, rfl, rfl⟩
  | some b =>
    obtain ⟨hrefilled, hlast, hn⟩ := hs.filled subject b hb
    refine ⟨hrefilled.trans hclock, hn, rfl, ?_⟩
    rw [Option.map_some, Option.getD_some, hlast]
    rfl

/-- A take granted is a bucket's last instant, or its first. -/
theorem getLast?_tryConsume {b b' : Bucket} {instant : ℕ}
    (hlast : b.grants.getLast?.getD instant = b.created)
    (h : b.tryConsume REQUESTS_PER_MINUTE MINUTE instant = some b') :
    b'.grants.getLast? = some b'.created := by
  rw [Bucket.grants_tryConsume h, Bucket.created_tryConsume h, ← hlast, List.getLast?_cons]

/-- **One request.** -/
theorem Kept.step {s t : SpendGate L} {r : Request} (hs : s.Kept)
    (h : SpendGate.step S s r = some t) : t.Kept := by
  have hdoes := does_doFilter s r
  -- a request that consumed nothing leaves the buckets as they are
  have hfree : ∀ calls, ¬ r.instant < s.now →
      (SpendGate.mk r.instant s.bucketsBySubject (⟨r, none, calls⟩ :: s.served)).Kept := by
    intro calls hclock
    refine ⟨fun subject => ?_, fun subject b hb => ?_⟩
    · rw [letThrough, List.filter_cons_of_neg (by simp)]
      exact hs.noted subject
    · obtain ⟨hrefilled, hrest⟩ := hs.filled subject b hb
      exact ⟨hrefilled.trans (not_lt.mp hclock), hrest⟩
  unfold SpendGate.step at h
  split at h
  · cases h
  · next hclock =>
    split at h
    · next buckets consumed hfilter =>
      cases h
      rw [hfilter] at hdoes
      cases hdoes with
      | free _ => exact hfree _ hclock
      | metered jwt subject b hauth hsubject huri htake =>
        obtain ⟨hrefilled, ⟨n, hn⟩, hgrants, hlast⟩ := hs.bucket subject (not_lt.mp hclock)
        rw [hgrants] at hlast
        have hview := Library.view_of_tryConsume htake
        have hfilled := (hn.toInv.tryConsume minute_pos hrefilled hview).2
        refine ⟨fun subject' => ?_, fun subject' b' hb' => ?_⟩
        · by_cases hsame : subject' = subject
          · subst hsame
            have hnoted := Bucket.grants_tryConsume hview
            rw [← hgrants] at hnoted
            rw [letThrough, List.filter_cons_of_pos (by simp), List.map_cons]
            dsimp only
            rw [Function.update_self, Option.map_some, Option.getD_some, hnoted]
            rfl
          · rw [letThrough, List.filter_cons_of_neg (by simp [Ne.symm hsame])]
            dsimp only
            rw [Function.update_of_ne hsame]
            exact hs.noted subject'
        · obtain ⟨-, hb'⟩ | ⟨-, hb'⟩ := update_eq_some_iff.mp hb'
          · cases hb'
            exact ⟨hfilled, getLast?_tryConsume hlast hview, _,
              hn.tryConsume minute_pos hrefilled hview⟩
          · obtain ⟨hold, hrest⟩ := hs.filled subject' b' hb'
            exact ⟨hold.trans (not_lt.mp hclock), hrest⟩
    all_goals
      cases h
      exact hfree _ hclock

theorem kept_of_exec {requests : List Request} {s : SpendGate L}
    (h : exec (step S) start requests = some s) : s.Kept :=
  exec_invariant (fun hs hstep => hs.step hstep) kept_start h

/-! ## What a subject gets -/

variable (S) in
/-- **Any window of `m` minutes lets `10 · (m + 1)` requests of a subject through, at most**,
wherever it starts, in any run. -/
theorem let_through_le {requests : List Request} {s : SpendGate L}
    (h : exec (step S) start requests = some s) (subject : String) (instant m : ℕ) :
    s.served.countP (fun x => x.consumed = some subject ∧ instant ≤ x.request.instant
        ∧ x.request.instant < instant + m * MINUTE) ≤ REQUESTS_PER_MINUTE * (m + 1) := by
  have hs := kept_of_exec h
  have hcount : s.served.countP (fun x => x.consumed = some subject ∧ instant ≤ x.request.instant
      ∧ x.request.instant < instant + m * MINUTE)
      = (s.letThrough subject).countP fun t => instant ≤ t ∧ t < instant + m * MINUTE := by
    rw [letThrough, List.countP_map, List.countP_filter]
    refine List.countP_congr fun x _ => ?_
    simp only [decide_eq_true_eq, Function.comp_apply, Bool.and_eq_true]
    exact and_comm
  rw [hcount, hs.noted]
  cases hb : s.bucketsBySubject subject with
  | none => exact Nat.zero_le _
  | some b =>
    obtain ⟨-, -, n, hn⟩ := hs.filled subject b hb
    exact hn.countP_window_le minute_pos instant m

/-- Ten requests of one caller at one instant. -/
def burst : List Request := List.replicate 10 docsRequest

theorem exec_burst : ∃ s : SpendGate docsBuckets, exec (step docsContainer) start burst = some s
    ∧ s.now = 1 ∧ s.letThrough "alice" = List.replicate 10 1 := by
  have hrun : ((exec (step docsContainer) (start : SpendGate docsBuckets) burst).map fun s =>
      decide (s.now = 1 ∧ s.letThrough "alice" = List.replicate 10 1)) = some true := by
    decide +kernel
  obtain ⟨s, hs, hnow⟩ := Option.map_eq_some_iff.mp hrun
  exact ⟨s, hs, of_decide_eq_true hnow⟩

theorem let_through_burst : ∃ s : SpendGate docsBuckets,
    exec (step docsContainer) start burst = some s
    ∧ s.served.countP (fun x => x.consumed = some "alice" ∧ 0 ≤ x.request.instant
        ∧ x.request.instant < 0 + 1 * MINUTE) ≤ REQUESTS_PER_MINUTE * (1 + 1) := by
  obtain ⟨s, hs, -⟩ := exec_burst
  exact ⟨s, hs, let_through_le docsContainer hs "alice" 0 1⟩

variable (S) in
/-- **A request is refused exactly if ten of its subject were let through in its minute**, counted
from the subject's first; so one that comes a minute after the last is not. -/
theorem rateLimited_iff {requests : List Request} {s : SpendGate L}
    (h : exec (step S) start requests = some s) {r : Request} (hclock : s.now ≤ r.instant)
    {jwt : Jwt} {subject : String} (hauth : r.auth = .jwt jwt)
    (hsubject : jwt.subject = some subject) (huri : IsLlmRoute r.uri) :
    (s.doFilter r = .rateLimited
      ↔ ∃ first, (s.letThrough subject).getLast? = some first
        ∧ (s.letThrough subject).countP
            (fun t => (t - first) / MINUTE = (r.instant - first) / MINUTE) = REQUESTS_PER_MINUTE)
      ∧ ((∀ t ∈ s.letThrough subject, t + MINUTE ≤ r.instant) →
          s.doFilter r ≠ .rateLimited) := by
  have hs := kept_of_exec h
  obtain ⟨hrefilled, ⟨n, hn⟩, hgrants, hlast⟩ := hs.bucket subject hclock
  have hfilter : s.doFilter r = .rateLimited
      ↔ L.tryConsume (s.bucket subject r.instant) r.instant = none := by
    unfold doFilter
    rw [hauth]
    dsimp only
    rw [if_pos huri, hsubject]
    dsimp only
    split
    · next b hb => simp [hb]
    · next hnone => simp [hnone]
  have hiff : s.doFilter r = .rateLimited
      ↔ ∃ first, (s.letThrough subject).getLast? = some first
        ∧ (s.letThrough subject).countP
            (fun t => (t - first) / MINUTE = (r.instant - first) / MINUTE)
          = REQUESTS_PER_MINUTE := by
    rw [hfilter, Library.tryConsume_eq_none_iff, hn.tryConsume_eq_none_iff minute_pos hrefilled,
      ← hlast, Bucket.granted, ← hlast, ← hgrants]
    cases hfirst : (s.letThrough subject).getLast? with
    | none =>
      rw [List.getLast?_eq_none_iff.mp hfirst]
      simp [REQUESTS_PER_MINUTE]
    | some first => simp
  refine ⟨hiff, fun hstill hlimited => ?_⟩
  obtain ⟨first, hfirst, hcount⟩ := hiff.mp hlimited
  -- no instant a minute old is of the minute of the request
  have hnone : (s.letThrough subject).countP
      (fun t => (t - first) / MINUTE = (r.instant - first) / MINUTE) = 0 := by
    refine List.countP_eq_zero.mpr fun t ht heq => ?_
    have hlate : first ≤ t := by
      have hsince := hn.since t (hgrants ▸ ht)
      rwa [← hlast, hfirst] at hsince
    have hnext : (t - first) / MINUTE + 1 ≤ (r.instant - first) / MINUTE := by
      rw [← Nat.add_div_right _ minute_pos]
      have := hstill t ht
      exact Nat.div_le_div_right (by omega)
    have := of_decide_eq_true heq
    omega
  rw [hnone] at hcount
  cases hcount

/-- An eleventh is refused, and let through a minute later. -/
theorem rateLimited_burst : ∃ s : SpendGate docsBuckets,
    exec (step docsContainer) start burst = some s
    ∧ s.doFilter docsRequest = .rateLimited
    ∧ s.doFilter { docsRequest with instant := 1 + MINUTE } ≠ .rateLimited := by
  obtain ⟨s, hs, hnow, hthrough⟩ := exec_burst
  refine ⟨s, hs, (rateLimited_iff docsContainer hs (by rw [hnow]; decide) rfl rfl
      (by decide)).1.mpr ⟨1, by rw [hthrough]; rfl, by rw [hthrough]; decide⟩,
    (rateLimited_iff docsContainer hs (r := { docsRequest with instant := 1 + MINUTE })
      (by rw [hnow]; decide) rfl rfl (by decide)).2 fun t ht => ?_⟩
  rw [hthrough] at ht
  rw [List.eq_of_mem_replicate ht]

end SpendGate

end Security
