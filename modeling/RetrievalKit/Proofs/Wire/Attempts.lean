import Mathlib.Algebra.Group.Nat.Defs
import RetrievalKit.Proofs.Wire.Journal
import RetrievalKit.Wire.Bench
import RetrievalKit.Wire.Retry

/-!
# The attempts of a retried request

What a retrying backend asks of the backend below it, for any backend and any clock: how often, with
which request, when, and what it makes of the outcomes.

* `Trial` — an attempt with its request, its outcome and the times it started and ended;
* `Course` — the attempts that one request may take;
* `course_retryFrom` — the loop takes such a course, whatever action it repeats;
* `RetryPolicy.Governs` — the course that a policy prescribes, with the times of its attempts;
* `Backend.governs_retrying` — so the requests and the openings of a retrying backend take the
  courses of its policy, and it answers the same if nobody notes them;
* `Bench.retrying_cuts_wait` — a wait that would be longer than thirty years is cut.
-/

namespace RetrievalKit

/-! ## Attempts -/

/-- What came of an attempt, at a reply or at the opening of a stream. -/
inductive Attempted where
  | reply (outcome : Except Error Reply)
  | opening (outcome : Except Error (List Piece))

/-- The outcome may be followed by another attempt: it is a reply with status 429, or an error of
the kind of a rate limit or a timeout. -/
def Attempted.Retryable : Attempted → Prop
  | .reply (.ok answer) => answer.status = 429
  | .opening (.ok _) => False
  | .reply (.error e) | .opening (.error e) => e.kind = .rateLimit ∨ e.kind = .timeout

/-- An attempt, with the times before and after it. -/
structure Trial where
  request : Request
  outcome : Attempted
  start : Nat
  stop : Nat

/-- The attempt that led from one world to another. -/
def Trial.between {σ α : Type} (clock : σ → Nat) (request : Request)
    (wrap : Except Error α → Attempted) (s : σ) (outcome : Except Error α) (s' : σ) : Trial :=
  ⟨request, wrap outcome, clock s, clock s'⟩

/-- The backend whose attempts are noted with the times of a clock. -/
def Backend.timing {σ : Type} (clock : σ → Nat) (b : Backend σ) : Backend (Journal Trial σ) where
  send request := Journal.noting (.between clock request .reply) (b.send request)
  sendStream request := Journal.noting (.between clock request .opening) (b.sendStream request)

theorem Backend.agree_timing {σ : Type} (clock : σ → Nat) (b : Backend σ) :
    Backend.Agree Journal.IsOf (b.timing clock) b where
  send request := Journal.agree_noting _ (b.send request)
  sendStream request := Journal.agree_noting _ (b.sendStream request)

theorem isTransient_iff {e : Error} :
    e.isTransient = true ↔ e.kind = .rateLimit ∨ e.kind = .timeout := by
  unfold Error.isTransient
  cases e.kind <;> simp

theorem isTransientReply_iff (outcome : Except Error Reply) :
    isTransientReply outcome = true ↔ (Attempted.reply outcome).Retryable := by
  cases outcome with
  | ok reply => exact beq_iff_eq
  | error e => exact isTransient_iff (e := e)

theorem isTransientOpening_iff (outcome : Except Error (List Piece)) :
    isTransientOpening outcome = true ↔ (Attempted.opening outcome).Retryable := by
  cases outcome with
  | ok pieces => simp [isTransientOpening, Attempted.Retryable]
  | error e => exact isTransient_iff (e := e)

/-! ## Courses -/

/-- The attempts of one request: `wait i` lies between the attempts `i` and `i + 1`, counted from
zero, and there are at most `allowed`. -/
structure Course (request : Request) (wait : Nat → Nat) (allowed start : Nat)
    (trials : List Trial) (result : Attempted) (stop : Nat) : Prop where
  /-- Every attempt has the request. -/
  requests : ∀ t ∈ trials, t.request = request
  /-- All outcomes but the last are followed by another attempt, which is allowed. -/
  again : ∀ i t, trials[i]? = some t → i + 1 < trials.length →
    t.outcome.Retryable ∧ i + 1 < allowed
  /-- The outcome of the last attempt is the result, and it ends the course, or there may be no
  other attempt. -/
  last : ∃ t, trials.getLast? = some t ∧ t.outcome = result ∧ t.stop = stop ∧
    (¬ t.outcome.Retryable ∨ allowed ≤ trials.length)
  /-- The first attempt starts at once. -/
  first : ∃ t, trials[0]? = some t ∧ t.start = start
  /-- Between two attempts is the wait. -/
  waits : ∀ i t t', trials[i]? = some t → trials[i + 1]? = some t' → t'.start = t.stop + wait i

/-- The time that the first `i` waits take. -/
def waited (wait : Nat → Nat) : Nat → Nat
  | 0 => 0
  | i + 1 => waited wait i + wait i

theorem waited_congr {wait wait' : Nat → Nat} {i : Nat} (h : ∀ k < i, wait k = wait' k) :
    waited wait i = waited wait' i := by
  induction i with
  | zero => rfl
  | succ i ih =>
    rw [waited, waited, ih fun k hk => h k (by omega), h i (by omega)]

/-- The waits double from one to the next. -/
theorem waited_doubled (base i : Nat) :
    waited (fun k => base * 2 ^ k) i = base * (2 ^ i - 1) := by
  induction i with
  | zero => simp [waited]
  | succ i ih =>
    have hpos : 0 < 2 ^ i := Nat.two_pow_pos i
    have hsplit : 2 ^ (i + 1) - 1 = 2 ^ i - 1 + 2 ^ i := by
      rw [Nat.pow_succ]
      omega
    rw [waited, ih, hsplit, Nat.mul_add]

namespace Course

variable {request : Request} {wait : Nat → Nat} {allowed stop : Nat} {trials : List Trial}
  {result : Attempted}

/-- A course of one attempt. -/
theorem single (t : Trial) (h : ¬ t.outcome.Retryable ∨ allowed ≤ 1) :
    Course t.request wait allowed t.start [t] t.outcome t.stop where
  requests := by simp
  again i u hi hlt := by simp at hlt
  last := ⟨t, rfl, rfl, rfl, h⟩
  first := ⟨t, rfl, rfl⟩
  waits i u u' hi hi' := by simp at hi'

/-- An attempt that is followed by a course. -/
theorem cons (t : Trial) (hretryable : t.outcome.Retryable)
    (h : Course t.request (fun i => wait (i + 1)) allowed (t.stop + wait 0) trials result stop)
    (hallowed : 0 < allowed) :
    Course t.request wait (allowed + 1) t.start (t :: trials) result stop where
  requests := List.forall_mem_cons.mpr ⟨rfl, h.requests⟩
  again i u hi hlt := by
    cases i with
    | zero =>
      cases hi
      exact ⟨hretryable, by omega⟩
    | succ i =>
      obtain ⟨hu, hi'⟩ := h.again i u hi (by simpa using hlt)
      exact ⟨hu, by omega⟩
  last := by
    obtain ⟨u, hu, hresult, hstop, hends⟩ := h.last
    have hne : trials ≠ [] := by
      rintro rfl
      cases hu
    refine ⟨u, ?_, hresult, hstop, ?_⟩
    · rw [List.getLast?_cons, hu, Option.getD_some]
    · exact hends.imp_right fun h => Nat.succ_le_succ h
  first := ⟨t, rfl, rfl⟩
  waits i u u' hi hi' := by
    cases i with
    | zero =>
      obtain ⟨v, hv, hstart⟩ := h.first
      cases hi
      rw [List.getElem?_cons_succ, hv] at hi'
      cases hi'
      exact hstart
    | succ i => exact h.waits i u u' hi hi'

/-- If only the waits take time, an attempt starts when all waits before it are over. -/
theorem start_eq {start : Nat} (h : Course request wait allowed start trials result stop)
    (hinstant : ∀ t ∈ trials, t.stop = t.start) {i : Nat} {t : Trial}
    (hi : trials[i]? = some t) : t.start = start + waited wait i := by
  induction i generalizing t with
  | zero =>
    obtain ⟨u, hu, hstart⟩ := h.first
    rw [hi] at hu
    cases hu
    exact hstart
  | succ i ih =>
    have hlt : i < trials.length := by
      have := (List.getElem?_eq_some_iff.mp hi).1
      omega
    have hget : trials[i]? = some trials[i] := List.getElem?_eq_getElem hlt
    rw [h.waits i _ t hget hi, hinstant _ (List.getElem_mem hlt), ih hget, waited, Nat.add_assoc]

/-- An outcome that is not followed by another attempt is the last one, and the result. -/
theorem getLast?_of_not_retryable {start : Nat}
    (h : Course request wait allowed start trials result stop) {t : Trial} (ht : t ∈ trials)
    (hsettled : ¬ t.outcome.Retryable) : trials.getLast? = some t ∧ t.outcome = result := by
  obtain ⟨i, hlt, rfl⟩ := List.mem_iff_getElem.mp ht
  obtain ⟨u, hu, hresult, -, -⟩ := h.last
  have hlast : i + 1 = trials.length := by
    refine Nat.le_antisymm hlt (Nat.le_of_not_lt fun hnext => hsettled ?_)
    exact (h.again i _ (List.getElem?_eq_getElem hlt) hnext).1
  have hget : trials.getLast? = some trials[i] := by
    rw [List.getLast?_eq_getElem?, ← hlast, Nat.add_sub_cancel, List.getElem?_eq_getElem hlt]
  refine ⟨hget, ?_⟩
  rw [hget] at hu
  cases hu
  exact hresult

end Course

/-! ## The loop -/

section Loop

variable {σ α : Type} {clock : σ → Nat} {sleep : Nat → σ → σ} {wrap : Except Error α → Attempted}
  {isTransient : Except Error α → Bool}

/-- **A repeated action takes a course.** -/
theorem course_retryFrom
    (hsleep : ∀ d s, clock (sleep d s) = clock s + min d Bench.longestWait)
    (hwrap : ∀ r, isTransient r = true ↔ (wrap r).Retryable) (policy : RetryPolicy)
    (request : Request) (act : Action σ α) (n left : Nat) (j : Journal Trial σ) :
    let noted := Journal.noting (.between clock request wrap) act
    let r := (retryFrom policy (fun d => Journal.onWorld (sleep d)) isTransient noted n left).run j
    ∃ trials, r.2.entries = j.entries ++ trials ∧
      Course request (fun i => min (policy.delay (n + i)) Bench.longestWait) (left + 1)
        (clock j.world) trials (wrap r.1) (clock r.2.world) := by
  intro noted
  -- Induction on the attempts that are left: each is at the front of the course that remains.
  induction left generalizing n j with
  | zero =>
    let r := act.run j.world
    exact ⟨_, rfl, .single (.between clock request wrap j.world r.1 r.2) (.inr (Nat.le_refl 1))⟩
  | succ left ih =>
    intro r
    let made := act.run j.world
    let trial := Trial.between clock request wrap j.world made.1 made.2
    let after : Journal Trial σ := ⟨made.2, j.entries ++ [trial]⟩
    have hr : r = if isTransient made.1 then
        (retryFrom policy (fun d => Journal.onWorld (sleep d)) isTransient noted (n + 1) left).run
          (after.onWorld (sleep (policy.delay n)))
      else (made.1, after) := rfl
    rw [hr]
    split
    · rename_i htransient
      obtain ⟨trials, hentries, hcourse⟩ :=
        ih (n + 1) (after.onWorld (sleep (policy.delay n)))
      refine ⟨trial :: trials, ?_, .cons trial ((hwrap _).mp htransient) ?_ (Nat.succ_pos left)⟩
      · rw [hentries]
        simp [after, Journal.onWorld]
      · have hwait : (fun i => min (policy.delay (n + 1 + i)) Bench.longestWait) =
            fun i => min (policy.delay (n + (i + 1))) Bench.longestWait := by
          funext i
          congr 2
          omega
        have hstart : clock (after.onWorld (sleep (policy.delay n))).world =
            trial.stop + min (policy.delay n) Bench.longestWait := hsleep _ _
        rw [hwait, hstart] at hcourse
        exact hcourse
    · rename_i htransient
      exact ⟨[trial], rfl, .single trial (.inl fun h => htransient ((hwrap _).mpr h))⟩

/-- What is repeated with and without a journal has the same outcome. -/
theorem Action.Agree.retryFrom {τ : Type} {R : σ → τ → Prop} {act : Action σ α}
    {act' : Action τ α} {sleep' : Nat → τ → τ} (h : Action.Agree R act act')
    (hsleep : ∀ d s t, R s t → R (sleep d s) (sleep' d t)) (policy : RetryPolicy)
    (isTransient : Except Error α → Bool) (n left : Nat) :
    Action.Agree R (RetrievalKit.retryFrom policy sleep isTransient act n left)
      (RetrievalKit.retryFrom policy sleep' isTransient act' n left) := by
  induction left generalizing n with
  | zero => exact h
  | succ left ih =>
    intro s t hst
    obtain ⟨outcome, s', t', hs, ht, hst'⟩ := RetrievalKit.Agree.run h hst
    have hs' : act s = (outcome, s') := hs
    have ht' : act' t = (outcome, t') := ht
    unfold RetrievalKit.retryFrom
    simp only [ExceptT.run, ExceptT.mk, hs', ht']
    split
    · exact ih (n + 1) _ _ (hsleep _ _ _ hst')
    · exact ⟨rfl, hst'⟩

end Loop

/-! ## The law of a policy -/

theorem RetryPolicy.factor_eq (n : Nat) : factor n = min (2 ^ n) (2 ^ 32 - 1) := by
  unfold factor
  split
  · rename_i hlt
    have hpow : 2 ^ n ≤ 2 ^ 31 := Nat.pow_le_pow_right (by decide) (by omega)
    show 2 ^ n = _
    omega
  · rename_i hge
    have hpow : 2 ^ 32 ≤ 2 ^ n := Nat.pow_le_pow_right (by decide) (by omega)
    show 2 ^ 32 - 1 = _
    omega

/-- The attempts of a request under a policy. -/
structure RetryPolicy.Governs (p : RetryPolicy) (request : Request) (start : Nat)
    (trials : List Trial) (result : Attempted) (stop : Nat) : Prop where
  /-- They are repeated as long as it allows, and lie as far apart as it says, but no more than
  thirty years. -/
  course : Course request
    (fun i => min (p.baseDelay * min (2 ^ i) (2 ^ 32 - 1)) Bench.longestWait)
    (max 1 p.maxAttempts) start trials result stop
  /-- If only waiting takes time, and no wait is cut, the time of an attempt is that of the first
  one and a power of two less one times the first delay. -/
  doubled : (∀ t ∈ trials, t.stop = t.start) → ∀ i t, trials[i]? = some t → i ≤ 32 →
    (∀ k < i, p.baseDelay * 2 ^ k ≤ Bench.longestWait) →
    t.start = start + p.baseDelay * (2 ^ i - 1)

theorem Course.governs {p : RetryPolicy} {request : Request} {start stop : Nat}
    {trials : List Trial} {result : Attempted}
    (h : Course request (fun i => min (p.delay (0 + i)) Bench.longestWait)
      (p.maxAttempts - 1 + 1) start trials result stop) :
    p.Governs request start trials result stop := by
  have hwait : (fun i => min (p.delay (0 + i)) Bench.longestWait) =
      fun i => min (p.baseDelay * min (2 ^ i) (2 ^ 32 - 1)) Bench.longestWait := by
    funext i
    rw [Nat.zero_add, RetryPolicy.delay, RetryPolicy.factor_eq]
  have hallowed : p.maxAttempts - 1 + 1 = max 1 p.maxAttempts := by omega
  rw [hwait, hallowed] at h
  refine ⟨h, fun hinstant i t hi hle hcut => ?_⟩
  rw [h.start_eq hinstant hi, ← waited_doubled]
  congr 1
  refine waited_congr fun k hlt => ?_
  have hpow : 2 ^ k ≤ 2 ^ 31 := Nat.pow_le_pow_right (by decide) (by omega)
  have hfactor : min (2 ^ k) (2 ^ 32 - 1) = 2 ^ k := by omega
  rw [hfactor, Nat.min_eq_left (hcut k hlt)]

/-- **The attempts of a retrying backend.**  Over every backend, and with every clock that a wait
sets ahead by the time waited, thirty years at most, a request makes the attempts that the policy
allows until one has an outcome that is not retried, and has the outcome of the last; so does the
opening of a stream, and a stream that could be opened is passed on with whatever it yields.  The
journal that shows the attempts changes nothing.  A policy without attempts makes one. -/
theorem Backend.governs_retrying {σ : Type} {clock : σ → Nat} {sleep : Nat → σ → σ}
    (hsleep : ∀ d s, clock (sleep d s) = clock s + min d Bench.longestWait)
    (policy : RetryPolicy) (inner : Backend σ) (request : Request) (j : Journal Trial σ) :
    let noted := (inner.timing clock).retrying policy fun d => Journal.onWorld (sleep d)
    let plain := inner.retrying policy sleep
    let sent := (noted.send request).run j
    let opened := (noted.sendStream request).run j
    ((plain.send request).run j.world = (sent.1, sent.2.world) ∧
      ∃ trials, sent.2.entries = j.entries ++ trials ∧
        policy.Governs request (clock j.world) trials (.reply sent.1) (clock sent.2.world)) ∧
    ((plain.sendStream request).run j.world = (opened.1, opened.2.world) ∧
      ∃ trials, opened.2.entries = j.entries ++ trials ∧
        policy.Governs request (clock j.world) trials (.opening opened.1)
          (clock opened.2.world) ∧
        ∀ t ∈ trials, ∀ pieces, t.outcome = .opening (.ok pieces) →
          trials.getLast? = some t ∧ opened.1 = .ok pieces) ∧
    ∀ delay, inner.retrying ⟨0, delay⟩ sleep = inner.retrying ⟨1, delay⟩ sleep := by
  intro noted plain sent opened
  have hworlds : ∀ d (j : Journal Trial σ) s, j.IsOf s →
      (j.onWorld (sleep d)).IsOf (sleep d s) := fun d j s h => congrArg (sleep d) h
  have hagree := inner.agree_timing clock
  have hsent : Action.Agree Journal.IsOf (noted.send request) (plain.send request) :=
    (hagree.send request).retryFrom hworlds policy isTransientReply 0 _
  have hopened : Action.Agree Journal.IsOf (noted.sendStream request) (plain.sendStream request) :=
    (hagree.sendStream request).retryFrom hworlds policy isTransientOpening 0 _
  refine ⟨⟨Journal.run_world hsent j, ?_⟩, ⟨Journal.run_world hopened j, ?_⟩, fun delay => rfl⟩
  · obtain ⟨trials, hentries, hcourse⟩ := course_retryFrom hsleep isTransientReply_iff policy
      request (inner.send request) 0 (policy.maxAttempts - 1) j
    exact ⟨trials, hentries, hcourse.governs⟩
  · obtain ⟨trials, hentries, hcourse⟩ := course_retryFrom hsleep isTransientOpening_iff policy
      request (inner.sendStream request) 0 (policy.maxAttempts - 1) j
    refine ⟨trials, hentries, hcourse.governs, fun t ht pieces hopen => ?_⟩
    obtain ⟨hlast, hresult⟩ := hcourse.getLast?_of_not_retryable ht (by rw [hopen]; exact id)
    rw [hopen] at hresult
    exact ⟨hlast, (Attempted.opening.inj hresult).symm⟩

/-- A request and a stream that need three attempts; the stream breaks off after it is open. -/
theorem governs_retrying_third_attempt :
    let policy : RetryPolicy := ⟨3, 500⟩
    let request : Request := ⟨"http://x", [], .null⟩
    let late : Error := ⟨.timeout, "late"⟩
    let broken : List Piece := [.ok [104, 105], .error late]
    let b : Bench := ⟨[⟨[.error late, .ok ⟨429, .null⟩, .ok ⟨200, .null⟩],
      [.error late, .error late, .ok broken], []⟩], [], 0⟩
    let backend := (Bench.backend 0).retrying policy Bench.sleep
    let sent := (backend.send request).run b
    let opened := (backend.sendStream request).run b
    (∀ d s, (Bench.sleep d s).clock = s.clock + min d Bench.longestWait) ∧
    (∃ trials, sent.1 = .ok ⟨200, .null⟩ ∧ trials.map Trial.start = [0, 500, 1500] ∧
      policy.Governs request 0 trials (.reply sent.1) sent.2.clock) ∧
    ∃ trials, opened.1 = .ok broken ∧ trials.map Trial.start = [0, 500, 1500] ∧
      policy.Governs request 0 trials (.opening opened.1) opened.2.clock := by
  intro policy request late broken b backend sent opened
  have hsleep : ∀ d s, (Bench.sleep d s).clock = s.clock + min d Bench.longestWait :=
    fun d s => rfl
  obtain ⟨⟨hsent, trials, htrials, hgoverns⟩, ⟨hopened, openings, hopenings, hgoverned, -⟩, -⟩ :=
    Backend.governs_retrying hsleep policy (Bench.backend 0) request ⟨b, []⟩
  refine ⟨hsleep, ⟨trials, rfl, ?_, ?_⟩, ⟨openings, rfl, ?_, ?_⟩⟩
  · rw [← List.nil_append trials, ← htrials]
    decide +kernel
  · rw [show sent = _ from hsent]
    exact hgoverns
  · rw [← List.nil_append openings, ← hopenings]
    decide +kernel
  · rw [show opened = _ from hopened]
    exact hgoverned

/-- A wait of thirty years and a millisecond lasts thirty years: the second attempt does not start
after the delay of the policy. -/
theorem Bench.retrying_cuts_wait :
    let policy : RetryPolicy := ⟨2, 946080000001⟩
    let request : Request := ⟨"http://x", [], .null⟩
    let b : Bench := ⟨[⟨[.error ⟨.timeout, "0"⟩, .ok ⟨200, .int 1⟩], [], []⟩], [], 0⟩
    let r := (((Bench.backend 0).retrying policy Bench.sleep).send request).run b
    r.1 = .ok ⟨200, .int 1⟩ ∧ r.2.log.map Sent.time = [0, 946080000000] ∧
      r.2.log.map Sent.time ≠ [0, 0 + policy.baseDelay * min (2 ^ 0) (2 ^ 32 - 1)] := by
  intro policy request b r
  have htimes : r.2.log.map Sent.time = [0, 946080000000] := by decide +kernel
  refine ⟨rfl, htimes, ?_⟩
  rw [htimes]
  decide

end RetrievalKit
