import WaffleFinance.Coordinator.OrderMachine

/-!
# The rate limiter

The middleware `makeRateLimiter` with its store in memory.  A key has a bucket with a count and a
time at which the bucket runs out; the first request after that time opens a new bucket.  A timer
removes buckets that have run out.

`RateLimitOptions` documents a rolling window.  A bucket is a window that stands still: what a
bucket let through shortly before it ran out is forgotten when the next one is opened.

A request carries what `resolveClientIp` and `extractBearerToken` give for it.  The list `passed`
is not in the code: it has the key and the time of every request let through by its count.
-/

namespace WaffleFinance.Coordinator

structure RateLimitOptions where
  windowMs : ℕ
  max : ℕ
  name : Text
  apiKeys : List Text

structure Bucket where
  count : ℕ
  resetAt : ℕ
  deriving DecidableEq

structure ClientRequest where
  ip : Text
  token : Option Text

/-- What comes to the limiter: a request, or its timer. -/
inductive Arrival where
  | request (now : ℕ) (req : ClientRequest)
  | purge (now : ℕ)

def Arrival.now : Arrival → ℕ
  | request now _ | purge now => now

structure Limiter where
  buckets : Text → Option Bucket
  passed : List (Text × ℕ)

namespace Limiter

variable (opts : RateLimitOptions)

def initial : Limiter := ⟨fun _ => none, []⟩

/-- The bucket of a key after `increment`. -/
def increment (key : Text) (now : ℕ) (s : Limiter) : Bucket :=
  match s.buckets key with
  | none => ⟨1, now + opts.windowMs⟩
  | some bucket =>
    if bucket.resetAt < now then ⟨1, now + opts.windowMs⟩
    else { bucket with count := bucket.count + 1 }

def purgeExpired (now : ℕ) (s : Limiter) : Limiter :=
  { s with
    buckets := fun key => (s.buckets key).filter fun bucket => !decide (bucket.resetAt < now) }

/-- Whether the request has an API key that is exempt from the limit. -/
def bypasses (req : ClientRequest) : Bool :=
  !opts.apiKeys.isEmpty && req.token.any fun token => opts.apiKeys.contains token

def keyOf (req : ClientRequest) : Text := opts.name ++ ':' :: req.ip

/-- `rateLimitMiddleware`: whether the request is let through, and the store after it. -/
def handle (now : ℕ) (req : ClientRequest) (s : Limiter) : Bool × Limiter :=
  if bypasses opts req then (true, s)
  else
    let key := keyOf opts req
    let bucket := s.increment opts key now
    let s := { s with buckets := Function.update s.buckets key (some bucket) }
    if opts.max < bucket.count then (false, s)
    else (true, { s with passed := s.passed ++ [(key, now)] })

def step (s : Limiter) : Arrival → Limiter
  | .request now req => (s.handle opts now req).2
  | .purge now => s.purgeExpired now

def run (arrivals : List Arrival) : Limiter := arrivals.foldl (step opts) initial

lemma run_concat (arrivals : List Arrival) (a : Arrival) :
    run opts (arrivals ++ [a]) = (run opts arrivals).step opts a := by
  simp [run]

end Limiter

/-- Requests and runs of the timer, one after the other. -/
structure Traffic where
  arrivals : List Arrival
  inOrder : arrivals.Pairwise fun a b => a.now ≤ b.now

open Limiter

/-! ### What was let through -/

/-- How many requests of a key were let through in the half-open interval of the given length. -/
def within (key : Text) (t length : ℕ) (log : List (Text × ℕ)) : ℕ :=
  log.countP fun p => decide (p.1 = key ∧ t ≤ p.2 ∧ p.2 < t + length)

/-- When the requests of a key were let through. -/
def times (key : Text) (log : List (Text × ℕ)) : List ℕ :=
  (log.filter fun p => p.1 = key).map Prod.snd

variable {opts : RateLimitOptions} {key : Text} {now clock : ℕ} {log : List (Text × ℕ)}

lemma countP_times (key : Text) (p : ℕ → Prop) [DecidablePred p] (log : List (Text × ℕ)) :
    (times key log).countP (fun t => decide (p t)) =
      log.countP fun q => decide (q.1 = key ∧ p q.2) := by
  rw [times, List.countP_map, List.countP_filter]
  refine List.countP_congr fun q _ => ?_
  simp [and_comm]

lemma times_concat (k : Text) : times key (log ++ [(k, now)]) =
    times key log ++ if k = key then [now] else [] := by
  by_cases hk : k = key <;> simp [times, hk]

/-! ### Buckets -/

/-- The requests of a key that are counted: those in the bucket before, the one that has opened the
bucket, and the others in it. -/
structure Fill where
  previous : List ℕ
  start : ℕ
  later : List ℕ

namespace Fill

def current (b : Fill) : List ℕ := b.start :: b.later

/-- A request joins a bucket that was opened at most a window ago, or opens one. -/
def add (windowMs now : ℕ) : Option Fill → Fill
  | none => ⟨[], now, []⟩
  | some b =>
    if now ≤ b.start + windowMs then { b with later := b.later ++ [now] }
    else ⟨b.current, now, []⟩

def next (opts : RateLimitOptions) (key : Text) (b : Option Fill) : Arrival → Option Fill
  | .request now req =>
    if bypasses opts req = false ∧ keyOf opts req = key then some (add opts.windowMs now b) else b
  | .purge _ => b

end Fill

/-- The bucket of a key, from the requests alone. -/
def fill (opts : RateLimitOptions) (key : Text) (arrivals : List Arrival) : Option Fill :=
  arrivals.foldl (Fill.next opts key) none

lemma fill_concat (opts : RateLimitOptions) (key : Text) (arrivals : List Arrival) (a : Arrival) :
    fill opts key (arrivals ++ [a]) = Fill.next opts key (fill opts key arrivals) a := by
  simp [fill]

/-- The times in the two buckets; what was let through is at the beginning of either, after what is
older than a window. -/
structure Fill.Logs (opts : RateLimitOptions) (clock : ℕ) (ts : List ℕ) (b : Fill) : Prop where
  sorted : b.previous.Pairwise (· ≤ ·)
  rising : b.current.Pairwise (· ≤ ·)
  apart : ∀ t ∈ b.previous, t < b.start
  span : ∀ t ∈ b.current, b.start ≤ t ∧ t ≤ b.start + opts.windowMs ∧ t ≤ clock
  passed : ∃ older, ts = older ++ (b.previous.take opts.max ++ b.current.take opts.max) ∧
    ∀ t ∈ older, t + opts.windowMs < b.start

def Logged (opts : RateLimitOptions) (clock : ℕ) (ts : List ℕ) : Option Fill → Prop
  | none => ts = []
  | some b => b.Logs opts clock ts

lemma Logged.later {ts : List ℕ} {o : Option Fill} (h : Logged opts clock ts o)
    (hle : clock ≤ now) : Logged opts now ts o := by
  cases o with
  | none => exact h
  | some b =>
    refine ⟨h.sorted, h.rising, h.apart, fun t ht => ?_, h.passed⟩
    obtain ⟨hstart, hend, hclock⟩ := h.span t ht
    exact ⟨hstart, hend, hclock.trans hle⟩

lemma take_concat (l : List ℕ) (now n : ℕ) : (l ++ [now]).take n =
    l.take n ++ if (l ++ [now]).length ≤ n then [now] else [] := by
  rw [List.take_append]
  split_ifs with hle
  · have hroom : [now].length ≤ n - l.length := by
      simp only [List.length_append, List.length_singleton] at hle ⊢
      omega
    rw [List.take_of_length_le hroom]
  · have hfull : n - l.length = 0 := by
      simp only [List.length_append, List.length_singleton] at hle
      omega
    rw [hfull, List.take_zero]

/-- A request is counted, and let through if there is room. -/
lemma Logged.add {ts : List ℕ} {o : Option Fill} (h : Logged opts clock ts o)
    (hle : clock ≤ now) :
    (Fill.add opts.windowMs now o).Logs opts now
      (ts ++ if (Fill.add opts.windowMs now o).current.length ≤ opts.max then [now] else []) := by
  have hopened : ∀ previous : List ℕ, (∀ t ∈ previous, t < now) → previous.Pairwise (· ≤ ·) →
      (∃ older, ts = older ++ previous.take opts.max ∧ ∀ t ∈ older, t + opts.windowMs < now) →
      (⟨previous, now, []⟩ : Fill).Logs opts now (ts ++ if [now].length ≤ opts.max then [now]
        else []) := by
    rintro previous hapart hsorted ⟨older, rfl, holder⟩
    refine ⟨hsorted, List.pairwise_singleton _ _, hapart, ?_, older, ?_, holder⟩
    · intro t ht
      obtain rfl := List.mem_singleton.1 ht
      exact ⟨le_rfl, Nat.le_add_right _ _, le_rfl⟩
    · have htake := take_concat [] now opts.max
      rw [List.nil_append, List.take_nil, List.nil_append] at htake
      rw [Fill.current, htake, List.append_assoc]
  cases o with
  | none =>
    obtain rfl : ts = [] := h
    exact hopened [] (by simp) List.Pairwise.nil ⟨[], by simp, by simp⟩
  | some b =>
    obtain ⟨older, rfl, holder⟩ := h.passed
    have hstart := (h.span b.start List.mem_cons_self).2.2
    by_cases hjoins : now ≤ b.start + opts.windowMs
    · have hadd : Fill.add opts.windowMs now (some b) = { b with later := b.later ++ [now] } :=
        if_pos hjoins
      have hcurrent : (Fill.add opts.windowMs now (some b)).current = b.current ++ [now] := by
        rw [hadd]
        rfl
      rw [hcurrent, hadd]
      refine ⟨h.sorted, ?_, h.apart, ?_, older, ?_, holder⟩
      · refine List.pairwise_append.2 ⟨h.rising, List.pairwise_singleton _ _, ?_⟩
        intro t ht t' ht'
        obtain rfl := List.mem_singleton.1 ht'
        exact (h.span t ht).2.2.trans hle
      · intro t ht
        rcases List.mem_append.1 (show t ∈ b.current ++ [now] from ht) with ht | ht
        · obtain ⟨hfrom, hto, hclock⟩ := h.span t ht
          exact ⟨hfrom, hto, hclock.trans hle⟩
        · obtain rfl := List.mem_singleton.1 ht
          exact ⟨hstart.trans hle, hjoins, le_rfl⟩
      · show _ = older ++ (b.previous.take opts.max ++ (b.current ++ [now]).take opts.max)
        rw [take_concat, List.append_assoc, List.append_assoc]
    · rw [show Fill.add opts.windowMs now (some b) = ⟨b.current, now, []⟩ from if_neg hjoins]
      refine hopened b.current (fun t ht => ?_) h.rising
        ⟨older ++ b.previous.take opts.max, by rw [List.append_assoc], fun t ht => ?_⟩
      · have hspan := (h.span t ht).2.1
        omega
      · rcases List.mem_append.1 ht with ht | ht
        · have hold := holder t ht
          omega
        · have hold := h.apart t (List.mem_of_mem_take ht)
          omega

/-! ### What the store knows -/

/-- The store at a time and the buckets that the requests fill. -/
structure Tracks (opts : RateLimitOptions) (key : Text) (clock : ℕ) (s : Limiter)
    (o : Option Fill) : Prop where
  increment : ∀ now, clock ≤ now → s.increment opts key now =
    ⟨(Fill.add opts.windowMs now o).current.length,
      (Fill.add opts.windowMs now o).start + opts.windowMs⟩
  logged : Logged opts clock (times key s.passed) o

lemma Tracks.later {s : Limiter} {o : Option Fill} (h : Tracks opts key clock s o)
    (hle : clock ≤ now) : Tracks opts key now s o :=
  ⟨fun t ht => h.increment t (hle.trans ht), h.logged.later hle⟩

lemma increment_purgeExpired {s : Limiter} (hle : clock ≤ now) :
    (s.purgeExpired clock).increment opts key now = s.increment opts key now := by
  simp only [Limiter.increment, Limiter.purgeExpired]
  cases hb : s.buckets key with
  | none => rfl
  | some bucket =>
    by_cases hexpired : bucket.resetAt < clock
    · simp [Option.filter_some, hexpired, hexpired.trans_le hle]
    · simp [Option.filter_some, hexpired]

/-- The bucket that is stored is the one that goes on. -/
lemma increment_stored {s : Limiter} {b : Fill} (t : ℕ)
    (hb : s.buckets key = some ⟨b.current.length, b.start + opts.windowMs⟩) :
    s.increment opts key t = ⟨(Fill.add opts.windowMs t (some b)).current.length,
      (Fill.add opts.windowMs t (some b)).start + opts.windowMs⟩ := by
  simp only [Limiter.increment, hb, Fill.add]
  by_cases hjoins : t ≤ b.start + opts.windowMs
  · simp [hjoins, Fill.current]
  · simp [hjoins, Fill.current, Nat.lt_of_not_le hjoins]

lemma Tracks.handle {s : Limiter} {o : Option Fill} (h : Tracks opts key clock s o)
    (hle : clock ≤ now) (req : ClientRequest) :
    Tracks opts key now (s.handle opts now req).2 (Fill.next opts key o (.request now req)) := by
  unfold Limiter.handle Fill.next
  by_cases hbypass : bypasses opts req = true
  · simpa [hbypass] using h.later hle
  by_cases hkey : keyOf opts req = key
  · subst hkey
    have hcount := h.increment now hle
    have hlogs := h.logged.add hle
    simp only [hbypass, hcount, Bool.false_eq_true, if_false, and_self, if_true]
    refine ⟨fun t _ => increment_stored t ?_, ?_⟩
    · split_ifs <;> exact Function.update_self ..
    · split_ifs with hfull
      · rwa [if_neg (by omega), List.append_nil] at hlogs
      · rw [times_concat, if_pos rfl]
        rwa [if_pos (by omega)] at hlogs
  · -- what is counted for another key does not matter
    have hother : ∀ log, Tracks opts key now ⟨Function.update s.buckets (keyOf opts req)
        (some (s.increment opts (keyOf opts req) now)), log⟩ o ↔
          Tracks opts key now ⟨s.buckets, log⟩ o := by
      intro log
      constructor <;> rintro ⟨hincrement, hlogged⟩ <;> refine ⟨fun t ht => ?_, hlogged⟩ <;>
        simpa only [Limiter.increment, Function.update_of_ne (Ne.symm hkey)] using hincrement t ht
    simp only [hbypass, hkey, Bool.false_eq_true, if_false, and_false]
    split_ifs
    · exact (hother _).2 (h.later hle)
    · refine (hother _).2 ⟨(h.later hle).increment, ?_⟩
      rw [times_concat, if_neg hkey, List.append_nil]
      exact (h.later hle).logged

variable {arrivals : List Arrival}

lemma tracks_run (opts : RateLimitOptions) (key : Text)
    (hsorted : arrivals.Pairwise fun a b => a.now ≤ b.now)
    (hclock : ∀ a ∈ arrivals, a.now ≤ clock) :
    Tracks opts key clock (run opts arrivals) (fill opts key arrivals) := by
  induction arrivals using List.reverseRecOn generalizing clock with
  | nil => exact ⟨fun _ _ => rfl, rfl⟩
  | append_singleton before a ih =>
    obtain ⟨hbefore, -, hlast⟩ := List.pairwise_append.1 hsorted
    have hs : Tracks opts key a.now (run opts before) (fill opts key before) :=
      ih hbefore fun b hb => hlast b hb a List.mem_cons_self
    rw [run_concat, fill_concat]
    refine Tracks.later ?_ (hclock a (by simp))
    cases a with
    | request now req => exact hs.handle le_rfl req
    | purge now =>
      exact ⟨fun t ht => (increment_purgeExpired ht).trans (hs.increment t ht), hs.logged⟩

/-! ### The documented window -/

/-- What `RateLimitOptions` documents: in no interval of the window's length are more than `max`
requests of a key let through, and a request is refused only if so many were let through in the
window before it. -/
structure RollingWindow (opts : RateLimitOptions) (arrivals : List Arrival) : Prop where
  bounded : ∀ key t, within key t opts.windowMs (run opts arrivals).passed ≤ opts.max
  justified : ∀ before now req, before ++ [.request now req] <+: arrivals →
    ((run opts before).handle opts now req).1 = false →
      opts.max ≤ (run opts before).passed.countP fun p =>
        decide (p.1 = keyOf opts req ∧ now ≤ p.2 + opts.windowMs)

/-- A bucket lets its first `max` requests through.  If these are `max` in the bucket before, the
`j`-th request of a bucket comes at least a window after the `j`-th of them; if they are fewer,
after the one that is by so many places earlier. -/
def NothingForgotten (opts : RateLimitOptions) (arrivals : List Arrival) : Prop :=
  ∀ before now req, before ++ [.request now req] <+: arrivals → bypasses opts req = false →
    ∀ b, b = Fill.add opts.windowMs now (fill opts (keyOf opts req) before) →
      b.current.length ≤ opts.max →
        ∀ i t, (b.previous.take opts.max)[i]? = some t →
          i + 1 + opts.max = b.current.length + (b.previous.take opts.max).length →
            t + opts.windowMs ≤ now

/-- A refused request has a full bucket, which was opened at most a window ago. -/
lemma Tracks.justified {s : Limiter} {o : Option Fill} {req : ClientRequest}
    (h : Tracks opts (keyOf opts req) now s o) (hrefused : (s.handle opts now req).1 = false) :
    opts.max ≤ s.passed.countP fun p =>
      decide (p.1 = keyOf opts req ∧ now ≤ p.2 + opts.windowMs) := by
  have hfull : opts.max < (Fill.add opts.windowMs now o).current.length := by
    by_contra hle
    have hcount := h.increment now le_rfl
    by_cases hbypass : bypasses opts req = true
    · simp [Limiter.handle, hbypass] at hrefused
    · simp [Limiter.handle, hbypass, hcount, hle] at hrefused
  rw [← countP_times _ fun t => now ≤ t + opts.windowMs]
  cases o with
  | none =>
    have hone : opts.max < 1 := hfull
    omega
  | some b =>
    by_cases hjoins : now ≤ b.start + opts.windowMs
    · have hlong : opts.max ≤ b.current.length := by
        simp only [Fill.add, hjoins, if_true, Fill.current, List.length_cons, List.length_append,
          List.length_nil] at hfull ⊢
        omega
      have hall : ∀ t ∈ b.current.take opts.max, decide (now ≤ t + opts.windowMs) = true := by
        intro t ht
        have hspan := (h.logged.span t (List.mem_of_mem_take ht)).1
        exact decide_eq_true (by omega)
      obtain ⟨older, hts, -⟩ := h.logged.passed
      rw [hts, List.countP_append, List.countP_append, List.countP_eq_length.2 hall,
        List.length_take, min_eq_left hlong]
      omega
    · have hone : opts.max < 1 := by simpa [Fill.add, hjoins, Fill.current] using hfull
      omega

lemma passed_step (opts : RateLimitOptions) (s : Limiter) (a : Arrival) :
    (s.step opts a).passed = s.passed ∨
      ∃ now req, a = .request now req ∧ bypasses opts req = false ∧
        (s.increment opts (keyOf opts req) now).count ≤ opts.max ∧
        (s.step opts a).passed = s.passed ++ [(keyOf opts req, now)] := by
  cases a with
  | purge now => exact .inl rfl
  | request now req =>
    simp only [Limiter.step, Limiter.handle]
    split_ifs with hbypass hfull
    · exact .inl rfl
    · exact .inl rfl
    · exact .inr ⟨now, req, rfl, by simpa using hbypass, by omega, rfl⟩

lemma passed_prefix (opts : RateLimitOptions) (before after : List Arrival) :
    (run opts before).passed <+: (run opts (before ++ after)).passed := by
  induction after using List.reverseRecOn with
  | nil => rw [List.append_nil]
  | append_singleton after a ih =>
    rw [← List.append_assoc, run_concat]
    rcases passed_step opts (run opts (before ++ after)) a with h | ⟨now, req, -, -, -, h⟩
    · rw [h]
      exact ih
    · rw [h]
      exact ih.trans (List.prefix_append _ _)

/-- Less than a window ago requests were let through in the two buckets only. -/
lemma Fill.Logs.recent_le {ts : List ℕ} {b : Fill} (h : b.Logs opts now ts) :
    ts.countP (fun t => decide (now < t + opts.windowMs)) ≤
      (b.previous.take opts.max).countP (fun t => decide (now < t + opts.windowMs)) +
        b.current.length := by
  obtain ⟨older, rfl, holder⟩ := h.passed
  have hstart := (h.span b.start List.mem_cons_self).2.2
  have hnone : older.countP (fun t => decide (now < t + opts.windowMs)) = 0 := by
    refine List.countP_eq_zero.2 fun t ht => ?_
    have hold := holder t ht
    simp only [decide_eq_true_eq]
    omega
  rw [List.countP_append, List.countP_append, hnone, Nat.zero_add]
  exact Nat.add_le_add_left (List.countP_le_length.trans (List.length_take_le' _ _)) _

/-- An interval has at most what the two buckets have when its last request comes. -/
lemma within_le_of_fill {limit : ℕ} (hsorted : arrivals.Pairwise fun a b => a.now ≤ b.now)
    (h : ∀ before now req, before ++ [.request now req] <+: arrivals → bypasses opts req = false →
      ∀ b, b = Fill.add opts.windowMs now (fill opts (keyOf opts req) before) →
        b.previous.Pairwise (· ≤ ·) → b.current.length ≤ opts.max →
          (b.previous.take opts.max).countP (fun t => decide (now < t + opts.windowMs)) +
            b.current.length ≤ limit)
    (key : Text) (t : ℕ) : within key t opts.windowMs (run opts arrivals).passed ≤ limit := by
  induction arrivals using List.reverseRecOn with
  | nil => exact Nat.zero_le _
  | append_singleton before a ih =>
    obtain ⟨hbefore, -, hlast⟩ := List.pairwise_append.1 hsorted
    have hih := ih hbefore fun b now req hb =>
      h b now req (hb.trans (List.prefix_append _ _))
    rw [run_concat]
    rcases passed_step opts (run opts before) a with heq | ⟨now, req, rfl, hbypass, hroom, heq⟩
    · rw [heq]
      exact hih
    rw [heq]
    by_cases hin : keyOf opts req = key ∧ t ≤ now ∧ now < t + opts.windowMs
    · obtain ⟨rfl, -, hlt⟩ := hin
      have hs : Tracks opts (keyOf opts req) now (run opts before) _ :=
        tracks_run opts _ hbefore fun b hb => hlast b hb _ List.mem_cons_self
      have hlogs := hs.logged.add le_rfl
      rw [hs.increment now le_rfl] at hroom
      rw [if_pos hroom] at hlogs
      calc within (keyOf opts req) t opts.windowMs _
          ≤ (times (keyOf opts req) (run opts before).passed ++ [now]).countP
              fun t => decide (now < t + opts.windowMs) := by
            rw [within, ← countP_times _ fun x => t ≤ x ∧ x < t + opts.windowMs, times_concat,
              if_pos rfl]
            refine List.countP_mono_left fun x _ hx => decide_eq_true ?_
            have hfrom := (of_decide_eq_true hx).1
            omega
        _ ≤ _ := hlogs.recent_le
        _ ≤ limit := h before now req List.prefix_rfl hbypass _ rfl hlogs.sorted hroom
    · simpa [within, List.countP_append, hin] using hih

lemma countP_le_of_sorted {l : List ℕ} (hl : l.Pairwise (· ≤ ·)) {w k : ℕ}
    (h : ∀ i t, l[i]? = some t → i + 1 + k = l.length → t + w ≤ now) :
    l.countP (fun t => decide (now < t + w)) ≤ k := by
  induction l with
  | nil => exact Nat.zero_le _
  | cons a l ih =>
    obtain ⟨ha, hl⟩ := List.pairwise_cons.1 hl
    by_cases hlate : now < a + w
    · by_contra hmore
      have hlength := List.countP_le_length (p := fun t => decide (now < t + w)) (l := a :: l)
      obtain ⟨t, ht⟩ : ∃ t, (a :: l)[(a :: l).length - 1 - k]? = some t :=
        ⟨_, List.getElem?_eq_getElem (by simp only [List.length_cons]; omega)⟩
      have hlast := h _ t ht (by omega)
      have hle : a ≤ t := by
        rcases List.mem_cons.1 (List.mem_of_getElem? ht) with rfl | hmem
        · exact le_rfl
        · exact ha t hmem
      omega
    · rw [List.countP_cons_of_neg (by simpa using hlate)]
      refine ih hl fun i t hi hplace => h (i + 1) t hi ?_
      rw [List.length_cons]
      omega

lemma length_sub_le_countP {l : List ℕ} (hl : l.Pairwise (· ≤ ·)) {i t : ℕ}
    (hi : l[i]? = some t) {p : ℕ → Bool} (hp : ∀ t' ∈ l, t ≤ t' → p t' = true) :
    l.length - i ≤ l.countP p := by
  obtain ⟨hlt, rfl⟩ := List.getElem?_eq_some_iff.1 hi
  have hrising := hl.sublist (List.drop_sublist i l)
  rw [List.drop_eq_getElem_cons hlt] at hrising
  have hall : ∀ t' ∈ l.drop i, p t' = true := by
    intro t' ht'
    refine hp t' (List.mem_of_mem_drop ht') ?_
    rw [List.drop_eq_getElem_cons hlt] at ht'
    rcases List.mem_cons.1 ht' with rfl | ht'
    · exact le_rfl
    · exact (List.pairwise_cons.1 hrising).1 t' ht'
  rw [← List.length_drop, ← List.countP_eq_length.2 hall]
  exact (List.drop_sublist i l).countP_le

/-- Where every interval keeps to the limit nothing is forgotten. -/
lemma nothingForgotten_of_bounded (hsorted : arrivals.Pairwise fun a b => a.now ≤ b.now)
    (h : ∀ key t, within key t opts.windowMs (run opts arrivals).passed ≤ opts.max) :
    NothingForgotten opts arrivals := by
  rintro before now req ⟨after, rfl⟩ hbypass b rfl hroom i t hi hplace
  by_contra hlate
  obtain ⟨hbefore, -, hlast⟩ := List.pairwise_append.1 (List.pairwise_append.1 hsorted).1
  have hs : Tracks opts (keyOf opts req) now (run opts before) _ :=
    tracks_run opts _ hbefore fun b hb => hlast b hb _ List.mem_cons_self
  have hlogs := hs.logged.add le_rfl
  rw [if_pos hroom] at hlogs
  generalize hb : Fill.add opts.windowMs now (fill opts (keyOf opts req) before) = b at *
  have hstart := (hlogs.span b.start List.mem_cons_self).2.2
  have ht := hlogs.apart t (List.mem_of_mem_take (List.mem_of_getElem? hi))
  -- the two buckets are in the window that ends with the request
  set p : ℕ → Bool := fun x => decide (now + 1 - opts.windowMs ≤ x ∧
    x < now + 1 - opts.windowMs + opts.windowMs) with hp
  have hprevious : (b.previous.take opts.max).length - i ≤ (b.previous.take opts.max).countP p := by
    refine length_sub_le_countP (hlogs.sorted.sublist (List.take_sublist _ _)) hi fun x hx hle => ?_
    have hx' := hlogs.apart x (List.mem_of_mem_take hx)
    exact decide_eq_true ⟨by omega, by omega⟩
  have hcurrent : (b.current.take opts.max).countP p = b.current.length := by
    rw [List.take_of_length_le hroom]
    refine List.countP_eq_length.2 fun x hx => ?_
    obtain ⟨hfrom, -, hto⟩ := hlogs.span x hx
    exact decide_eq_true ⟨by omega, by omega⟩
  have hpassed : (run opts (before ++ [.request now req])).passed =
      (run opts before).passed ++ [(keyOf opts req, now)] := by
    have hcount := hs.increment now le_rfl
    rw [hb] at hcount
    rw [run_concat]
    simp [Limiter.step, Limiter.handle, hbypass, hcount, Nat.not_lt.2 hroom]
  have hmore := passed_prefix opts (before ++ [.request now req]) after
  rw [hpassed] at hmore
  have hwindow := hmore.sublist.countP_le.trans
    (h (keyOf opts req) (now + 1 - opts.windowMs))
  obtain ⟨older, hts, -⟩ := hlogs.passed
  rw [← countP_times _ fun x => now + 1 - opts.windowMs ≤ x ∧
    x < now + 1 - opts.windowMs + opts.windowMs, times_concat, if_pos rfl, hts,
    List.countP_append, List.countP_append, ← hp, hcurrent] at hwindow
  omega

/-- **The window of the rate limiter.**  The limit holds as documented exactly where no bucket
forgets requests that are less than a window old. -/
theorem rate_limit_window_iff (opts : RateLimitOptions) (traffic : Traffic) :
    RollingWindow opts traffic.arrivals ↔ NothingForgotten opts traffic.arrivals := by
  constructor
  · exact fun h => nothingForgotten_of_bounded traffic.inOrder h.bounded
  · intro h
    refine ⟨within_le_of_fill traffic.inOrder ?_, ?_⟩
    · intro before now req hbefore hbypass b hb hsorted hroom
      have hcount := countP_le_of_sorted (hsorted.sublist (List.take_sublist opts.max _))
        (k := opts.max - b.current.length) fun i t hi hplace =>
          h before now req hbefore hbypass b hb hroom i t hi (by omega)
      omega
    · rintro before now req ⟨after, hafter⟩ hrefused
      have hsorted := traffic.inOrder
      rw [← hafter] at hsorted
      obtain ⟨hbefore, -, hlast⟩ := List.pairwise_append.1 (List.pairwise_append.1 hsorted).1
      exact (tracks_run opts _ hbefore fun b hb => hlast b hb _ List.mem_cons_self).justified
        hrefused

/-- The second request comes when its bucket runs out, and the next bucket lets two more through. -/
def burst : List Arrival :=
  [0, 10, 11, 12].map fun now => .request now ⟨"10.0.0.1".toList, none⟩

lemma inOrder_burst : burst.Pairwise fun a b => a.now ≤ b.now := by
  simp [burst, Arrival.now]

theorem rate_limit_window_iff_burst : ¬ NothingForgotten ⟨10, 2, "api".toList, []⟩ burst := by
  intro h
  have hrolling := (rate_limit_window_iff _ ⟨burst, inOrder_burst⟩).2 h
  exact absurd (hrolling.bounded "api:10.0.0.1".toList 10) (by decide +kernel)

/-- Two requests each ten milliseconds. -/
theorem rate_limit_window_exceeded : ¬ RollingWindow ⟨10, 2, "api".toList, []⟩ burst := by
  intro h
  exact absurd (h.bounded "api:10.0.0.1".toList 10) (by decide +kernel)

/-- **No window lets more than twice the limit through**, whenever buckets run out and are
removed. -/
theorem rate_limit_twice (opts : RateLimitOptions) (traffic : Traffic) (key : Text) (t : ℕ) :
    within key t opts.windowMs (run opts traffic.arrivals).passed ≤ 2 * opts.max := by
  refine within_le_of_fill traffic.inOrder ?_ key t
  intro before now req _ _ b _ _ hroom
  have hprevious := (List.countP_le_length (p := fun t => decide (now < t + opts.windowMs))).trans
    (List.length_take_le opts.max b.previous)
  omega

theorem rate_limit_twice_burst :
    let passed := (run ⟨10, 2, "api".toList, []⟩ burst).passed
    within "api:10.0.0.1".toList 10 10 passed = 3 ∧
      within "api:10.0.0.1".toList 10 10 passed ≤ 2 * 2 :=
  ⟨by decide +kernel, rate_limit_twice ⟨10, 2, "api".toList, []⟩ ⟨burst, inOrder_burst⟩ _ _⟩

end WaffleFinance.Coordinator
