import DevConsole.Scheduler
import Mathlib.Data.List.Induction
import Mathlib.Data.List.Sort

/-!
# The timers over a run

`Scheduler.serve` sets, cancels and expires timers as it is asked to, and gives the answers. A timer
is told apart from all others by the place of the request that sets it (`Placed`). `Waits` says that
none of the later requests takes it away, `TakenAt` that a request is the first to do so.
`Punctual` states the answers in these terms: what an expiry gives are the timers that it is the
first to take, in the order of `Precedes`, and so on for the other requests; every run has such
answers (`serve_punctual`).
-/

namespace DevConsole.Scheduler

/-! ## Requests -/

/-- What is asked about timers. -/
inductive Request where
  /-- Sets a timer. -/
  | arm (now : Instant) (seconds : Nat)
  | cancel
  | expire (now : Instant)
  deriving DecidableEq, Repr

/-- What is answered. -/
inductive Answer where
  | armed (accepted : Bool)
  | canceled (count : Nat)
  /-- The durations of the timers that have run out. -/
  | expired (seconds : List Nat)
  deriving DecidableEq, Repr

def answer (s : Scheduler) : Request → Answer × Scheduler
  | .arm now seconds =>
    match s.addTimer? now seconds with
    | some s => (.armed true, s)
    | none => (.armed false, s)
  | .cancel => (.canceled s.cancelTimers.1, s.cancelTimers.2)
  | .expire now => (.expired (s.expireTimers now).1, (s.expireTimers now).2)

/-- Answers requests, one after the other. -/
def serve (s : Scheduler) : List Request → List Answer × Scheduler
  | [] => ([], s)
  | r :: rest =>
    let (a, s) := s.answer r
    let (answers, s) := serve s rest
    (a :: answers, s)

namespace Request

/-- The timer that a request sets: it is due when its seconds have gone by, which has to be a time
that the clock reaches. -/
def timer? : Request → Option Timer
  | .arm now seconds =>
    if (now.nanos + Instant.second * seconds) / Instant.second ≤ Instant.lastSecond then
      some ⟨⟨now.nanos + Instant.second * seconds⟩, seconds⟩
    else none
  | .cancel | .expire _ => none

/-- Whether a request takes away a timer that has been set before. -/
def takes : Request → Timer → Bool
  | .arm _ _, _ => false
  | .cancel, _ => true
  | .expire now, t => isDue now t

end Request

/-! ## Places -/

/-- A timer with the place of the request that has set it. -/
structure Placed where
  timer : Timer
  place : Nat
  deriving DecidableEq, Repr

/-- A timer runs out before another one: it is due earlier, or at the same time and was set
earlier. -/
def Precedes (p q : Placed) : Prop :=
  p.timer.due.nanos < q.timer.due.nanos ∨ p.timer.due = q.timer.due ∧ p.place < q.place

/-- The timer has been set at its place. -/
def IsSet (rs : List Request) (p : Placed) : Prop := rs[p.place]?.bind Request.timer? = some p.timer

/-- The timer has been set, and nothing that was asked later has taken it away. -/
structure Waits (rs : List Request) (p : Placed) : Prop where
  isSet : IsSet rs p
  kept : ∀ k r, p.place < k → rs[k]? = some r → r.takes p.timer = false

/-- The timer has been set, and the request at place `j` is the first to take it away. -/
structure TakenAt (rs : List Request) (p : Placed) (j : Nat) : Prop where
  isSet : IsSet rs p
  later : p.place < j
  takes : ∃ r, rs[j]? = some r ∧ r.takes p.timer = true
  first : ∀ k r, p.place < k → k < j → rs[k]? = some r → r.takes p.timer = false

variable {rs : List Request} {r : Request} {s : Scheduler} {p : Placed} {i j : Nat}

theorem getElem?_append_singleton_iff {k : Nat} {q : Request} :
    (rs ++ [r])[k]? = some q ↔ rs[k]? = some q ∨ k = rs.length ∧ r = q := by
  grind

theorem isSet_iff : IsSet rs p ↔ ∃ q, rs[p.place]? = some q ∧ q.timer? = some p.timer :=
  Option.bind_eq_some_iff

theorem isSet_append_singleton_iff :
    IsSet (rs ++ [r]) p ↔ IsSet rs p ∨ p.place = rs.length ∧ r.timer? = some p.timer := by
  simp only [isSet_iff, getElem?_append_singleton_iff]
  constructor
  · rintro ⟨q, hq | ⟨hplace, rfl⟩, ht⟩
    · exact .inl ⟨q, hq, ht⟩
    · exact .inr ⟨hplace, ht⟩
  · rintro (⟨q, hq, ht⟩ | ⟨hplace, ht⟩)
    · exact ⟨q, .inl hq, ht⟩
    · exact ⟨r, .inr ⟨hplace, rfl⟩, ht⟩

theorem IsSet.place_lt (h : IsSet rs p) : p.place < rs.length := by
  obtain ⟨q, hq, -⟩ := isSet_iff.mp h
  exact (List.getElem?_eq_some_iff.mp hq).1

theorem waits_append_singleton_iff :
    Waits (rs ++ [r]) p ↔ Waits rs p ∧ r.takes p.timer = false ∨
      p.place = rs.length ∧ r.timer? = some p.timer := by
  constructor
  · rintro ⟨hset, hkept⟩
    rcases isSet_append_singleton_iff.mp hset with hset | hnew
    · refine .inl ⟨⟨hset, fun k q hk hq => ?_⟩, ?_⟩
      · exact hkept k q hk (getElem?_append_singleton_iff.mpr (.inl hq))
      · exact hkept rs.length r hset.place_lt (getElem?_append_singleton_iff.mpr (.inr ⟨rfl, rfl⟩))
    · exact .inr hnew
  · rintro (⟨⟨hset, hkept⟩, hr⟩ | ⟨hplace, ht⟩)
    · refine ⟨isSet_append_singleton_iff.mpr (.inl hset), fun k q hk hq => ?_⟩
      rcases getElem?_append_singleton_iff.mp hq with hq | ⟨-, rfl⟩
      · exact hkept k q hk hq
      · exact hr
    · refine ⟨isSet_append_singleton_iff.mpr (.inr ⟨hplace, ht⟩), fun k q hk hq => ?_⟩
      have hlt := (List.getElem?_eq_some_iff.mp hq).1
      simp only [List.length_append, List.length_singleton] at hlt
      omega

/-- A request takes the timers that wait when it is made. -/
theorem takenAt_iff (h : rs[j]? = some r) :
    TakenAt rs p j ↔ Waits (rs.take j) p ∧ r.takes p.timer = true := by
  have htake : ∀ {k : Nat} {q : Request}, (rs.take j)[k]? = some q ↔ k < j ∧ rs[k]? = some q := by
    simp [List.getElem?_take]
  constructor
  · rintro ⟨hset, hlater, ⟨q, hq, htakes⟩, hfirst⟩
    obtain ⟨q', hq', ht⟩ := isSet_iff.mp hset
    refine ⟨⟨isSet_iff.mpr ⟨q', htake.mpr ⟨hlater, hq'⟩, ht⟩, fun k q hk hq => ?_⟩, ?_⟩
    · exact hfirst k q hk (htake.mp hq).1 (htake.mp hq).2
    · rwa [Option.some.inj (h.symm.trans hq)]
  · rintro ⟨⟨hset, hkept⟩, htakes⟩
    obtain ⟨q, hq, ht⟩ := isSet_iff.mp hset
    exact ⟨isSet_iff.mpr ⟨q, (htake.mp hq).2, ht⟩, (htake.mp hq).1, ⟨r, h, htakes⟩,
      fun k q hk hkj hq => hkept k q hk (htake.mpr ⟨hkj, hq⟩)⟩

theorem TakenAt.unique (hi : TakenAt rs p i) (hj : TakenAt rs p j) : i = j := by
  obtain ⟨q, hq, htakes⟩ := hi.takes
  obtain ⟨q', hq', htakes'⟩ := hj.takes
  rcases Nat.lt_trichotomy i j with h | h | h
  · rw [hj.first i q hi.later h hq] at htakes
    cases htakes
  · exact h
  · rw [hi.first j q' hj.later h hq'] at htakes'
    cases htakes'

/-- A timer that has been set waits, or one request has taken it away. -/
theorem IsSet.fate (h : IsSet rs p) :
    Waits rs p ∧ (∀ j, ¬TakenAt rs p j) ∨ ¬Waits rs p ∧ ∃! j, TakenAt rs p j := by
  by_cases hwaits : Waits rs p
  · refine .inl ⟨hwaits, fun j hj => ?_⟩
    obtain ⟨q, hq, htakes⟩ := hj.takes
    rw [hwaits.kept j q hj.later hq] at htakes
    cases htakes
  · have htaken : ∃ k, p.place < k ∧ ∃ q, rs[k]? = some q ∧ q.takes p.timer = true := by
      by_contra hnone
      refine hwaits ⟨h, fun k q hk hq => Bool.eq_false_iff.mpr fun htakes => ?_⟩
      exact hnone ⟨k, hk, q, hq, htakes⟩
    classical
    obtain ⟨hlater, htakes⟩ := Nat.find_spec htaken
    refine .inr ⟨hwaits, Nat.find htaken, ⟨h, hlater, htakes, fun k q hk hlt hq => ?_⟩,
      fun j hj => hj.unique ⟨h, hlater, htakes, fun k q hk hlt hq => ?_⟩⟩
    all_goals
      exact Bool.eq_false_iff.mpr fun htakes => Nat.find_min htaken hlt ⟨hk, q, hq, htakes⟩

/-! ## Order -/

/-- A timer is due no later than another one. -/
def notAfter (p q : Placed) : Bool := p.timer.due.nanos ≤ q.timer.due.nanos

theorem notAfter_trans (p q r : Placed) (hpq : notAfter p q = true) (hqr : notAfter q r = true) :
    notAfter p r = true := by
  simp only [notAfter, decide_eq_true_eq] at *
  omega

theorem notAfter_total (p q : Placed) : (notAfter p q || notAfter q p) = true := by
  simp only [notAfter, Bool.or_eq_true, decide_eq_true_eq]
  omega

/-- The timers by the time that they are due. -/
def byDue (w : List Placed) : List Placed := w.mergeSort notAfter

theorem mem_byDue {w : List Placed} : p ∈ byDue w ↔ p ∈ w := List.mem_mergeSort

theorem precedes_of_notAfter {q : Placed} (h : notAfter p q = true) (hplace : p.place < q.place) :
    Precedes p q := by
  simp only [notAfter, decide_eq_true_eq] at h
  rcases Nat.lt_or_eq_of_le h with hlt | heq
  · exact .inl hlt
  · exact .inr ⟨congrArg Instant.mk heq, hplace⟩

/-- Timers that are due at the same time stay in the order of their places. -/
theorem pairwise_byDue {w : List Placed} (h : w.Pairwise (·.place < ·.place)) :
    (byDue w).Pairwise Precedes := by
  induction w with
  | nil => simp [byDue]
  | cons p w ih =>
    obtain ⟨hplace, hw⟩ := List.pairwise_cons.mp h
    obtain ⟨before, after, hcons, hrest, hbefore⟩ :=
      List.mergeSort_cons notAfter_trans notAfter_total p w
    have hordered := List.pairwise_mergeSort notAfter_trans notAfter_total (p :: w)
    have hmem : ∀ q, q ∈ before ++ after → q ∈ w := fun q hq => by
      rw [← hrest] at hq
      exact List.mem_mergeSort.mp hq
    have hsorted := ih hw
    rw [byDue, hrest, List.pairwise_append] at hsorted
    rw [hcons, List.pairwise_append, List.pairwise_cons] at hordered
    obtain ⟨hpre, hpost, hcross⟩ := hsorted
    rw [byDue, hcons, List.pairwise_append, List.pairwise_cons]
    refine ⟨hpre, ⟨fun q hq => ?_, hpost⟩, fun q hq q' hq' => ?_⟩
    · have hafter := hmem q (List.mem_append_right _ hq)
      exact precedes_of_notAfter (hordered.2.1.1 q hq) (hplace q hafter)
    · rcases List.mem_cons.mp hq' with rfl | hq'
      -- what comes before the new first timer is due earlier
      · have hearlier := hbefore q hq
        simp only [notAfter, Bool.not_eq_true', decide_eq_false_iff_not, Nat.not_le] at hearlier
        exact .inl hearlier
      · exact hcross q hq q' hq'

/-! ## Answers -/

/-- The timers that wait after the requests, in the order they were set. -/
structure Lists (rs : List Request) (w : List Placed) : Prop where
  sorted : w.Pairwise (·.place < ·.place)
  mem_iff : ∀ p, p ∈ w ↔ Waits rs p

theorem Lists.nodup {w : List Placed} (h : Lists rs w) : w.Nodup :=
  h.sorted.imp fun hlt heq => Nat.ne_of_lt hlt (congrArg Placed.place heq)

theorem lists_nil : Lists [] [] where
  sorted := .nil
  mem_iff _ := iff_of_false List.not_mem_nil fun h => absurd h.isSet.place_lt (Nat.not_lt_zero _)

theorem Lists.append_singleton {w : List Placed} (h : Lists rs w) (r : Request) :
    Lists (rs ++ [r])
      (w.filter (!r.takes ·.timer) ++ r.timer?.toList.map fun t => ⟨t, rs.length⟩) where
  sorted := by
    refine List.pairwise_append.mpr ⟨h.sorted.filter _, ?_, fun p hp q hq => ?_⟩
    · cases r.timer? <;> simp
    · obtain ⟨t, -, rfl⟩ := List.mem_map.mp hq
      exact ((h.mem_iff p).mp (List.mem_filter.mp hp).1).isSet.place_lt
  mem_iff p := by
    rw [waits_append_singleton_iff, List.mem_append, List.mem_filter, h.mem_iff, Bool.not_eq_true',
      List.mem_map]
    refine or_congr_right ⟨?_, fun ⟨hplace, ht⟩ => ⟨p.timer, by simp [ht], by rw [← hplace]⟩⟩
    rintro ⟨t, ht, rfl⟩
    exact ⟨rfl, Option.mem_toList.mp ht⟩

theorem answer_arm (s : Scheduler) (now : Instant) (seconds : Nat) :
    s.answer (.arm now seconds) =
      if (now.nanos + Instant.second * seconds) / Instant.second ≤ Instant.lastSecond then
        (.armed true,
          { s with timers := s.timers ++ [⟨⟨now.nanos + Instant.second * seconds⟩, seconds⟩] })
      else (.armed false, s) := by
  by_cases h : (now.nanos + Instant.second * seconds) / Instant.second ≤ Instant.lastSecond <;>
    simp [answer, addTimer?, Instant.add?, h]

/-- What a request does to the timers. -/
theorem timers_answer (s : Scheduler) (r : Request) :
    (s.answer r).2.timers = s.timers.filter (!r.takes ·) ++ r.timer?.toList := by
  cases r with
  | arm now seconds =>
    rw [answer_arm]
    simp only [Request.timer?, Request.takes]
    split <;> simp
  | cancel => simp [answer, cancelTimers, Request.takes, Request.timer?]
  | expire now => simp [answer, expireTimers, Request.takes, Request.timer?]

theorem serve_append_singleton (s : Scheduler) (rs : List Request) (r : Request) :
    (serve s (rs ++ [r])).2 = ((serve s rs).2.answer r).2 := by
  induction rs generalizing s with
  | nil => rfl
  | cons q rest ih => exact ih _

/-- The answer to a request is that of the scheduler as it is then. -/
theorem getElem?_serve (s : Scheduler) (h : rs[j]? = some r) :
    (serve s rs).1[j]? = some ((serve s (rs.take j)).2.answer r).1 := by
  induction rs generalizing s j with
  | nil => simp at h
  | cons q rest ih =>
    cases j with
    | zero =>
      obtain rfl := Option.some.inj h
      rfl
    | succ j => exact ih _ h

/-- The scheduler has the timers that wait. -/
theorem exists_lists (h : s.timers = []) (rs : List Request) :
    ∃ w, Lists rs w ∧ (serve s rs).2.timers = w.map Placed.timer := by
  induction rs using List.reverseRecOn with
  | nil => exact ⟨[], lists_nil, h⟩
  | append_singleton rs r ih =>
    obtain ⟨w, hw, htimers⟩ := ih
    refine ⟨_, hw.append_singleton r, ?_⟩
    rw [serve_append_singleton, timers_answer, htimers, List.filter_map, List.map_append,
      List.map_map]
    congr 1
    exact (List.map_id _).symm

theorem expireTimers_fst {w : List Placed} (h : s.timers = w.map Placed.timer) (now : Instant) :
    (s.expireTimers now).1 = (byDue (w.filter (isDue now ·.timer))).map (·.timer.seconds) := by
  have hsort : (byDue (w.filter (isDue now ·.timer))).map Placed.timer =
      ((w.filter (isDue now ·.timer)).map Placed.timer).mergeSort
        fun t u => t.due.nanos ≤ u.due.nanos :=
    List.map_mergeSort fun _ _ _ _ => rfl
  have hmap : (byDue (w.filter (isDue now ·.timer))).map (·.timer.seconds) =
      ((byDue (w.filter (isDue now ·.timer))).map Placed.timer).map Timer.seconds :=
    List.map_map.symm
  rw [expireTimers, h, List.filter_map, hmap, hsort]
  rfl

/-! ## Runs -/

/-- What the answers to requests are, and what is left. -/
structure Punctual (rs : List Request) (answers : List Answer) (s : Scheduler) : Prop where
  /-- A timer is accepted exactly if the clock reaches the time when it is due. -/
  armed : ∀ (j : Nat) (now : Instant) (seconds : Nat), rs[j]? = some (.arm now seconds) →
    answers[j]? = some (.armed
      (decide ((now.nanos + Instant.second * seconds) / Instant.second ≤ Instant.lastSecond)))
  /-- An expiry gives the timers that it is the first to take, in their order. -/
  expired : ∀ (j : Nat) (now : Instant), rs[j]? = some (.expire now) → ∃ fired : List Placed,
    answers[j]? = some (.expired (fired.map (·.timer.seconds))) ∧ fired.Pairwise Precedes ∧
      ∀ p, p ∈ fired ↔ TakenAt rs p j
  /-- Canceling counts the timers that it is the first to take. -/
  canceled : ∀ j : Nat, rs[j]? = some .cancel → ∃ dropped : List Placed,
    answers[j]? = some (.canceled dropped.length) ∧ dropped.Nodup ∧
      ∀ p, p ∈ dropped ↔ TakenAt rs p j
  /-- The rest is pending. -/
  pending : ∃ left : List Placed, s.pendingTimers = left.length ∧ left.Nodup ∧
    ∀ p, p ∈ left ↔ Waits rs p
  /-- A timer that has been set waits, or is taken once. -/
  fate : ∀ p, IsSet rs p →
    Waits rs p ∧ (∀ j, ¬TakenAt rs p j) ∨ ¬Waits rs p ∧ ∃! j, TakenAt rs p j

theorem punctual_serve (h : s.timers = []) (rs : List Request) :
    Punctual rs (serve s rs).1 (serve s rs).2 where
  armed j now seconds hj := by
    rw [getElem?_serve s hj, answer_arm]
    split <;> simp_all
  expired j now hj := by
    obtain ⟨w, hw, htimers⟩ := exists_lists h (rs.take j)
    have hordered := pairwise_byDue (hw.sorted.filter (isDue now ·.timer))
    refine ⟨byDue (w.filter (isDue now ·.timer)), ?_, hordered, fun p => ?_⟩
    · rw [getElem?_serve s hj, answer, expireTimers_fst htimers]
    · rw [mem_byDue, List.mem_filter, hw.mem_iff, takenAt_iff hj]
      rfl
  canceled j hj := by
    obtain ⟨w, hw, htimers⟩ := exists_lists h (rs.take j)
    refine ⟨w, ?_, hw.nodup, fun p => ?_⟩
    · rw [getElem?_serve s hj, answer, cancelTimers, htimers, List.length_map]
    · rw [hw.mem_iff, takenAt_iff hj]
      exact (and_iff_left rfl).symm
  pending := by
    obtain ⟨w, hw, htimers⟩ := exists_lists h rs
    exact ⟨w, by rw [pendingTimers, htimers, List.length_map], hw.nodup, hw.mem_iff⟩
  fate _ := IsSet.fate

/-! ## Splitting an expiry -/

instance : Std.Irrefl Precedes where
  irrefl p h := by
    rcases h with h | ⟨-, h⟩
    · exact Nat.lt_irrefl _ h
    · exact Nat.lt_irrefl _ h

instance : Std.Antisymm Precedes where
  antisymm p q hpq hqp := by
    exfalso
    rcases hpq with h | ⟨heq, h⟩ <;> rcases hqp with h' | ⟨heq', h'⟩
    · omega
    · rw [heq'] at h
      omega
    · rw [heq] at h'
      omega
    · omega

theorem isDue_of_le {t₁ t₂ : Instant} {t : Timer} (h : t₁.nanos ≤ t₂.nanos)
    (ht : isDue t₁ t = true) : isDue t₂ t = true := by
  simp only [isDue, decide_eq_true_eq] at ht ⊢
  omega

/-- Those due first run out first. -/
theorem byDue_split {w : List Placed} (hw : w.Pairwise (·.place < ·.place)) {t₁ t₂ : Instant}
    (h : t₁.nanos ≤ t₂.nanos) :
    byDue (w.filter (isDue t₁ ·.timer)) ++
        byDue ((w.filter (!isDue t₁ ·.timer)).filter (isDue t₂ ·.timer)) =
      byDue (w.filter (isDue t₂ ·.timer)) := by
  refine List.Pairwise.eq_of_mem_iff (r := Precedes) (List.pairwise_append.mpr ⟨?_, ?_, ?_⟩) ?_ ?_
  · exact pairwise_byDue (hw.filter _)
  · exact pairwise_byDue ((hw.filter _).filter _)
  · intro p hp q hq
    simp only [mem_byDue, List.mem_filter, isDue, Bool.not_eq_true', decide_eq_true_eq,
      decide_eq_false_iff_not] at hp hq
    exact .inl (by omega)
  · exact pairwise_byDue (hw.filter _)
  · intro p
    simp only [List.mem_append, mem_byDue, List.mem_filter, Bool.not_eq_true']
    have hmono := isDue_of_le (t := p.timer) h
    cases hdue : isDue t₁ p.timer <;> simp_all

theorem exists_placed (ts : List Timer) :
    ∃ w : List Placed, ts = w.map Placed.timer ∧ w.Pairwise (·.place < ·.place) := by
  refine ⟨ts.zipIdx.map fun (t, i) => ⟨t, i⟩, ?_, ?_⟩
  · rw [List.map_map]
    exact (List.zipIdx_map_fst 0 ts).symm
  · have hplaces : (ts.zipIdx.map Prod.snd).Pairwise (· < ·) := by
      rw [List.zipIdx_map_snd]
      exact List.pairwise_lt_range' 1
    exact List.pairwise_map.mpr (List.pairwise_map.mp hplaces)

/-- It does not matter whether timers expire at once or in two turns. -/
theorem expireTimers_split (s : Scheduler) {t₁ t₂ : Instant} (h : t₁.nanos ≤ t₂.nanos) :
    ((s.expireTimers t₁).1 ++ ((s.expireTimers t₁).2.expireTimers t₂).1,
      ((s.expireTimers t₁).2.expireTimers t₂).2) = s.expireTimers t₂ := by
  obtain ⟨w, hw, hplaces⟩ := exists_placed s.timers
  have hleft : (s.expireTimers t₁).2.timers = (w.filter (!isDue t₁ ·.timer)).map Placed.timer := by
    have htimers : (s.expireTimers t₁).2.timers = s.timers.filter (!isDue t₁ ·) := rfl
    rw [htimers, hw, List.filter_map]
    rfl
  refine Prod.ext ?_ ?_
  · rw [expireTimers_fst hw, expireTimers_fst hw, expireTimers_fst hleft, ← List.map_append,
      byDue_split hplaces h]
  · have hpending : (s.timers.filter (!isDue t₁ ·)).filter (!isDue t₂ ·) =
        s.timers.filter (!isDue t₂ ·) := by
      rw [List.filter_filter]
      refine List.filter_congr fun t _ => ?_
      have hmono := isDue_of_le (t := t) h
      cases hdue : isDue t₁ t <;> simp_all
    exact congrArg (fun timers => ({ s with timers } : Scheduler)) hpending

/-- Every request about timers is answered as the requests before it call for: a timer that has been
set runs out once, at the first expiry that is not too early, unless it is canceled before. It does
not matter into how many turns an expiry is split. -/
theorem serve_punctual (watch : Option Watch) (rs : List Request) :
    Punctual rs (serve { watch } rs).1 (serve { watch } rs).2 ∧
      ∀ t₁ t₂ : Instant, t₁.nanos ≤ t₂.nanos →
        let early := (serve { watch } rs).2.expireTimers t₁
        let late := early.2.expireTimers t₂
        (early.1 ++ late.1, late.2) = (serve { watch } rs).2.expireTimers t₂ :=
  ⟨punctual_serve rfl rs, fun _ _ => expireTimers_split _⟩

/-- Three timers run out at once, two of them due at the same time; one is refused and one is
canceled. -/
theorem serve_punctual_ties :
    let rs : List Request :=
      [.arm ⟨0⟩ 5, .arm ⟨1000000000⟩ 4, .arm ⟨2000000000⟩ 1, .expire ⟨5000000000⟩,
       .arm ⟨5000000000⟩ 9223372036854775807, .arm ⟨6000000000⟩ 2, .cancel]
    let armed := (serve {} (rs.take 3)).2
    let early := armed.expireTimers ⟨3000000000⟩
    let late := early.2.expireTimers ⟨5000000000⟩
    (serve {} rs).1 = [.armed true, .armed true, .armed true, .expired [1, 5, 4], .armed false,
        .armed true, .canceled 1] ∧
      Punctual rs (serve {} rs).1 (serve {} rs).2 ∧
        early.1 = [1] ∧ late.1 = [5, 4] ∧ 3000000000 ≤ 5000000000 ∧
          (early.1 ++ late.1, late.2) = armed.expireTimers ⟨5000000000⟩ := by
  intro rs armed early late
  have hanswers : (serve {} rs).1 = [.armed true, .armed true, .armed true, .expired [1, 5, 4],
      .armed false, .armed true, .canceled 1] := by
    simp [rs, serve, answer, addTimer?, Instant.add?, Instant.lastSecond, Instant.second,
      expireTimers, cancelTimers, isDue, List.mergeSort]
  have hearly : early.1 = [1] := by
    simp [rs, armed, early, serve, answer, addTimer?, Instant.add?, Instant.lastSecond,
      Instant.second, expireTimers, isDue]
  have hlate : late.1 = [5, 4] := by
    simp [rs, armed, early, late, serve, answer, addTimer?, Instant.add?, Instant.lastSecond,
      Instant.second, expireTimers, isDue, List.mergeSort]
  have hle : 3000000000 ≤ 5000000000 := by decide
  exact ⟨hanswers, (serve_punctual none rs).1, hearly, hlate, hle,
    (serve_punctual none (rs.take 3)).2 ⟨3000000000⟩ ⟨5000000000⟩ hle⟩

end DevConsole.Scheduler
