import Mathlib.Algebra.Order.BigOperators.Group.List
import Mathlib.Algebra.Order.Ring.Nat
import CrFaucet.SlotRing

/-!
Owns `WindowedHashrate` of `pool_core::metrics`: the work of the last two minutes, kept in a ring
of buckets that open when a share finds the last one older than its width.

Times are nanoseconds on the clock of `Instant`, which has no first moment. Sums of work are
natural numbers; nothing here depends on where `u64` ends.

`Laid` is the invariant. It gives every share since the beginning a place, in a bucket or among
those whose bucket was overwritten, and says how far back a bucket must lie by its place in the
ring. Does not own the counters of single miners.
-/

set_option autoImplicit false

namespace CrFaucet.Metrics

/-! ### The window -/

/-- `HASHRATE_WINDOW`. -/
def hashrateWindow : Int := 120000000000

/-- `BUCKET`. -/
def bucketWidth : Int := 5000000000

def numBuckets : Nat := 24

structure Bucket where
  start : Int
  work : Nat
deriving DecidableEq

structure WindowedHashrate where
  buckets : SlotRing numBuckets Bucket

/-- `Instant::duration_since`, which is zero for a later moment. -/
def durationSince (now earlier : Int) : Int := max (now - earlier) 0

namespace WindowedHashrate

def new (created : Int) : WindowedHashrate where
  buckets := .filled (by decide) ⟨created - hashrateWindow, 0⟩

variable (window : WindowedHashrate)

def observe (work : Nat) (now : Int) : WindowedHashrate :=
  let head := window.buckets.current
  if durationSince now head.start < bucketWidth then
    ⟨window.buckets.setCurrent ⟨head.start, head.work + work⟩⟩
  else ⟨window.buckets.advance ⟨now, work⟩⟩

def counted (now : Int) (buckets : List Bucket) : Nat :=
  ((buckets.filter fun bucket => now - hashrateWindow ≤ bucket.start).map Bucket.work).sum

/-- The total that `read` divides. -/
def total (now : Int) : Nat := counted now window.buckets.slots

/-- `read`, as an exact quotient. -/
def read (now : Int) : Rat := mkRat (window.total now) 120

end WindowedHashrate

/-! ### Shares -/

/-- A call of `observe`. -/
structure Share where
  time : Int
  work : Nat
deriving DecidableEq

def afterShares (created : Int) (shares : List Share) : WindowedHashrate :=
  shares.foldl (fun window share => window.observe share.work share.time) (.new created)

def workOf (shares : List Share) : Nat := (shares.map Share.work).sum

/-- Younger than the window without its last bucket. -/
def Share.due (now : Int) (share : Share) : Bool :=
  now - (hashrateWindow - bucketWidth) < share.time

/-- Not older than the window. -/
def Share.fresh (now : Int) (share : Share) : Bool := now - hashrateWindow ≤ share.time

@[simp] theorem workOf_append (first second : List Share) :
    workOf (first ++ second) = workOf first + workOf second := by
  simp only [workOf, List.map_append, List.sum_append]

theorem workOf_le_of_sublist {part all : List Share} (sublist : part.Sublist all) :
    workOf part ≤ workOf all :=
  (sublist.map Share.work).sum_le_sum fun _ _ => Nat.zero_le _

theorem workOf_reverse (shares : List Share) : workOf shares.reverse = workOf shares := by
  rw [workOf, List.map_reverse, List.sum_reverse]
  rfl

/-! ### Where the shares are -/

structure Bucket.Holds (bucket : Bucket) (own : List Share) : Prop where
  work : workOf own = bucket.work
  times : ∀ share ∈ own, bucket.start ≤ share.time ∧ share.time < bucket.start + bucketWidth

/-- The shares, newest first, are laid out in the buckets, newest first; the rest is gone. A bucket
that holds any starts at the limit of its place or before, and from place to place the limit goes
back by the width of a bucket. -/
def Laid (limit : Int) : List Bucket → List Share → Prop
  | [], gone => ∀ share ∈ gone, share.time < limit + bucketWidth
  | bucket :: older, shares =>
      ∃ own rest, shares = own ++ rest ∧ bucket.Holds own ∧ (own = [] ∨ bucket.start ≤ limit) ∧
        Laid (limit - bucketWidth) older rest

namespace Laid

variable {limit limit' now : Int} {buckets : List Bucket} {shares : List Share}

theorem empty (limit start : Int) (count : Nat) :
    Laid limit (List.replicate count ⟨start, 0⟩) [] := by
  induction count generalizing limit with
  | zero => exact fun _ member => absurd member List.not_mem_nil
  | succ count inductionHypothesis =>
      refine ⟨[], [], rfl, ⟨rfl, ?_⟩, Or.inl rfl, inductionHypothesis _⟩
      exact fun _ member => absurd member List.not_mem_nil

theorem mono (laid : Laid limit buckets shares) (later : limit ≤ limit') :
    Laid limit' buckets shares := by
  induction buckets generalizing limit limit' shares with
  | nil =>
      intro share member
      have early := laid share member
      omega
  | cons bucket older inductionHypothesis =>
      obtain ⟨own, rest, whole, holds, place, deeper⟩ := laid
      refine ⟨own, rest, whole, holds, ?_, inductionHypothesis deeper (by omega)⟩
      rcases place with none | early
      · exact Or.inl none
      · exact Or.inr (early.trans later)

theorem dropLast (laid : Laid limit buckets shares) : Laid limit buckets.dropLast shares := by
  induction buckets generalizing limit shares with
  | nil => exact laid
  | cons bucket older inductionHypothesis =>
      obtain ⟨own, rest, whole, holds, place, deeper⟩ := laid
      cases older with
      | cons next more => exact ⟨own, rest, whole, holds, place, inductionHypothesis deeper⟩
      | nil =>
          intro share member
          rw [whole] at member
          rcases List.mem_append.1 member with isOwn | isGone
          · rcases place with none | early
            · rw [none] at isOwn
              cases isOwn
            · have inside := (holds.times share isOwn).2
              omega
          · have gone := deeper share isGone
            have positive : 0 < bucketWidth := by decide
            omega

theorem counted_cons (now : Int) (bucket : Bucket) (older : List Bucket) :
    WindowedHashrate.counted now (bucket :: older) =
      (if now - hashrateWindow ≤ bucket.start then bucket.work else 0) +
        WindowedHashrate.counted now older := by
  unfold WindowedHashrate.counted
  by_cases counts : now - hashrateWindow ≤ bucket.start
  · rw [List.filter_cons_of_pos (by simpa using counts), if_pos counts, List.map_cons,
      List.sum_cons]
  · rw [List.filter_cons_of_neg (by simpa using counts), if_neg counts, Nat.zero_add]

/-- **What a read counts**: every share that is due, no share that is not fresh, and none twice. -/
theorem counted (laid : Laid limit buckets shares)
    (recent : limit + hashrateWindow ≤ now + bucketWidth * buckets.length) :
    ∃ taken, (shares.filter (Share.due now)).Sublist taken ∧
      taken.Sublist (shares.filter (Share.fresh now)) ∧
      WindowedHashrate.counted now buckets = workOf taken := by
  induction buckets generalizing limit shares with
  | nil =>
      refine ⟨[], ?_, List.nil_sublist _, rfl⟩
      rw [List.sublist_nil, List.filter_eq_nil_iff]
      intro share member isDue
      have gone := laid share member
      have due : now - (hashrateWindow - bucketWidth) < share.time := of_decide_eq_true isDue
      rw [List.length_nil] at recent
      omega
  | cons bucket older inductionHypothesis =>
      obtain ⟨own, rest, rfl, holds, place, deeper⟩ := laid
      have recentOlder : limit - bucketWidth + hashrateWindow ≤
          now + bucketWidth * older.length := by
        rw [List.length_cons, Int.natCast_add, Int.mul_add] at recent
        omega
      obtain ⟨taken, allDue, onlyFresh, isWork⟩ := inductionHypothesis deeper recentOlder
      rw [counted_cons, isWork, List.filter_append, List.filter_append]
      by_cases counts : now - hashrateWindow ≤ bucket.start
      · refine ⟨own ++ taken, List.filter_sublist.append allDue, ?_, ?_⟩
        · have allFresh : own.filter (Share.fresh now) = own := by
            rw [List.filter_eq_self]
            intro share member
            exact decide_eq_true (counts.trans (holds.times share member).1)
          rw [allFresh]
          exact (List.Sublist.refl own).append onlyFresh
        · rw [if_pos counts, workOf_append, holds.work]
      · have noneDue : own.filter (Share.due now) = [] := by
          rw [List.filter_eq_nil_iff]
          intro share member isDue
          have inside := (holds.times share member).2
          have due : now - (hashrateWindow - bucketWidth) < share.time := of_decide_eq_true isDue
          omega
        refine ⟨taken, ?_, onlyFresh.trans (List.sublist_append_right _ _), ?_⟩
        · rw [noneDue]
          exact allDue
        · rw [if_neg counts, Nat.zero_add]

end Laid

/-! ### One share -/

/-- The window after these shares, newest first. -/
structure Tracks (created : Int) (window : WindowedHashrate) (shares : List Share) : Prop where
  laid : Laid window.buckets.current.start window.buckets.newestFirst shares
  opened : window.buckets.current.start = created - hashrateWindow ∨
    ∃ share ∈ shares, window.buckets.current.start = share.time

namespace Tracks

variable {created : Int} {window : WindowedHashrate} {shares : List Share}

theorem new (created : Int) : Tracks created (.new created) [] where
  laid := by
    rw [WindowedHashrate.new, SlotRing.newestFirst_filled]
    exact Laid.empty _ _ _
  opened := Or.inl rfl

theorem start_le (tracks : Tracks created window shares) {time : Int}
    (after : created - hashrateWindow ≤ time) (latest : ∀ share ∈ shares, share.time ≤ time) :
    window.buckets.current.start ≤ time := by
  rcases tracks.opened with first | ⟨share, member, isTime⟩
  · rw [first]
    exact after
  · rw [isTime]
    exact latest share member

theorem observe (tracks : Tracks created window shares) {share : Share}
    (after : created - hashrateWindow ≤ share.time)
    (latest : ∀ earlier ∈ shares, earlier.time ≤ share.time) :
    Tracks created (window.observe share.work share.time) (share :: shares) := by
  have started := tracks.start_le after latest
  unfold WindowedHashrate.observe
  dsimp only
  split
  · rename_i young
    -- The share joins the current bucket.
    have inside : share.time < window.buckets.current.start + bucketWidth := by
      unfold durationSince at young
      omega
    have laid := tracks.laid
    rw [window.buckets.newestFirst_eq] at laid
    obtain ⟨own, rest, rfl, holds, _, deeper⟩ := laid
    constructor
    · rw [SlotRing.newestFirst_setCurrent, SlotRing.current_setCurrent,
        window.buckets.newestFirst_eq]
      refine ⟨share :: own, rest, rfl, ⟨?_, ?_⟩, Or.inr (le_refl _), deeper⟩
      · rw [← holds.work]
        exact Nat.add_comm _ _
      · intro other member
        rcases List.mem_cons.1 member with rfl | isOwn
        · exact ⟨started, inside⟩
        · exact holds.times other isOwn
    · rw [SlotRing.current_setCurrent]
      rcases tracks.opened with first | ⟨other, member, isTime⟩
      · exact Or.inl first
      · exact Or.inr ⟨other, List.mem_cons_of_mem _ member, isTime⟩
  · rename_i old
    -- A new bucket opens, a width or more after the last one.
    have apart : window.buckets.current.start ≤ share.time - bucketWidth := by
      unfold durationSince at old
      have positive : 0 < bucketWidth := by decide
      omega
    constructor
    · rw [SlotRing.newestFirst_advance, SlotRing.current_advance]
      refine ⟨[share], shares, rfl, ⟨rfl, ?_⟩, Or.inr (le_refl _),
        (tracks.laid.mono apart).dropLast⟩
      intro other member
      rw [List.mem_singleton.1 member]
      exact ⟨le_refl _, Int.lt_add_of_pos_right _ (by decide)⟩
    · rw [SlotRing.current_advance]
      exact Or.inr ⟨share, List.mem_cons_self, rfl⟩

end Tracks

/-! ### Every sequence of shares -/

section Runs

variable {created : Int} {shares : List Share}

theorem afterShares_tracks (inOrder : shares.Pairwise fun earlier later => earlier.time ≤ later.time)
    (after : ∀ share ∈ shares, created - hashrateWindow ≤ share.time) :
    Tracks created (afterShares created shares) shares.reverse := by
  induction shares using List.reverseRecOn with
  | nil => exact Tracks.new created
  | append_singleton earlier share inductionHypothesis =>
      rw [List.pairwise_append] at inOrder
      have tracks := inductionHypothesis inOrder.1 fun other member =>
        after other (List.mem_append_left _ member)
      rw [List.reverse_append, afterShares, List.foldl_append]
      refine tracks.observe (after share (by simp)) ?_
      intro other member
      exact inOrder.2.2 other (List.mem_reverse.1 member) share (List.mem_singleton_self _)

theorem total_eq_counted (window : WindowedHashrate) (now : Int) :
    window.total now = WindowedHashrate.counted now window.buckets.newestFirst :=
  (((window.buckets.newestFirst_perm.filter _).map _).sum_eq).symm

theorem exists_laid (inOrder : shares.Pairwise fun earlier later => earlier.time ≤ later.time)
    (after : ∀ share ∈ shares, created - hashrateWindow ≤ share.time) {now : Int}
    (later : ∀ share ∈ shares, share.time ≤ now) :
    ∃ limit ≤ now,
      Laid limit (afterShares created shares).buckets.newestFirst shares.reverse := by
  have tracks := afterShares_tracks inOrder after
  cases shares with
  | nil =>
      refine ⟨now, le_refl now, ?_⟩
      rw [afterShares, List.foldl_nil, WindowedHashrate.new, SlotRing.newestFirst_filled]
      exact Laid.empty _ _ _
  | cons first rest =>
      have opened := (after first List.mem_cons_self).trans (later first List.mem_cons_self)
      exact ⟨_, tracks.start_le opened fun share member => later share (List.mem_reverse.1 member),
        tracks.laid⟩

end Runs

/-- **The windowed hashrate is accurate to one bucket.** For shares in the order of their times,
none of them from before the two minutes that a new window looks back on, and any later read,
there are shares `taken` whose work is the total: all that are younger than 115 seconds are among
them, none older than 120 seconds is, and each stands there once. -/
theorem hashrate_accurate_to_one_bucket (created : Int) (shares : List Share) (now : Int)
    (inOrder : shares.Pairwise fun earlier later => earlier.time ≤ later.time)
    (later : ∀ share ∈ shares, share.time ≤ now)
    (after : ∀ share ∈ shares, created - hashrateWindow ≤ share.time) :
    (∃ taken, (shares.filter (Share.due now)).Sublist taken ∧
        taken.Sublist (shares.filter (Share.fresh now)) ∧
        (afterShares created shares).total now = workOf taken) ∧
      workOf (shares.filter (Share.due now)) ≤ (afterShares created shares).total now ∧
      (afterShares created shares).total now ≤ workOf (shares.filter (Share.fresh now)) := by
  obtain ⟨limit, past, laid⟩ := exists_laid inOrder after later
  have recent : limit + hashrateWindow ≤ now + bucketWidth *
      (afterShares created shares).buckets.newestFirst.length := by
    have width : bucketWidth * (numBuckets : Int) = hashrateWindow := by decide
    rw [SlotRing.length_newestFirst, width]
    omega
  obtain ⟨taken, allDue, onlyFresh, isWork⟩ := laid.counted recent
  rw [List.filter_reverse] at allDue onlyFresh
  have total : (afterShares created shares).total now = workOf taken.reverse := by
    rw [total_eq_counted, isWork, workOf_reverse]
  have dueTaken : (shares.filter (Share.due now)).Sublist taken.reverse := by
    rw [← List.reverse_sublist, List.reverse_reverse]
    exact allDue
  have takenFresh : taken.reverse.Sublist (shares.filter (Share.fresh now)) := by
    rw [← List.reverse_sublist, List.reverse_reverse]
    exact onlyFresh
  rw [total]
  exact ⟨⟨taken.reverse, dueTaken, takenFresh, rfl⟩, workOf_le_of_sublist dueTaken,
    workOf_le_of_sublist takenFresh⟩

/-- A share every second for half a minute, read while the first bucket is half past. -/
def steadyShares : List Share := (List.range 30).map fun second => ⟨second * 1000000000, 1000⟩

theorem steadyShares_accurate :
    (afterShares 0 steadyShares).total 122000000000 = 25000 ∧
      workOf (steadyShares.filter (Share.due 122000000000)) ≤ 25000 ∧
      25000 ≤ workOf (steadyShares.filter (Share.fresh 122000000000)) := by
  have total : (afterShares 0 steadyShares).total 122000000000 = 25000 := by decide +kernel
  have accurate := (hashrate_accurate_to_one_bucket 0 steadyShares 122000000000 (by decide +kernel)
    (by decide +kernel) (by decide +kernel)).2
  rw [total] at accurate
  exact ⟨total, accurate⟩

end CrFaucet.Metrics
