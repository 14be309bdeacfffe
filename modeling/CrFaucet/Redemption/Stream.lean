import CrFaucet.Redemption.Effects

/-!
Owns the shape of the redemption stream and what keeps an entry deliverable.

Entries are numbered in order, the consumer group never reads past the clock,
and the only command after which an entry is no longer unacknowledged is an
`XACK` of that very entry.
-/

set_option autoImplicit false

namespace CrFaucet.Redemption

open Token (Address)

namespace Redis

/-- Entries are numbered upwards from 1 and never past the clock. -/
structure Ordered (redis : Redis) : Prop where
  sorted : redis.stream.Pairwise fun first second => first.entryId < second.entryId
  numbered : ∀ entry ∈ redis.stream, 0 < entry.entryId ∧ entry.entryId ≤ redis.entryClock
  read : ∀ group, redis.group = some group → group.lastDelivered ≤ redis.entryClock

theorem empty_ordered (entryClock : Nat) : (Redis.empty entryClock).Ordered :=
  ⟨List.Pairwise.nil, nofun, nofun⟩

variable {redis : Redis}

theorem Ordered.entry_eq (ordered : redis.Ordered) {first second : StreamEntry}
    (member : first ∈ redis.stream) (member' : second ∈ redis.stream)
    (same : first.entryId = second.entryId) : first = second := by
  have distinct : (redis.stream.map StreamEntry.entryId).Nodup :=
    List.pairwise_map.2 (ordered.sorted.imp fun before => Nat.ne_of_lt before)
  exact List.inj_on_of_nodup_map distinct member member' same

/-- A command that leaves the stream, the group, the clock and the cursor alone. -/
def leavesStream : Command → Bool
  | .setCursor _ => false
  | .xgroupCreate => false
  | .xreadgroup => false
  | .xadd _ _ _ _ => false
  | .xack _ => false
  | _ => true

theorem after_stream (redis : Redis) (lua : Lua) {command : Command}
    (leaves : leavesStream command = true) :
    (redis.after lua command).stream = redis.stream ∧
      (redis.after lua command).group = redis.group ∧
      (redis.after lua command).entryClock = redis.entryClock ∧
      (redis.after lua command).cursor = redis.cursor := by
  cases command with
  | setCursor | xgroupCreate | xreadgroup | xadd | xack => cases leaves
  | hsetnxState id state =>
      simp only [after, setStateNx]
      split <;> exact ⟨rfl, rfl, rfl, rfl⟩
  | enqueue id amount =>
      simp only [after, enqueueScript]
      split
      · exact ⟨rfl, rfl, rfl, rfl⟩
      · split
        · exact ⟨rfl, rfl, rfl, rfl⟩
        · split <;> exact ⟨rfl, rfl, rfl, rfl⟩
  | tryMarkInFlight id =>
      simp only [after, tryMarkScript]
      split <;> exact ⟨rfl, rfl, rfl, rfl⟩
  | markSent id txid =>
      simp only [after, markSentScript, debit]
      split
      · exact ⟨rfl, rfl, rfl, rfl⟩
      · split
        · split
          · split
            · exact ⟨rfl, rfl, rfl, rfl⟩
            · split <;> exact ⟨rfl, rfl, rfl, rfl⟩
          · exact ⟨rfl, rfl, rfl, rfl⟩
        · exact ⟨rfl, rfl, rfl, rfl⟩
  | _ => exact ⟨rfl, rfl, rfl, rfl⟩

theorem Ordered.xadd (ordered : redis.Ordered) (id : RedemptionId) (sender : Address)
    (amount : Int) (xmrAddr : String) : (redis.xadd id sender amount xmrAddr).Ordered where
  sorted := by
    refine List.pairwise_append.2 ⟨ordered.sorted, List.pairwise_singleton _ _, ?_⟩
    intro first member second appended
    rw [List.mem_singleton.1 appended]
    exact Nat.lt_succ_of_le (ordered.numbered first member).2
  numbered entry member := by
    rcases List.mem_append.1 member with old | appended
    · obtain ⟨positive, bound⟩ := ordered.numbered entry old
      exact ⟨positive, Nat.le_succ_of_le bound⟩
    · rw [List.mem_singleton.1 appended]
      exact ⟨Nat.succ_pos _, Nat.le_refl _⟩
  read group found := Nat.le_succ_of_le (ordered.read group found)

/-- The numbers one read hands out. -/
def delivered (redis : Redis) (group : Group) : List Nat :=
  ((redis.stream.filter fun entry => group.lastDelivered < entry.entryId).take 16).map
    StreamEntry.entryId

theorem xreadgroup_group {group : Group} (found : redis.group = some group) :
    redis.xreadgroup.1.group = some {
      lastDelivered := (redis.delivered group).getLastD group.lastDelivered
      pel := group.pel ++ redis.delivered group } := by
  simp only [xreadgroup, found, delivered]

theorem xreadgroup_stream : redis.xreadgroup.1.stream = redis.stream := by
  unfold xreadgroup
  split <;> rfl

theorem mem_delivered {group : Group} {number : Nat} (member : number ∈ redis.delivered group) :
    ∃ entry ∈ redis.stream, entry.entryId = number := by
  obtain ⟨entry, taken, rfl⟩ := List.mem_map.1 member
  exact ⟨entry, List.mem_of_mem_filter (List.mem_of_mem_take taken), rfl⟩

theorem getLastD_delivered (redis : Redis) (group : Group) :
    (redis.delivered group).getLastD group.lastDelivered = group.lastDelivered ∨
      (redis.delivered group).getLastD group.lastDelivered ∈ redis.delivered group :=
  List.mem_cons.1 List.getLastD_mem_cons

theorem Ordered.xreadgroup (ordered : redis.Ordered) : redis.xreadgroup.1.Ordered := by
  cases found : redis.group with
  | none => simpa only [Redis.xreadgroup, found] using ordered
  | some group =>
      have clock : redis.xreadgroup.1.entryClock = redis.entryClock := by
        simp only [Redis.xreadgroup, found]
      refine ⟨?_, ?_, fun after read => ?_⟩
      · rw [xreadgroup_stream]
        exact ordered.sorted
      · rw [xreadgroup_stream, clock]
        exact ordered.numbered
      · rw [xreadgroup_group found] at read
        obtain rfl := Option.some.inj read
        rw [clock]
        rcases getLastD_delivered redis group with unmoved | moved
        · rw [unmoved]
          exact ordered.read group found
        · obtain ⟨entry, member, number⟩ := mem_delivered moved
          rw [← number]
          exact (ordered.numbered entry member).2

theorem Ordered.of_same {after : Redis} (ordered : redis.Ordered)
    (stream : after.stream = redis.stream) (group : after.group = redis.group)
    (clock : after.entryClock = redis.entryClock) : after.Ordered := by
  refine ⟨?_, ?_, ?_⟩
  · rw [stream]
    exact ordered.sorted
  · rw [stream, clock]
    exact ordered.numbered
  · rw [group, clock]
    exact ordered.read

theorem Ordered.command (ordered : redis.Ordered) (lua : Lua) (command : Command) :
    (redis.after lua command).Ordered := by
  by_cases leaves : leavesStream command = true
  · obtain ⟨stream, group, clock, _⟩ := after_stream redis lua leaves
    exact ordered.of_same stream group clock
  · cases command with
    | setCursor id => exact ordered.of_same rfl rfl rfl
    | xgroupCreate =>
        cases found : redis.group with
        | none =>
            simp only [after, xgroupCreate, found]
            refine ⟨ordered.sorted, ordered.numbered, fun group created => ?_⟩
            obtain rfl := Option.some.inj created
            exact Nat.zero_le _
        | some group => simpa only [after, xgroupCreate, found] using ordered
    | xreadgroup => exact ordered.xreadgroup
    | xadd id sender amount xmrAddr => exact ordered.xadd id sender amount xmrAddr
    | xack entry =>
        refine ⟨ordered.sorted, ordered.numbered, fun group acked => ?_⟩
        obtain ⟨before, found, rfl⟩ := Option.map_eq_some_iff.1 acked
        exact ordered.read before found
    | _ => exact absurd rfl leaves

/-! ### Entries stay deliverable -/

/-- Every entry the read passes over is handed out, as the stream is in order. -/
theorem mem_delivered_of_le (ordered : redis.Ordered) {group : Group} {entry : StreamEntry}
    (member : entry ∈ redis.stream) (unread : group.lastDelivered < entry.entryId)
    (passed : entry.entryId ≤ (redis.delivered group).getLastD group.lastDelivered) :
    entry.entryId ∈ redis.delivered group := by
  let fresh := redis.stream.filter fun entry => group.lastDelivered < entry.entryId
  have sorted : fresh.Pairwise fun first second => first.entryId < second.entryId :=
    ordered.sorted.filter _
  rw [← List.take_append_drop 16 fresh] at sorted
  have apart := (List.pairwise_append.1 sorted).2.2
  have isFresh : entry ∈ fresh := List.mem_filter.2 ⟨member, decide_eq_true unread⟩
  rw [← List.take_append_drop 16 fresh] at isFresh
  rcases List.mem_append.1 isFresh with taken | left
  · exact List.mem_map.2 ⟨entry, taken, rfl⟩
  · -- An entry left for the next read is after the last one handed out.
    rcases getLastD_delivered redis group with unmoved | moved
    · omega
    · obtain ⟨last, taken, number⟩ := List.mem_map.1 moved
      have before := apart last taken entry left
      omega

theorem Unacknowledged.xreadgroup (ordered : redis.Ordered) {entry : StreamEntry}
    (unacked : redis.Unacknowledged entry) : redis.xreadgroup.1.Unacknowledged entry := by
  cases found : redis.group with
  | none => simpa only [Redis.xreadgroup, found] using unacked
  | some group =>
      obtain ⟨member, deliverable⟩ := unacked
      refine ⟨by rwa [xreadgroup_stream], ?_⟩
      rw [xreadgroup_group found]
      simp only [found] at deliverable
      by_cases passed : entry.entryId ≤ (redis.delivered group).getLastD group.lastDelivered
      · refine Or.inr (List.mem_append.2 ?_)
        rcases deliverable with unread | pending
        · exact Or.inr (mem_delivered_of_le ordered member unread passed)
        · exact Or.inl pending
      · exact Or.inl (Nat.lt_of_not_le passed)

theorem xadd_unacknowledged (ordered : redis.Ordered) (id : RedemptionId) (sender : Address)
    (amount : Int) (xmrAddr : String) :
    (redis.xadd id sender amount xmrAddr).Unacknowledged
      { entryId := redis.entryClock + 1, id, sender, amount, xmrAddr } := by
  refine ⟨List.mem_append.2 (Or.inr (List.mem_singleton.2 rfl)), ?_⟩
  cases found : redis.group with
  | none => simp only [Redis.xadd, found]
  | some group =>
      simp only [Redis.xadd, found]
      exact Or.inl (Nat.lt_succ_of_le (ordered.read group found))

theorem Unacknowledged.of_same {after : Redis} {entry : StreamEntry}
    (unacked : redis.Unacknowledged entry) (stream : ∀ entry ∈ redis.stream, entry ∈ after.stream)
    (group : after.group = redis.group) : after.Unacknowledged entry := by
  refine ⟨stream entry unacked.1, ?_⟩
  rw [group]
  exact unacked.2

/-- **Only its own acknowledgement takes an entry away.** -/
theorem Unacknowledged.command (ordered : redis.Ordered) (lua : Lua) {command : Command}
    {entry : StreamEntry} (unacked : redis.Unacknowledged entry)
    (notAcked : ∀ other, command = .xack other → other.entryId ≠ entry.entryId) :
    (redis.after lua command).Unacknowledged entry := by
  by_cases leaves : leavesStream command = true
  · obtain ⟨stream, group, _⟩ := after_stream redis lua leaves
    exact unacked.of_same (fun _ member => stream ▸ member) group
  · cases command with
    | setCursor id => exact unacked
    | xgroupCreate =>
        cases found : redis.group with
        | none =>
            refine ⟨?_, ?_⟩ <;> simp only [after, xgroupCreate, found]
            · exact unacked.1
            · exact Or.inl (ordered.numbered entry unacked.1).1
        | some group => simpa only [after, xgroupCreate, found] using unacked
    | xreadgroup => exact unacked.xreadgroup ordered
    | xadd id sender amount xmrAddr =>
        exact unacked.of_same (fun _ member => List.mem_append_left _ member) rfl
    | xack other =>
        obtain ⟨member, deliverable⟩ := unacked
        refine ⟨member, ?_⟩
        cases found : redis.group with
        | none => simp only [after, xack, found, Option.map_none]
        | some group =>
            simp only [found] at deliverable
            simp only [after, xack, found, Option.map_some]
            refine deliverable.imp_right fun pending => List.mem_filter.2 ⟨pending, ?_⟩
            exact decide_eq_true (notAcked other rfl).symm
    | _ => exact absurd rfl leaves

/-! ### Where unacknowledged entries come from -/

theorem lt_of_mem_delivered {group : Group} {number : Nat}
    (member : number ∈ redis.delivered group) : group.lastDelivered < number := by
  obtain ⟨entry, taken, rfl⟩ := List.mem_map.1 member
  exact of_decide_eq_true (List.mem_filter.1 (List.mem_of_mem_take taken)).2

theorem Unacknowledged.of_xreadgroup {entry : StreamEntry}
    (unacked : redis.xreadgroup.1.Unacknowledged entry) : redis.Unacknowledged entry := by
  cases found : redis.group with
  | none => simpa only [Redis.xreadgroup, found] using unacked
  | some group =>
      obtain ⟨member, deliverable⟩ := unacked
      rw [xreadgroup_stream] at member
      rw [xreadgroup_group found] at deliverable
      refine ⟨member, ?_⟩
      rw [found]
      rcases deliverable with unread | listed
      · left
        rcases getLastD_delivered redis group with unmoved | moved
        · rwa [unmoved] at unread
        · exact (lt_of_mem_delivered moved).trans unread
      · rcases List.mem_append.1 listed with pending | fresh
        · exact Or.inr pending
        · exact Or.inl (lt_of_mem_delivered fresh)

/-- **Only `XADD` makes an entry unacknowledged.** -/
theorem Unacknowledged.of_command {lua : Lua} {command : Command} {entry : StreamEntry}
    (unacked : (redis.after lua command).Unacknowledged entry) :
    redis.Unacknowledged entry ∨
      command = .xadd entry.id entry.sender entry.amount entry.xmrAddr := by
  by_cases leaves : leavesStream command = true
  · obtain ⟨stream, group, _⟩ := after_stream redis lua leaves
    exact Or.inl (unacked.of_same (fun _ member => stream ▸ member) group.symm)
  · cases command with
    | setCursor id => exact Or.inl unacked
    | xgroupCreate =>
        left
        cases found : redis.group with
        | none =>
            refine ⟨?_, by simp only [found]⟩
            simpa only [after, xgroupCreate, found] using unacked.1
        | some group => simpa only [after, xgroupCreate, found] using unacked
    | xreadgroup => exact Or.inl unacked.of_xreadgroup
    | xadd id sender amount xmrAddr =>
        obtain ⟨member, deliverable⟩ := unacked
        rcases List.mem_append.1 member with old | appended
        · exact Or.inl ⟨old, deliverable⟩
        · obtain rfl := List.mem_singleton.1 appended
          exact Or.inr rfl
    | xack other =>
        left
        obtain ⟨member, deliverable⟩ := unacked
        refine ⟨member, ?_⟩
        cases found : redis.group with
        | none => trivial
        | some group =>
            simp only [after, xack, found, Option.map_some] at deliverable
            exact deliverable.imp_right List.mem_of_mem_filter
    | _ => exact absurd rfl leaves

/-! ### Inversion for the stream and the cursor -/

theorem mem_after_stream {lua : Lua} {command : Command} {entry : StreamEntry}
    (member : entry ∈ (redis.after lua command).stream) :
    entry ∈ redis.stream ∨
      command = .xadd entry.id entry.sender entry.amount entry.xmrAddr := by
  by_cases leaves : leavesStream command = true
  · rw [(after_stream redis lua leaves).1] at member
    exact Or.inl member
  · cases command with
    | xgroupCreate =>
        simp only [after, xgroupCreate] at member
        split at member <;> exact Or.inl member
    | xreadgroup =>
        rw [after, xreadgroup_stream] at member
        exact Or.inl member
    | xadd id sender amount xmrAddr =>
        apply (List.mem_append.1 member).imp_right
        intro appended
        obtain rfl := List.mem_singleton.1 appended
        rfl
    | xack | setCursor => exact Or.inl member
    | _ => exact absurd rfl leaves

theorem stream_subset_after (lua : Lua) (command : Command) {entry : StreamEntry}
    (member : entry ∈ redis.stream) : entry ∈ (redis.after lua command).stream := by
  by_cases leaves : leavesStream command = true
  · rwa [(after_stream redis lua leaves).1]
  · cases command with
    | xgroupCreate =>
        simp only [after, xgroupCreate]
        split <;> exact member
    | xreadgroup =>
        rw [after, xreadgroup_stream]
        exact member
    | xadd id sender amount xmrAddr => exact List.mem_append_left _ member
    | xack | setCursor => exact member
    | _ => exact absurd rfl leaves

theorem after_cursor_cases {lua : Lua} {command : Command} {id : RedemptionId}
    (found : (redis.after lua command).cursor = some id) :
    redis.cursor = some id ∨ command = .setCursor id := by
  by_cases leaves : leavesStream command = true
  · rw [(after_stream redis lua leaves).2.2.2] at found
    exact Or.inl found
  · cases command with
    | setCursor moved =>
        obtain rfl := Option.some.inj found
        exact Or.inr rfl
    | xgroupCreate =>
        simp only [after, xgroupCreate] at found
        split at found <;> exact Or.inl found
    | xreadgroup =>
        simp only [after, xreadgroup] at found
        split at found <;> exact Or.inl found
    | xadd | xack => exact Or.inl found
    | _ => exact absurd rfl leaves

end Redis

/-! ### What a consumer is handed -/

section Handed

variable {lua : Lua} {enclave : Address} {world : World} {answer : Answer}
  {entries : List StreamEntry} {entry : StreamEntry}

theorem unacknowledged_of_xautoclaim
    (handed : (exec lua enclave world .xautoclaim answer).2 = some entries)
    (member : entry ∈ entries) : world.redis.Unacknowledged entry := by
  rw [exec, World.onRedis_reply] at handed
  split at handed
  · obtain ⟨group, found, rfl⟩ := Option.map_eq_some_iff.1 handed
    obtain ⟨inStream, pending⟩ := List.mem_filter.1 (List.mem_of_mem_take member)
    refine ⟨inStream, ?_⟩
    rw [found]
    exact Or.inr (of_decide_eq_true pending).1
  · cases handed

theorem unacknowledged_of_xreadgroup
    (handed : (exec lua enclave world .xreadgroup answer).2 = some entries)
    (member : entry ∈ entries) : world.redis.Unacknowledged entry := by
  rw [exec, World.onRedis_reply, Redis.xreadgroup] at handed
  split at handed
  · split at handed
    · cases handed
    · rename_i group found
      obtain rfl := Option.some.inj handed
      obtain ⟨inStream, unread⟩ := List.mem_filter.1 (List.mem_of_mem_take member)
      refine ⟨inStream, ?_⟩
      rw [found]
      exact Or.inl (of_decide_eq_true unread)
  · cases handed

end Handed

end CrFaucet.Redemption
