-- SUMMARY: GET /metrics: GetChannelMetrics' GROUP BY query and the snapshot built from its rows.
import NotificationPipeline.Adapter.Postgres
import Mathlib.Data.List.Dedup
import Mathlib.Algebra.Ring.Rat

/-!
# Channel metrics

`GET /metrics`: `MetricsHandler.GetMetrics` answers 200 with `MetricsCollector.Snapshot`. The
snapshot starts from a map holding the channels `sms`, `email` and `push` at zero and, when
`NotificationRepo.GetChannelMetrics` succeeds, sets every channel the query returns: one row
per `channel` value of the table, with its delivered and its failed rows counted and the mean
latency of its delivered rows. `RecordSuccess` and `RecordFailure` have empty bodies.

Go's `float64` division and Postgres's `AVG` are exact rationals here. The query's `GROUP BY`
has no `ORDER BY`: `getChannelMetrics` lists the groups in one order, and what the snapshot
holds at each key does not depend on it (`snapshot_channels`).
-/

namespace Domain

/-- `domain.ChannelStats`, a row of the metrics query. -/
structure ChannelStats where
  channel : String
  sent : Int
  failed : Int
  avgLatencyMs : ℚ
deriving DecidableEq, Repr

end Domain

namespace Postgres.NotificationRepo

open Domain

/-- `EXTRACT(EPOCH FROM (sent_at - created_at)) * 1000` for a row sent at `t`; instants count
microseconds. -/
def latencyMs (n : Notification) (t : Instant) : ℚ := ((t : ℚ) - n.createdAt) / 1000

/-- The values `AVG` reads: `FILTER (WHERE status = 'delivered' AND sent_at IS NOT NULL)`. -/
def deliveredLatencies (rows : List Notification) : List ℚ :=
  rows.filterMap fun n => if n.status = .delivered then n.sentAt.map (latencyMs n) else none

/-- `COALESCE(AVG(x), 0)`: the mean, and `NULL`, so zero, over no value. -/
def avgOrZero (xs : List ℚ) : ℚ := if xs.isEmpty then 0 else xs.sum / xs.length

/-- The rows of one `GROUP BY channel` group; the column holds `Channel.toString`. -/
def channelRows (s : Store) (ch : String) : List Notification :=
  s.notifications.filter (·.channel.toString == ch)

/-- The aggregates the query computes over one group. -/
def channelStats (ch : String) (rows : List Notification) : ChannelStats :=
  ⟨ch, (rows.filter (·.status == .delivered)).length, (rows.filter (·.status == .failed)).length,
    avgOrZero (deliveredLatencies rows)⟩

/-- `GetChannelMetrics`: one row per `channel` value of the table. -/
def getChannelMetrics (s : Store) : List ChannelStats :=
  (s.notifications.map (·.channel.toString)).dedup.map fun ch => channelStats ch (channelRows s ch)

theorem map_channel_getChannelMetrics (s : Store) :
    (getChannelMetrics s).map (·.channel) = (s.notifications.map (·.channel.toString)).dedup := by
  simp [getChannelMetrics, channelStats, Function.comp_def]

theorem mem_getChannelMetrics {s : Store} {ch : String}
    (h : ch ∈ s.notifications.map (·.channel.toString)) :
    channelStats ch (channelRows s ch) ∈ getChannelMetrics s :=
  List.mem_map_of_mem _ (List.mem_dedup.2 h)

theorem channelRows_eq_nil {s : Store} {ch : String}
    (h : ch ∉ s.notifications.map (·.channel.toString)) : channelRows s ch = [] := by
  simp only [channelRows, List.filter_eq_nil_iff, beq_iff_eq]
  exact fun n hn he => h (he ▸ List.mem_map_of_mem _ hn)

end Postgres.NotificationRepo

namespace App

open Domain Postgres NotificationRepo
open scoped List

/-- `ChannelSnapshot`. -/
structure ChannelSnapshot where
  sent : Int
  failed : Int
  avgLatencyMs : ℚ
  successRate : ℚ
deriving DecidableEq, Repr

/-- The value of Go's `ChannelSnapshot{}`. -/
def ChannelSnapshot.zero : ChannelSnapshot := ⟨0, 0, 0, 0⟩

/-- The entry the loop writes for a row of the query: the success rate is the percentage of
delivered among delivered and failed, and zero when there are none. -/
def ChannelSnapshot.ofStats (s : ChannelStats) : ChannelSnapshot :=
  let total := s.sent + s.failed
  ⟨s.sent, s.failed, s.avgLatencyMs, if total > 0 then (s.sent : ℚ) / total * 100 else 0⟩

/-- A group with no row is the zero entry. -/
theorem ChannelSnapshot.ofStats_nil (ch : String) : ChannelSnapshot.ofStats (channelStats ch []) = .zero := rfl

/-- `MetricsSnapshot`, its `map[string]ChannelSnapshot` read key by key. -/
structure MetricsSnapshot where
  channels : String → Option ChannelSnapshot

/-- `channels[k] = v`. -/
def setChannel (channels : String → Option ChannelSnapshot) (k : String) (v : ChannelSnapshot) :
    String → Option ChannelSnapshot :=
  fun k' => if k' = k then some v else channels k'

/-- The map literal `Snapshot` starts from. -/
def defaultChannels : String → Option ChannelSnapshot :=
  setChannel (setChannel (setChannel (fun _ => none) "sms" .zero) "email" .zero) "push" .zero

/-- `MetricsCollector.Snapshot`, on what `GetChannelMetrics` returned: on an error the map
literal, else the literal with every returned row set. -/
def snapshot : Except GoError (List ChannelStats) → MetricsSnapshot
  | .error _ => ⟨defaultChannels⟩
  | .ok stats => ⟨stats.foldl (fun m s => setChannel m s.channel (.ofStats s)) defaultChannels⟩

theorem defaultChannels_eq (k : String) :
    defaultChannels k = if k = "sms" ∨ k = "email" ∨ k = "push" then some .zero else none := by
  simp only [defaultChannels, setChannel]
  by_cases h1 : k = "push" <;> by_cases h2 : k = "email" <;> by_cases h3 : k = "sms" <;>
    simp_all

/-- Setting the rows of the query leaves every key no row names. -/
theorem foldl_setChannel_of_forall_ne {k : String} :
    ∀ {stats : List ChannelStats} (m : String → Option ChannelSnapshot),
      (∀ s ∈ stats, s.channel ≠ k) →
        stats.foldl (fun m s => setChannel m s.channel (.ofStats s)) m k = m k
  | [], _, _ => rfl
  | s :: stats, m, h => by
    rw [List.foldl_cons, foldl_setChannel_of_forall_ne _ fun t ht => h t (.tail _ ht)]
    exact if_neg (h s (.head _)).symm

/-- When the rows name distinct channels, each key holds the entry of its row. -/
theorem foldl_setChannel_of_mem {s : ChannelStats} :
    ∀ {stats : List ChannelStats} (m : String → Option ChannelSnapshot),
      (stats.map (·.channel)).Nodup → s ∈ stats →
        stats.foldl (fun m s => setChannel m s.channel (.ofStats s)) m s.channel = some (.ofStats s)
  | t :: stats, m, hnd, hs => by
    rw [List.map_cons, List.nodup_cons] at hnd
    rw [List.foldl_cons]
    rcases List.mem_cons.1 hs with rfl | hs
    · rw [foldl_setChannel_of_forall_ne _ fun u hu he =>
        hnd.1 (by rw [← he]; exact List.mem_map_of_mem _ hu)]
      exact if_pos rfl
    · exact foldl_setChannel_of_mem _ hnd.2 hs

/-- What the snapshot holds at a key when the query succeeds, in whatever order it returns its
rows: the counts of that channel's rows when some row has it, and the map literal's entry
otherwise. -/
theorem snapshot_channels (s : Store) {stats : List ChannelStats} (hp : stats ~ getChannelMetrics s)
    (k : String) :
    (snapshot (.ok stats)).channels k =
      if k ∈ s.notifications.map (·.channel.toString) then
        some (.ofStats (channelStats k (channelRows s k)))
      else defaultChannels k := by
  have hnd : (stats.map (·.channel)).Nodup := by
    rw [(hp.map _).nodup_iff, map_channel_getChannelMetrics]
    exact List.nodup_dedup _
  split
  · exact foldl_setChannel_of_mem _ hnd (hp.mem_iff.2 (mem_getChannelMetrics ‹_›))
  · refine foldl_setChannel_of_forall_ne _ fun t ht he => ‹k ∉ _› ?_
    rw [← List.mem_dedup, ← map_channel_getChannelMetrics, ← he]
    exact List.mem_map_of_mem _ (hp.mem_iff.1 ht)

end App
