-- SUMMARY: The ws.Hub as a transition system of accepts, broadcasts and writer goroutines, and what its clients receive.
import Mathlib.Data.List.Perm.Subperm
import Mathlib.Data.List.Nodup

/-!
# The status hub: `ws.Hub`

`ws.Hub` keeps the set of WebSocket connections it has accepted. `Broadcast` marshals a
`StatusUpdate` and, under the read lock, starts one goroutine per connection that writes the
frame; a goroutine whose write fails removes the connection. `readPump`, started by `Accept`,
reads until the connection fails and then removes it. `removeClient` deletes the connection
from the set and closes it.

The hub is a labelled transition system over the goroutines it has started (`Task`), one step
per lock-protected section or connection call: the lock makes `Accept`'s insertion,
`Broadcast`'s loop and `removeClient` atomic. Writes run in goroutines of their own, so two
frames for one connection may be written in either order, and the statements below count
frames up to order.

`run_exact` is what the hub promises a subscriber: no update is written twice, or to a
connection that was not a client when it was broadcast, and a connection that is still a
client with no removal under way has read, or has a goroutine writing, every update broadcast
since it connected. `deployed_silent` is what the two processes make of it: the API server's
hub has the subscribers and the worker's hub has the broadcasts, so no subscriber reads any.
-/

namespace Ws

open scoped List

/-- A `*websocket.Conn`, by identity. -/
abbrev Conn := ℕ

/-- `StatusUpdate`, the frame `Broadcast` marshals. `json.Marshal` of three strings does not
fail, so the model has no marshal error. -/
structure StatusUpdate where
  notificationId : String
  status : String
  timestamp : String
deriving DecidableEq, Repr

/-- A goroutine the hub started that has not returned. -/
inductive Task
  /-- `readPump(conn)`, reading until `Read` fails. -/
  | reader (c : Conn)
  /-- The goroutine `Broadcast` started to write `u` to `c`. -/
  | writer (c : Conn) (u : StatusUpdate)
  /-- A goroutine whose call on `c` failed, about to call `removeClient(c)`. -/
  | remover (c : Conn)
deriving DecidableEq, Repr

/-- The connection a goroutine works on. -/
def Task.conn : Task → Conn
  | .reader c | .writer c _ | .remover c => c

/-- The update a goroutine still holds for `c`: a writer's, if it writes to `c`. -/
def Task.update? (c : Conn) : Task → Option StatusUpdate
  | .writer c' u => if c' = c then some u else none
  | _ => none

/-- The hub, the goroutines it started, and what the clients have read. -/
structure Hub where
  /-- The keys of `h.clients`. -/
  clients : List Conn
  /-- The connections `Accept` has returned. -/
  conns : List Conn
  /-- The connections `Close` was called on. -/
  closed : List Conn
  tasks : List Task
  /-- The frames written, with their connection, in the order the writes completed. -/
  received : List (Conn × StatusUpdate)
deriving DecidableEq, Repr

/-- `NewHub`. -/
def Hub.new : Hub := ⟨[], [], [], [], []⟩

/-- The updates `c` has read, in order. -/
def Hub.got (h : Hub) (c : Conn) : List StatusUpdate :=
  h.received.filterMap fun p => if p.1 = c then some p.2 else none

/-- The updates goroutines are still writing to `c`. -/
def Hub.inFlight (h : Hub) (c : Conn) : List StatusUpdate := h.tasks.filterMap (Task.update? c)

@[simp] theorem Hub.inFlight_mk (cl cn cd : List Conn) (ts : List Task)
    (rv : List (Conn × StatusUpdate)) (c : Conn) :
    Hub.inFlight ⟨cl, cn, cd, ts, rv⟩ c = ts.filterMap (Task.update? c) := rfl

/-- One lock-protected section of the hub, or one call on a connection. -/
inductive Event
  /-- `Accept` upgraded a request to the new connection `c`. -/
  | accept (c : Conn)
  /-- `Broadcast` of `u`. -/
  | broadcast (u : StatusUpdate)
  /-- A writer's `Write` of `u` to `c` returned nil. -/
  | write (c : Conn) (u : StatusUpdate)
  /-- A writer's `Write` of `u` to `c` failed. -/
  | writeError (c : Conn) (u : StatusUpdate)
  /-- `readPump`'s `Read` on `c` failed: the peer went away, or the connection was closed. -/
  | readError (c : Conn)
  /-- `removeClient(c)`: `delete`, then `Close`. -/
  | remove (c : Conn)
deriving DecidableEq, Repr

/-- One step of the hub. An `Accept` whose upgrade fails changes nothing and is not a step. -/
inductive Step : Hub → Event → Hub → Prop
  /-- The upgraded connection is a new object; `readPump` starts on it. -/
  | accept {h : Hub} {c : Conn} (hc : c ∉ h.conns) :
      Step h (.accept c) { h with clients := h.clients ++ [c], conns := c :: h.conns
                                  tasks := h.tasks ++ [.reader c] }
  /-- Under the read lock, one writer per client. -/
  | broadcast {h : Hub} (u : StatusUpdate) :
      Step h (.broadcast u) { h with tasks := h.tasks ++ h.clients.map fun c => .writer c u }
  /-- A write succeeds only on a connection that is not closed. -/
  | write {h : Hub} {c : Conn} {u : StatusUpdate} (ht : .writer c u ∈ h.tasks)
      (hc : c ∉ h.closed) :
      Step h (.write c u) { h with tasks := h.tasks.erase (.writer c u)
                                   received := h.received ++ [(c, u)] }
  | writeError {h : Hub} {c : Conn} {u : StatusUpdate} (ht : .writer c u ∈ h.tasks) :
      Step h (.writeError c u) { h with tasks := h.tasks.erase (.writer c u) ++ [.remover c] }
  | readError {h : Hub} {c : Conn} (ht : .reader c ∈ h.tasks) :
      Step h (.readError c) { h with tasks := h.tasks.erase (.reader c) ++ [.remover c] }
  | remove {h : Hub} {c : Conn} (ht : .remover c ∈ h.tasks) :
      Step h (.remove c) { h with clients := h.clients.erase c, closed := c :: h.closed
                                  tasks := h.tasks.erase (.remover c) }

/-- A run of the hub: the events in the order they happened. -/
inductive Run : Hub → List Event → Hub → Prop
  | nil (h : Hub) : Run h [] h
  | snoc {h h' h'' : Hub} {evs : List Event} {e : Event} (hr : Run h evs h') (hs : Step h' e h'') :
      Run h (evs ++ [e]) h''

-- ---------------------------------------------------------------------------
-- What a subscriber is owed
-- ---------------------------------------------------------------------------

/-- Reading the events for `c`: whether it is a client, and the updates broadcast while it
was. -/
def follow (c : Conn) (p : Bool × List StatusUpdate) : Event → Bool × List StatusUpdate
  | .accept c' => (p.1 || c' == c, p.2)
  | .remove c' => (p.1 && c' != c, p.2)
  | .broadcast u => (p.1, if p.1 then p.2 ++ [u] else p.2)
  | _ => p

/-- `follow` over a run, from before `NewHub`'s first event. -/
def track (c : Conn) (evs : List Event) : Bool × List StatusUpdate :=
  evs.foldl (follow c) (false, [])

/-- Whether `c` is a client after the events. -/
def isClient (c : Conn) (evs : List Event) : Bool := (track c evs).1

/-- The updates broadcast while `c` was a client. -/
def updatesWhile (c : Conn) (evs : List Event) : List StatusUpdate := (track c evs).2

@[simp] theorem track_snoc (c : Conn) (evs : List Event) (e : Event) :
    track c (evs ++ [e]) = follow c (track c evs) e := by
  simp [track, List.foldl_append]

/-- Events with no broadcast add no update. -/
theorem foldl_follow_snd (c : Conn) {evs : List Event} (h : ∀ e ∈ evs, ∀ u, e ≠ .broadcast u)
    (p : Bool × List StatusUpdate) : (evs.foldl (follow c) p).2 = p.2 := by
  induction evs generalizing p with
  | nil => rfl
  | cons e evs ih =>
    rw [List.foldl_cons, ih fun e' he' => h e' (List.mem_cons_of_mem _ he')]
    cases e with
    | broadcast u => exact absurd rfl (h _ (List.mem_cons_self _ _) u)
    | _ => rfl

/-- Events with no accept leave a non-client a non-client with nothing owed. -/
theorem foldl_follow_of_no_accept (c : Conn) {evs : List Event}
    (h : ∀ e ∈ evs, ∀ c', e ≠ .accept c') (us : List StatusUpdate) :
    evs.foldl (follow c) (false, us) = (false, us) := by
  induction evs with
  | nil => rfl
  | cons e evs ih =>
    rw [List.foldl_cons]
    cases e with
    | accept c' => exact absurd rfl (h _ (List.mem_cons_self _ _) c')
    | _ => simpa [follow] using ih fun e' he' => h e' (List.mem_cons_of_mem _ he')

-- ---------------------------------------------------------------------------
-- How one step moves the projections
-- ---------------------------------------------------------------------------

theorem filterMap_update_erase {ts : List Task} {t : Task} (ht : t ∈ ts) (c : Conn) :
    ts.filterMap (Task.update? c) ~ (t.update? c).toList ++ (ts.erase t).filterMap (Task.update? c) := by
  have h := (List.perm_cons_erase ht).filterMap (Task.update? c)
  cases hu : t.update? c <;> simpa [List.filterMap_cons, hu] using h

/-- A broadcast gives each client one writer. -/
theorem filterMap_update_writers {cs : List Conn} (hd : cs.Nodup) (c : Conn) (u : StatusUpdate) :
    (cs.map fun c' => Task.writer c' u).filterMap (Task.update? c) = if c ∈ cs then [u] else [] := by
  induction cs with
  | nil => rfl
  | cons c' cs ih =>
    obtain ⟨hc', hd⟩ := List.nodup_cons.1 hd
    by_cases h : c' = c
    · subst h
      simp [Task.update?, hc', ih hd]
    · simp [Task.update?, h, ih hd, Ne.symm h]

theorem got_snoc (h : Hub) (c c' : Conn) (u : StatusUpdate) :
    { h with received := h.received ++ [(c, u)] }.got c' = h.got c' ++ if c = c' then [u] else [] := by
  by_cases hc : c = c' <;> simp [Hub.got, hc]

/-- Erasing a goroutine that writes nothing to `c` leaves `c`'s updates in flight. -/
theorem inFlight_erase {h : Hub} {t : Task} (ht : t ∈ h.tasks) {c : Conn} (hu : t.update? c = none)
    (extra : List Task) (he : extra.filterMap (Task.update? c) = []) :
    (h.tasks.erase t ++ extra).filterMap (Task.update? c) ~ h.inFlight c := by
  have := filterMap_update_erase ht c
  rw [hu] at this
  simpa [List.filterMap_append, he] using this.symm

-- ---------------------------------------------------------------------------
-- The invariant
-- ---------------------------------------------------------------------------

/-- What holds after every run from `NewHub`. -/
structure Inv (evs : List Event) (h : Hub) : Prop where
  nodup : h.clients.Nodup
  isClient_iff : ∀ c, c ∈ h.clients ↔ isClient c evs = true
  task_known : ∀ t ∈ h.tasks, t.conn ∈ h.conns
  received_known : ∀ p ∈ h.received, p.1 ∈ h.conns
  fresh : ∀ c ∉ h.conns, track c evs = (false, [])
  /-- Nothing is read or in flight that was not broadcast while the connection was a client. -/
  sub : ∀ c, h.got c ++ h.inFlight c <+~ updatesWhile c evs
  /-- A client with no removal under way has lost nothing. -/
  exact : ∀ c ∈ h.clients, Task.remover c ∉ h.tasks →
    h.got c ++ h.inFlight c ~ updatesWhile c evs

theorem Inv.new : Inv [] Hub.new :=
  ⟨List.nodup_nil, by simp [Hub.new, isClient, track], by simp [Hub.new], by simp [Hub.new],
    fun _ _ => rfl, fun _ => by simp [Hub.got, Hub.inFlight, Hub.new, updatesWhile, track],
    by simp [Hub.new]⟩

section Steps

variable {evs : List Event} {h : Hub}

theorem Inv.client_known (hi : Inv evs h) {c : Conn} (hc : c ∈ h.clients) : c ∈ h.conns := by
  by_contra hn
  have := (hi.isClient_iff c).1 hc
  simp [isClient, hi.fresh c hn] at this

theorem Inv.got_fresh (hi : Inv evs h) {c : Conn} (hc : c ∉ h.conns) : h.got c = [] := by
  simp only [Hub.got, List.filterMap_eq_nil_iff]
  rintro ⟨c', u⟩ hp
  simp only [ite_eq_right_iff, reduceCtorEq, imp_false]
  rintro rfl
  exact hc (hi.received_known _ hp)

theorem Inv.inFlight_fresh (hi : Inv evs h) {c : Conn} (hc : c ∉ h.conns) : h.inFlight c = [] := by
  simp only [Hub.inFlight, List.filterMap_eq_nil_iff]
  intro t ht
  cases t with
  | writer c' u =>
    have := hi.task_known _ ht
    simp only [Task.update?, ite_eq_right_iff, reduceCtorEq, imp_false]
    rintro rfl
    exact hc this
  | _ => rfl

theorem Inv.accept (hi : Inv evs h) {c : Conn} (hc : c ∉ h.conns) :
    Inv (evs ++ [.accept c]) { h with clients := h.clients ++ [c], conns := c :: h.conns
                                      tasks := h.tasks ++ [.reader c] } := by
  have hcl : c ∉ h.clients := fun h' => hc (hi.client_known h')
  have hinf : ∀ c', (h.tasks ++ [Task.reader c]).filterMap (Task.update? c') = h.inFlight c' := by
    simp [Hub.inFlight, List.filterMap_append, Task.update?]
  have hu : ∀ c', updatesWhile c' (evs ++ [.accept c]) = updatesWhile c' evs := by
    simp [updatesWhile, follow]
  refine ⟨List.nodup_append.2 ⟨hi.nodup, List.nodup_singleton c, by simpa using hcl⟩,
    fun c' => ?_, ?_, fun p hp => List.mem_cons_of_mem _ (hi.received_known p hp), ?_,
    fun c' => ?_, fun c' hc' hr => ?_⟩
  · by_cases h' : c = c'
    · subst h'
      simp [isClient, follow]
    · simp [isClient, follow, h', Ne.symm h', hi.isClient_iff c']
  · simp only [List.mem_append, List.mem_singleton]
    rintro t (ht | rfl)
    · exact List.mem_cons_of_mem _ (hi.task_known t ht)
    · exact List.mem_cons_self _ _
  · intro c' hc'
    simp only [List.mem_cons, not_or] at hc'
    simp [follow, hi.fresh c' hc'.2, Ne.symm hc'.1]
  · show h.got c' ++ _ <+~ _
    rw [Hub.inFlight_mk, hinf, hu]
    exact hi.sub c'
  · show h.got c' ++ _ ~ _
    rw [Hub.inFlight_mk, hinf, hu]
    rcases List.mem_append.1 hc' with hc' | hc'
    · exact hi.exact c' hc' fun h' => hr (List.mem_append_left _ h')
    · obtain rfl := List.mem_singleton.1 hc'
      simp [hi.got_fresh hc, hi.inFlight_fresh hc, updatesWhile, hi.fresh _ hc]

theorem Inv.broadcast (hi : Inv evs h) (u : StatusUpdate) :
    Inv (evs ++ [.broadcast u]) { h with tasks := h.tasks ++ h.clients.map fun c => .writer c u } := by
  have hinf : ∀ c, (h.tasks ++ h.clients.map fun c' => Task.writer c' u).filterMap (Task.update? c) =
      h.inFlight c ++ if isClient c evs then [u] else [] := by
    intro c
    rw [List.filterMap_append, filterMap_update_writers hi.nodup]
    simp only [Hub.inFlight, hi.isClient_iff c]
  have hupd : ∀ c, updatesWhile c (evs ++ [.broadcast u]) =
      updatesWhile c evs ++ if isClient c evs then [u] else [] := by
    intro c
    by_cases hr : isClient c evs <;> simp_all [updatesWhile, isClient, follow]
  refine ⟨hi.nodup, fun c => by simpa [isClient, follow] using hi.isClient_iff c, ?_,
    hi.received_known, fun c hc => by simp [hi.fresh c hc, follow], fun c => ?_, fun c hc hr => ?_⟩
  · simp only [List.mem_append, List.mem_map]
    rintro t (ht | ⟨c, hc, rfl⟩)
    · exact hi.task_known t ht
    · exact hi.client_known hc
  · show h.got c ++ _ <+~ _
    rw [Hub.inFlight_mk, hinf, hupd, ← List.append_assoc]
    exact (List.subperm_append_right _).2 (hi.sub c)
  · show h.got c ++ _ ~ _
    rw [Hub.inFlight_mk, hinf, hupd, ← List.append_assoc]
    exact (hi.exact c hc fun h' => hr (List.mem_append_left _ h')).append_right _

/-- A step that keeps the clients, the connections and the events' account, and moves frames
only from in flight to read, or drops them, keeps the invariant. -/
theorem Inv.of_moved {e : Event} {h' : Hub} (hi : Inv evs h) (hcl : h'.clients = h.clients)
    (hconns : h'.conns = h.conns) (htrack : ∀ c, track c (evs ++ [e]) = track c evs)
    (htasks : ∀ t ∈ h'.tasks, t.conn ∈ h.conns) (hrecv : ∀ p ∈ h'.received, p.1 ∈ h.conns)
    (hsub : ∀ c, h'.got c ++ h'.inFlight c <+~ h.got c ++ h.inFlight c)
    (hexact : ∀ c ∈ h.clients, Task.remover c ∉ h'.tasks →
      Task.remover c ∉ h.tasks ∧ h'.got c ++ h'.inFlight c ~ h.got c ++ h.inFlight c) :
    Inv (evs ++ [e]) h' := by
  refine ⟨hcl ▸ hi.nodup, fun c => ?_, hconns ▸ htasks, hconns ▸ hrecv,
    fun c hc => (htrack c).trans (hi.fresh c (hconns ▸ hc)), fun c => ?_, fun c hc hr => ?_⟩
  · rw [hcl, hi.isClient_iff c, isClient, isClient, htrack]
  · rw [updatesWhile, htrack]
    exact (hsub c).trans (hi.sub c)
  · rw [hcl] at hc
    obtain ⟨hr', hp⟩ := hexact c hc hr
    rw [updatesWhile, htrack]
    exact hp.trans (hi.exact c hc hr')

theorem Inv.write (hi : Inv evs h) {c : Conn} {u : StatusUpdate} (ht : .writer c u ∈ h.tasks) :
    Inv (evs ++ [.write c u]) { h with tasks := h.tasks.erase (.writer c u)
                                       received := h.received ++ [(c, u)] } := by
  have hmove : ∀ c', { h with received := h.received ++ [(c, u)] }.got c' ++
      (h.tasks.erase (.writer c u)).filterMap (Task.update? c') ~ h.got c' ++ h.inFlight c' := by
    intro c'
    rw [got_snoc, List.append_assoc]
    refine List.Perm.append_left _ ?_
    have := (filterMap_update_erase ht c').symm
    by_cases hc : c = c' <;> simpa [Task.update?, hc] using this
  refine hi.of_moved rfl rfl (fun _ => by simp [follow])
    (fun t ht' => hi.task_known t (List.mem_of_mem_erase ht')) ?_
    (fun c' => (hmove c').subperm) fun c' _ hr => ⟨fun h' => hr ?_, hmove c'⟩
  · simp only [List.mem_append, List.mem_singleton]
    rintro p (hp | rfl)
    · exact hi.received_known p hp
    · exact hi.task_known _ ht
  · exact (List.mem_erase_of_ne (by simp)).2 h'

theorem Inv.writeError (hi : Inv evs h) {c : Conn} {u : StatusUpdate} (ht : .writer c u ∈ h.tasks) :
    Inv (evs ++ [.writeError c u])
      { h with tasks := h.tasks.erase (.writer c u) ++ [.remover c] } := by
  have hinf : ∀ c', (h.tasks.erase (.writer c u) ++ [Task.remover c]).filterMap (Task.update? c') =
      (h.tasks.erase (.writer c u)).filterMap (Task.update? c') := by
    simp [List.filterMap_append, Task.update?]
  refine hi.of_moved rfl rfl (fun _ => by simp [follow]) ?_ hi.received_known (fun c' => ?_)
    fun c' _ hr => ?_
  · simp only [List.mem_append, List.mem_singleton]
    rintro t (ht' | rfl)
    · exact hi.task_known t (List.mem_of_mem_erase ht')
    · exact hi.task_known (.writer c u) ht
  · show h.got c' ++ _ <+~ _
    rw [Hub.inFlight_mk, hinf]
    refine (List.subperm_append_left _).2 ?_
    have := (filterMap_update_erase ht c').symm.subperm
    exact (List.sublist_append_right _ _).subperm.trans this
  · have hne : c' ≠ c := by rintro rfl; simp at hr
    refine ⟨fun h' => hr (List.mem_append_left _ ((List.mem_erase_of_ne (by simp)).2 h')), ?_⟩
    show h.got c' ++ _ ~ _
    exact (inFlight_erase ht (by simp [Task.update?, Ne.symm hne]) [.remover c] rfl).append_left _

theorem Inv.readError (hi : Inv evs h) {c : Conn} (ht : .reader c ∈ h.tasks) :
    Inv (evs ++ [.readError c]) { h with tasks := h.tasks.erase (.reader c) ++ [.remover c] } := by
  have hmove : ∀ c', h.got c' ++
      (h.tasks.erase (.reader c) ++ [Task.remover c]).filterMap (Task.update? c') ~
        h.got c' ++ h.inFlight c' :=
    fun c' => (inFlight_erase ht rfl [.remover c] rfl).append_left _
  refine hi.of_moved rfl rfl (fun _ => by simp [follow]) ?_ hi.received_known
    (fun c' => (hmove c').subperm) fun c' _ hr => ⟨fun h' => hr ?_, hmove c'⟩
  · simp only [List.mem_append, List.mem_singleton]
    rintro t (ht' | rfl)
    · exact hi.task_known t (List.mem_of_mem_erase ht')
    · exact hi.task_known (.reader c) ht
  · have hne : c' ≠ c := by rintro rfl; simp at hr
    exact List.mem_append_left _ ((List.mem_erase_of_ne (by simp)).2 h')

theorem Inv.remove (hi : Inv evs h) {c : Conn} (ht : .remover c ∈ h.tasks) :
    Inv (evs ++ [.remove c]) { h with clients := h.clients.erase c, closed := c :: h.closed
                                      tasks := h.tasks.erase (.remover c) } := by
  have hinf : ∀ c', (h.tasks.erase (.remover c)).filterMap (Task.update? c') ~ h.inFlight c' := by
    intro c'
    simpa using inFlight_erase ht rfl [] rfl
  have hu : ∀ c', updatesWhile c' (evs ++ [.remove c]) = updatesWhile c' evs := by
    simp [updatesWhile, follow]
  refine ⟨hi.nodup.erase c, fun c' => ?_, fun t ht' => hi.task_known t (List.mem_of_mem_erase ht'),
    hi.received_known, fun c' hc' => by simp [hi.fresh c' hc', follow], fun c' => ?_,
    fun c' hc' hr => ?_⟩
  · rw [hi.nodup.mem_erase_iff, hi.isClient_iff c']
    by_cases h' : c' = c
    · simp [isClient, follow, h']
    · simp [isClient, follow, h', Ne.symm h']
  · show h.got c' ++ _ <+~ _
    rw [hu]
    exact ((hinf c').append_left _).subperm.trans (hi.sub c')
  · obtain ⟨hne, hc'⟩ := hi.nodup.mem_erase_iff.1 hc'
    show h.got c' ++ _ ~ _
    rw [hu]
    exact ((hinf c').append_left _).trans
      (hi.exact c' hc' fun h' => hr ((List.mem_erase_of_ne (by simpa using hne)).2 h'))

/-- One step keeps the invariant. -/
theorem Inv.step {e : Event} {h' : Hub} (hi : Inv evs h) (hs : Step h e h') : Inv (evs ++ [e]) h' := by
  cases hs with
  | accept hc => exact hi.accept hc
  | broadcast u => exact hi.broadcast u
  | write ht _ => exact hi.write ht
  | writeError ht => exact hi.writeError ht
  | readError ht => exact hi.readError ht
  | remove ht => exact hi.remove ht

end Steps

/-- Every run from `NewHub` keeps the invariant. -/
theorem Inv.of_run {evs : List Event} {h : Hub} (hr : Run Hub.new evs h) : Inv evs h := by
  induction hr with
  | nil => exact Inv.new
  | snoc _ hs ih => exact ih.step hs

/-- Over every run of the hub, what a connection has read and what goroutines are still
writing to it are updates broadcast while it was a client, none of them twice; for a connection
that is still a client with no removal under way, they are every such update. -/
theorem run_exact {evs : List Event} {h : Hub} (hr : Run Hub.new evs h) (c : Conn) :
    h.got c ++ h.inFlight c <+~ updatesWhile c evs ∧
      (c ∈ h.clients → Task.remover c ∉ h.tasks → h.got c ++ h.inFlight c ~ updatesWhile c evs) :=
  ⟨(Inv.of_run hr).sub c, (Inv.of_run hr).exact c⟩

/-- A subscriber connects, one update is broadcast and written to it. -/
theorem run_exact_single :
    let u : StatusUpdate := ⟨"0190a5e2-0000-7000-8000-000000000001", "delivered",
      "2025-01-01T00:00:00Z"⟩
    let evs : List Event := [.accept 0, .broadcast u, .write 0 u]
    ∃ h, Run Hub.new evs h ∧
      (h.got 0 ++ h.inFlight 0 <+~ updatesWhile 0 evs ∧
        (0 ∈ h.clients → Task.remover 0 ∉ h.tasks → h.got 0 ++ h.inFlight 0 ~ updatesWhile 0 evs)) := by
  intro u evs
  have hr : Run Hub.new evs _ :=
    (((Run.nil _).snoc (.accept (by simp [Hub.new]))).snoc (.broadcast u)).snoc
      (.write (by simp [Hub.new]) (by simp [Hub.new]))
  exact ⟨_, hr, run_exact hr 0⟩

-- ---------------------------------------------------------------------------
-- The two processes
-- ---------------------------------------------------------------------------

/-- With nothing owed to any connection, no connection has read anything. -/
theorem Inv.received_eq_nil {evs : List Event} {h : Hub} (hi : Inv evs h)
    (hu : ∀ c, updatesWhile c evs = []) : h.received = [] := by
  refine List.eq_nil_iff_forall_not_mem.2 fun ⟨c, u⟩ hp => ?_
  have hgot : h.got c = [] := by
    have := hi.sub c
    rw [hu, List.subperm_nil, List.append_eq_nil] at this
    exact this.1
  have : u ∈ h.got c := List.mem_filterMap.2 ⟨(c, u), hp, by simp⟩
  simp [hgot] at this

/-- The calls the API server's hub gets: `WebSocketHandler.Handle` accepts connections, and no
code of the API server broadcasts. -/
def apiCall : Event → Bool
  | .broadcast _ => false
  | _ => true

/-- The calls the worker's hub gets: `DeliveryService.broadcastStatus` broadcasts, and the
worker serves no `/ws`, so no connection is accepted. -/
def workerCall : Event → Bool
  | .accept _ => false
  | _ => true

/-- The API server and the worker each build a hub of their own. The API server's hub, the one
subscribers connect to, is never given an update to broadcast; the worker's hub, which every
status change is broadcast to, never has a subscriber. So whatever either process does, no
subscriber ever reads a status update. -/
theorem deployed_silent {evsApi evsWorker : List Event} {hApi hWorker : Hub}
    (hA : Run Hub.new evsApi hApi) (hAc : ∀ e ∈ evsApi, apiCall e = true)
    (hW : Run Hub.new evsWorker hWorker) (hWc : ∀ e ∈ evsWorker, workerCall e = true) :
    hApi.received = [] ∧ hWorker.clients = [] ∧ hWorker.received = [] := by
  have hnoBroadcast : ∀ e ∈ evsApi, ∀ u, e ≠ .broadcast u := by
    rintro e he u rfl
    exact Bool.false_ne_true (hAc _ he)
  have hnoAccept : ∀ e ∈ evsWorker, ∀ c, e ≠ .accept c := by
    rintro e he c rfl
    exact Bool.false_ne_true (hWc _ he)
  have hWtrack : ∀ c, track c evsWorker = (false, []) :=
    fun c => foldl_follow_of_no_accept c hnoAccept []
  have hiW := Inv.of_run hW
  refine ⟨(Inv.of_run hA).received_eq_nil fun c => foldl_follow_snd c hnoBroadcast _,
    List.eq_nil_iff_forall_not_mem.2 fun c hc => ?_,
    hiW.received_eq_nil fun c => by simp [updatesWhile, hWtrack c]⟩
  simpa [isClient, hWtrack c] using (hiW.isClient_iff c).1 hc

/-- A subscriber connects to the API server's hub while the worker broadcasts a delivery. -/
theorem deployed_silent_delivery :
    let u : StatusUpdate := ⟨"0190a5e2-0000-7000-8000-000000000001", "delivered",
      "2025-01-01T00:00:00Z"⟩
    ∃ hApi hWorker, Run Hub.new [.accept 0] hApi ∧ Run Hub.new [.broadcast u] hWorker ∧
      (hApi.received = [] ∧ hWorker.clients = [] ∧ hWorker.received = []) := by
  intro u
  have hA : Run Hub.new [.accept 0] _ := (Run.nil _).snoc (.accept (by simp [Hub.new]))
  have hW : Run Hub.new [.broadcast u] _ := (Run.nil _).snoc (.broadcast u)
  exact ⟨_, _, hA, hW, deployed_silent hA (by decide) hW (by decide)⟩

end Ws
