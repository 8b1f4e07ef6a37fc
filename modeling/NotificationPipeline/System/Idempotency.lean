-- SUMMARY: Idempotency keys: one row per key, a replay returns that row, and at most one Create per key inserts.
import NotificationPipeline.System.Frame

/-!
# Idempotency keys

`Create` with a key first asks `IdempotencyRepo.Check`. On a hit it returns the row the key is
bound to; on a miss it builds and inserts a fresh row carrying the key, binds the key with
`SetNX`, and publishes. Two tables carry keys: the unique `idempotency_key` column of
`notifications`, and `idempotency_keys`, to which `SetNX` adds one entry per key.

For every key `k` and every run: at most one row carries `k`; every `Create` carrying `k` that
returned a notification returned that row; and at most one `Create` carrying `k` got its insert
in, so at most one calls `Enqueue` (`create_key_unique`). That every such call succeeds does
not hold: a `Create` whose `Check` missed while another call with `k` had already inserted
returns `ErrDuplicateIdempotencyKey` (`create_key_race`).

No statement deletes an entry of `idempotency_keys`, and `Check` reads only unexpired ones. So
once every entry for `k` has expired while a row still carries `k`, the key is retired for good:
it stays retired over every later step, and every `Create` with `k` started since misses in
`Check` and fails on the unique column (`retired_key_refused`).
-/

namespace Postgres

/-- Every entry of `idempotency_keys` binds its key to the row carrying it. -/
def Store.KeysBound (s : Store) : Prop :=
  ∀ e ∈ s.idempotencyKeys, ∃ f ∈ s.fixedRows, f.id = e.notificationId ∧
    f.idempotencyKey = some e.key

/-- The key `k` is retired at `now`: it has an entry in `idempotency_keys`, every entry for it
has expired, and a row of `notifications` carries it. -/
structure Store.KeyRetired (s : Store) (k : String) (now : Domain.Instant) : Prop where
  entry : ∃ e ∈ s.idempotencyKeys, e.key = k
  expired : ∀ e ∈ s.idempotencyKeys, e.key = k → e.expiresAt ≤ now
  carried : ∃ f ∈ s.fixedRows, f.idempotencyKey = some k

end Postgres

namespace App

open Domain Uuid Postgres

/-- What a program point of `Create` says about the store: a hit names an entry for the input's
key, the notification is a row of the table once inserted, and a returned notification is a
row carrying the input's key. -/
def CreatePc.Bound (s : Store) (input : CreateNotificationInput) : CreatePc → Prop
  | .hit str => ∃ e ∈ s.idempotencyKeys, some e.key = input.idempotencyKey ∧
      str = e.notificationId.toString
  | .inserted n | .publishing n => n.fixed ∈ s.fixedRows
  | .done r => ∀ n, r = .ok n →
      ∃ f ∈ s.fixedRows, f.id = n.id ∧ f.idempotencyKey = input.idempotencyKey
  | .published r => ∃ f ∈ s.fixedRows, f.idempotencyKey = input.idempotencyKey ∧
      ∀ n, r = .ok n → f.id = n.id
  | .start | .fresh | .built _ => True

variable {s s' : Store} {input : CreateNotificationInput}

theorem CreatePc.Bound.mono {pc : CreatePc} (hb : pc.Bound s input)
    (hf : s.fixedRows ⊆ s'.fixedRows) (hk : s.idempotencyKeys ⊆ s'.idempotencyKeys) :
    pc.Bound s' input := by
  cases pc with
  | hit => obtain ⟨e, he, h1, h2⟩ := hb; exact ⟨e, hk he, h1, h2⟩
  | inserted | publishing => exact hf hb
  | done => exact fun n hn => let ⟨f, hf', h1, h2⟩ := hb n hn; ⟨f, hf hf', h1, h2⟩
  | published => obtain ⟨f, hf', h1, h2⟩ := hb; exact ⟨f, hf hf', h1, h2⟩
  | start | fresh | built => trivial

theorem CreatePc.bound_ofBuilt (r : Except GoError Notification) :
    (CreatePc.ofBuilt r).Bound s input := by
  cases r with
  | error => exact fun n hn => by cases hn
  | ok => trivial

/-- A step of `Create` keeps what its program point says about the store. -/
theorem CreateStep.bound {m : Mode} {pc pc' : CreatePc} {w w' : World}
    (h : CreateStep m input pc w pc' w') (hwf : pc.Wf input) (hb : pc.Bound w.store input)
    (hk : w.store.KeysBound) (hw : w.store.Wf) : pc'.Bound w'.store input := by
  cases h with
  | noKey | checkMiss | checkFault => trivial
  | checkHit hk' h =>
    obtain ⟨e, he, hkey, -, hstr⟩ := IdempotencyRepo.check_hit h
    exact ⟨e, he, by rw [hkey, hk'], hstr⟩
  | hitLoad =>
    obtain ⟨e, he, hkey, rfl⟩ := hb
    intro n hn
    rw [parse_toString, Option.getD_some] at hn
    obtain ⟨hmem, hid⟩ := NotificationRepo.getByID_ok hn
    obtain ⟨f, hf, hfid, hfk⟩ := hk e he
    have hfix : n.fixed = f := hw.fixed_eq (List.mem_map_of_mem _ hmem) hf (hid.trans hfid.symm)
    exact ⟨n.fixed, List.mem_map_of_mem _ hmem, rfl, by rw [hfix, hfk, hkey]⟩
  | hitFault | insertError | insertFault => exact fun n hn => by cases hn
  | build => exact CreatePc.bound_ofBuilt _
  | insert h =>
    obtain ⟨rfl, -⟩ := NotificationRepo.create_ok h
    simp [CreatePc.Bound, Store.fixedRows]
  | setNX => simpa [CreatePc.Bound, Store.fixedRows] using hb
  | setNXFault | noSetNX => exact hb
  | enqueueScheduled => exact fun n hn => by cases hn; exact ⟨_, hb, rfl, hwf.2.1⟩
  | enqueue => exact ⟨_, hb, hwf.2.1, fun n hn => by cases hn; rfl⟩
  | enqueueError | enqueueFault => exact ⟨_, hb, hwf.2.1, fun n hn => by cases hn⟩

/-- Where a `Create` carrying a retired key `k` can be: past `Check`, which no longer hits, and
at most at its insert, which fails on the unique column. -/
def CreatePc.Refused (k : String) : CreatePc → Prop
  | .start | .fresh => True
  | .built n => n.idempotencyKey = some k
  | .done r => ∃ e, r = .error e
  | _ => False

theorem CreatePc.refused_ofBuilt {k : String} (hk : input.idempotencyKey = some k)
    (content : Except GoError String) (id : UUID) (now : Instant) :
    (CreatePc.ofBuilt (content >>= fun c => input.build c id now)).Refused k := by
  cases content with
  | error e => exact ⟨e, rfl⟩
  | ok c =>
    show (CreatePc.ofBuilt (input.build c id now)).Refused k
    cases hb : input.build c id now with
    | error e => exact ⟨e, rfl⟩
    | ok n => exact (CreateNotificationInput.build_ok hb).2.2.2.2.1.trans hk

/-- A step of a `Create` carrying a retired key keeps it refused. -/
theorem CreateStep.refused {m : Mode} {pc pc' : CreatePc} {w w' : World} {k : String}
    (h : CreateStep m input pc w pc' w') (hkey : input.idempotencyKey = some k)
    (hr : w.store.KeyRetired k w.now) (hpc : pc.Refused k) : pc'.Refused k := by
  cases h with
  | noKey | checkMiss | checkFault => trivial
  | checkHit hk h =>
    obtain ⟨e, he, hek, hlive, -⟩ := IdempotencyRepo.check_hit h
    have hek' : e.key = k := hek.trans (Option.some.inj (hk.symm.trans hkey))
    exact absurd (hr.expired e he hek') (Nat.not_le.2 hlive)
  | build id content => exact CreatePc.refused_ofBuilt hkey content id w.now
  | insert h =>
    obtain ⟨f, hf, hfk⟩ := hr.carried
    obtain ⟨r, hr', rfl⟩ := List.mem_map.1 hf
    exact absurd hfk
      ((NotificationRepo.insertError_eq_none (NotificationRepo.create_ok h).2).2.1 k hpc r hr')
  | insertError | insertFault => exact ⟨_, rfl⟩
  | _ => exact hpc.elim

end App

namespace Pipeline

open Domain Uuid Postgres Queue App

/-- What an operation's program point says about the store. -/
def Op.Bound (s : Store) : Op → Prop
  | .create input pc => pc.Bound s input
  | _ => True

/-- A `Create` carrying `k` whose insert went in: it is about to call `SetNX`, about to
publish, or has called `Enqueue`. -/
def Op.PastInsert (k : String) : Op → Prop
  | .create input (.inserted _) | .create input (.publishing _) | .create input (.published _) =>
    input.idempotencyKey = some k
  | _ => False

/-- What holds of a key `k` in a configuration. -/
structure Config.KeyUnique (c : Config) (k : String) : Prop where
  /-- At most one row carries `k`. -/
  oneRow : ∀ r ∈ c.world.store.notifications, ∀ r' ∈ c.world.store.notifications,
    r.idempotencyKey = some k → r'.idempotencyKey = some k → r = r'
  /-- A `Create` carrying `k` that returned a notification returned the row carrying `k`. -/
  returned : ∀ input r n, (Op.create input (.done r) ∈ c.ops ∨ Op.create input (.published r) ∈ c.ops) →
    input.idempotencyKey = some k → r = .ok n →
    ∃ row ∈ c.world.store.notifications, row.id = n.id ∧ row.idempotencyKey = some k
  /-- At most one `Create` carrying `k` got its insert in. -/
  oneInsert : ∀ a b (ha : a < c.ops.length) (hb : b < c.ops.length),
    c.ops[a].PastInsert k → c.ops[b].PastInsert k → a = b

variable {s s' : Store} {m : Mode} {w w' : World} {op op' : Op}

theorem Op.Bound.mono (hb : op.Bound s) (hf : s.fixedRows ⊆ s'.fixedRows)
    (hk : s.idempotencyKeys ⊆ s'.idempotencyKeys) : op.Bound s' := by
  cases op with
  | create => exact CreatePc.Bound.mono hb hf hk
  | _ => trivial

/-- A `Create` past its insert has a row carrying its key. -/
theorem Op.PastInsert.carried {k : String} (hp : op.PastInsert k) (hb : op.Bound s) (hwf : op.Wf) :
    ∃ f ∈ s.fixedRows, f.idempotencyKey = some k := by
  rcases op with ⟨_, _ | _ | _ | _ | _ | _ | _ | _⟩ | _ | _ | _ | _ <;> try exact hp.elim
  · exact ⟨_, hb, hwf.2.1.trans hp⟩
  · exact ⟨_, hb, hwf.2.1.trans hp⟩
  · obtain ⟨f, hf, hkey, -⟩ := hb
    exact ⟨f, hf, hkey.trans hp⟩

/-- Only `SetNX` adds to `idempotency_keys`, once, for the key of the row `Create` inserted, and
only a key with no entry yet. -/
theorem OpStep.idempotencyKeys (h : OpStep m op w op' w') :
    w'.store.idempotencyKeys = w.store.idempotencyKeys ∨
      ∃ input n k, op = .create input (.inserted n) ∧ input.idempotencyKey = some k ∧
        (∀ e ∈ w.store.idempotencyKeys, e.key ≠ k) ∧
        w'.store.idempotencyKeys = w.store.idempotencyKeys ++ [⟨k, n.id, w.now + idempotencyTTL⟩] := by
  rcases h with ⟨h⟩ | ⟨h⟩ | ⟨h⟩ | ⟨-, h⟩ | ⟨h⟩
  · cases h with
    | insert h => obtain ⟨rfl, -⟩ := NotificationRepo.create_ok h; exact .inl rfl
    | setNX hk =>
      show (storeAfterSetNX _ _ _ _).idempotencyKeys = _ ∨ _
      unfold storeAfterSetNX
      split
      · rcases (IdempotencyRepo.setNX_ok ‹_›).2.2 with hkeys | ⟨hkeys, hfree, -⟩
        · exact .inl hkeys
        · exact .inr ⟨_, _, _, rfl, hk, hfree, hkeys⟩
      · exact .inl rfl
    | _ => exact .inl rfl
  · cases h with
    | persist h => exact .inl (NotificationRepo.createBatch_ok h).2.2
    | _ => exact .inl rfl
  · cases h with
    | cancel h => exact .inl (NotificationRepo.cancel_ok h).2.2
    | bump => exact .inl NotificationRepo.incrementBatchCounter_idempotencyKeys
    | _ => exact .inl rfl
  · cases h with
    | bump => exact .inl NotificationRepo.incrementBatchCounter_idempotencyKeys
    | _ => exact .inl rfl
  · cases h <;> exact .inl rfl

theorem OpStep.keys_subset (h : OpStep m op w op' w') :
    w.store.idempotencyKeys ⊆ w'.store.idempotencyKeys := by
  rcases h.idempotencyKeys with hk | ⟨_, _, _, -, -, -, hk⟩
  · exact fun _ hx => hk ▸ hx
  · exact fun _ hx => hk ▸ List.mem_append_left _ hx

/-- A step keeps the bindings of `idempotency_keys`. -/
theorem OpStep.keysBound (h : OpStep m op w op' w') (hop : op.Bound w.store) (hwf : op.Wf)
    (hk : w.store.KeysBound) : w'.store.KeysBound := by
  have hpre := h.effect.fixedRows_prefix.subset
  intro e he
  rcases h.idempotencyKeys with hkeys | ⟨input, n, k, rfl, hkey, -, hkeys⟩
  · obtain ⟨f, hf, h1, h2⟩ := hk e (hkeys ▸ he)
    exact ⟨f, hpre hf, h1, h2⟩
  · rw [hkeys, List.mem_append, List.mem_singleton] at he
    rcases he with he | rfl
    · obtain ⟨f, hf, h1, h2⟩ := hk e he
      exact ⟨f, hpre hf, h1, h2⟩
    · exact ⟨n.fixed, hpre hop, rfl, hwf.2.1.trans hkey⟩

theorem OpStep.bound (h : OpStep m op w op' w') (hwf : op.Wf) (hb : op.Bound w.store)
    (hk : w.store.KeysBound) (hw : w.store.Wf) : op'.Bound w'.store := by
  rcases h with ⟨h⟩ | ⟨h⟩ | ⟨h⟩ | ⟨-, h⟩ | ⟨h⟩
  · exact h.bound hwf hb hk hw
  all_goals trivial

theorem Op.not_pastInsert_ofBuilt (input : CreateNotificationInput) (r : Except GoError Notification)
    (k : String) : ¬ (Op.create input (.ofBuilt r)).PastInsert k := by
  cases r <;> exact id

/-- An operation gets past its insert only by its own insert, whose row is the first to carry
its key. -/
theorem OpStep.pastInsert {k : String} (h : OpStep m op w op' w') (hp : op'.PastInsert k) :
    op.PastInsert k ∨ ∃ input n, op = .create input (.built n) ∧ input.idempotencyKey = some k ∧
      NotificationRepo.insertError w.store n = none := by
  rcases h with ⟨h⟩ | ⟨h⟩ | ⟨h⟩ | ⟨-, h⟩ | ⟨h⟩ <;> try exact hp.elim
  cases h with
  | insert h => exact .inr ⟨_, _, rfl, hp, (NotificationRepo.create_ok h).2⟩
  | setNX | setNXFault | noSetNX | enqueue | enqueueError | enqueueFault => exact .inl hp
  | build => exact absurd hp (Op.not_pastInsert_ofBuilt _ _ _)
  | _ => exact hp.elim

-- ---------------------------------------------------------------------------
-- The invariant
-- ---------------------------------------------------------------------------

/-- The key invariant. -/
structure KeyInv (c : Config) : Prop where
  keys : c.world.store.KeysBound
  bound : ∀ op ∈ c.ops, op.Bound c.world.store
  unique : ∀ k a b (ha : a < c.ops.length) (hb : b < c.ops.length),
    c.ops[a].PastInsert k → c.ops[b].PastInsert k → a = b

section Step

variable {c : Config}

theorem KeyInv.step (hi : KeyInv c) (hw : c.world.store.Wf) (hops : ∀ op ∈ c.ops, op.Wf)
    {c' : Config} (hs : Step m c c') : KeyInv c' := by
  cases hs with
  | @start op h _ =>
    have hnew : ∀ k, ¬ op.PastInsert k := fun k => by cases h <;> exact id
    refine ⟨hi.keys, fun o ho => ?_, fun k a b ha hb hpa hpb => ?_⟩
    · rcases List.mem_append.1 ho with ho | ho
      · exact hi.bound o ho
      · rw [List.mem_singleton.1 ho]; cases h <;> trivial
    · have hold : ∀ x (hx : x < (c.ops ++ [op]).length), (c.ops ++ [op])[x].PastInsert k →
          ∃ hx' : x < c.ops.length, c.ops[x].PastInsert k := by
        intro x hx hpx
        by_cases hx' : x < c.ops.length
        · exact ⟨hx', by rwa [List.getElem_append_left hx'] at hpx⟩
        · have hxl : x = c.ops.length := by simp at hx; omega
          subst hxl
          rw [List.getElem_concat_length _ _ _ rfl] at hpx
          exact (hnew k hpx).elim
      obtain ⟨ha', hpa'⟩ := hold a ha hpa
      obtain ⟨hb', hpb'⟩ := hold b hb hpb
      exact hi.unique k a b ha' hb' hpa' hpb'
  | @run i op' w' hlt h =>
    have hop := List.getElem_mem hlt
    have hwf := hops _ hop
    have hb := hi.bound _ hop
    have hf := h.effect.fixedRows_prefix.subset
    have hk := h.keys_subset
    -- the running operation gets past its insert only while no other one is
    have hfresh : ∀ k, op'.PastInsert k → ∀ b (hb : b < c.ops.length), c.ops[b].PastInsert k →
        b = i := by
      intro k hp b hb' hpb
      rcases h.pastInsert hp with hp₀ | ⟨input, n, hopi, hkey, hins⟩
      · exact hi.unique k b i hb' hlt hpb hp₀
      · obtain ⟨f, hf', hfk⟩ := hpb.carried (hi.bound _ (List.getElem_mem hb')) (hops _ (List.getElem_mem hb'))
        obtain ⟨r, hr, rfl⟩ := List.mem_map.1 hf'
        rw [hopi] at hwf
        exact absurd hfk ((NotificationRepo.insertError_eq_none hins).2.1 k (hwf.2.1.trans hkey) r hr)
    refine ⟨h.keysBound hb hwf hi.keys,
      forall_mem_set (fun o ho => (hi.bound o ho).mono hf hk) _ (h.bound hwf hb hi.keys hw),
      fun k a b ha hb' hpa hpb => ?_⟩
    have ha' : a < c.ops.length := by simpa using ha
    have hb'' : b < c.ops.length := by simpa using hb'
    rw [List.getElem_set] at hpa hpb
    split at hpa <;> split at hpb
    · subst_vars; rfl
    · subst_vars; exact (hfresh k hpa b hb'' hpb).symm
    · subst_vars; exact hfresh k hpb a ha' hpa
    · exact hi.unique k a b ha' hb'' hpa hpb
  | template h => obtain rfl := h.store; exact ⟨hi.keys, hi.bound, hi.unique⟩
  | tick => exact ⟨hi.keys, hi.bound, hi.unique⟩

theorem KeyInv.reachable (h : Reachable m c) : KeyInv c := by
  induction h with
  | init => exact ⟨by simp [Store.KeysBound, Config.init, World.init, Store.empty],
      by simp [Config.init], fun _ a _ ha => by simp [Config.init] at ha⟩
  | step hc hs ih => exact ih.step hc.store_wf hc.ops_wf hs

end Step

variable {c : Config}

/-- Two `Create` calls with one key race: both miss in `Check`, the first inserts, and the
second's insert hits the unique column and returns `ErrDuplicateIdempotencyKey` instead of the
first call's notification. -/
theorem create_key_race : ∃ c : Config, Reachable Mode.deployed c ∧
    ∃ input input' n, input.idempotencyKey = some "order-42" ∧
      input'.idempotencyKey = some "order-42" ∧ Op.create input (.published (.ok n)) ∈ c.ops ∧
      Op.create input' (.done (.error (.sentinel .duplicateIdempotencyKey))) ∈ c.ops := by
  have h0 := (Reachable.init (m := Mode.deployed)).start
    (.create ⟨.sms, "+905530050594", "Hello", .normal, none, some "order-42", none, none⟩)
    (by simp [Config.init])
  have h1 := h0.start
    (.create ⟨.sms, "+905530050594", "Hello again", .normal, none, some "order-42", none, none⟩)
    (by decide)
  have h2 := h1.run (i := 0) (by decide) (.create (.checkMiss rfl rfl))
  have h3 := h2.run (i := 1) (by decide) (.create (.checkMiss rfl rfl))
  have h4 := h3.run (i := 0) (by decide)
    (.create (.build ⟨List.replicate 16 1, rfl⟩ (.ok "Hello") (.plain rfl)))
  have h5 := h4.run (i := 0) (by decide) (.create (.insert rfl))
  have h6 := h5.run (i := 1) (by decide)
    (.create (.build ⟨List.replicate 16 2, rfl⟩ (.ok "Hello again") (.plain rfl)))
  have h7 := h6.run (i := 1) (by decide) (.create (.insertError rfl))
  have h8 := h7.run (i := 0) (by decide) (.create (.setNX rfl))
  have h9 := h8.run (i := 0) (by decide) (.create (.enqueue rfl rfl))
  exact ⟨_, h9, _, _, _, rfl, rfl, .head _, .tail _ (.head _)⟩

-- ---------------------------------------------------------------------------
-- A retired key stays refused
-- ---------------------------------------------------------------------------

/-- A `Create` carrying `k` is refused. -/
def Op.RefusedFor (k : String) : Op → Prop
  | .create input pc => input.idempotencyKey = some k → pc.Refused k
  | _ => True

section Retired

variable {k : String}

theorem OpStep.refusedFor (h : OpStep m op w op' w') (hr : w.store.KeyRetired k w.now)
    (hop : op.RefusedFor k) : op'.RefusedFor k := by
  cases h with
  | create h => exact fun hkey => h.refused hkey hr (hop hkey)
  | _ => trivial

/-- A step keeps a key retired: no entry is removed and `SetNX` adds none for a key that has
one, the clock does not move, and rows are never deleted and keep their key. -/
theorem OpStep.keyRetired (h : OpStep m op w op' w') (hr : w.store.KeyRetired k w.now) :
    w'.store.KeyRetired k w'.now := by
  obtain ⟨⟨e₀, he₀, hk₀⟩, hexp, f, hf, hfk⟩ := hr
  rw [h.now_eq]
  refine ⟨⟨e₀, h.keys_subset he₀, hk₀⟩, fun e he hek => ?_, f, h.effect.fixedRows_prefix.subset hf, hfk⟩
  rcases h.idempotencyKeys with hkeys | ⟨_, _, k', -, -, hfree, hkeys⟩
  · exact hexp e (hkeys ▸ he) hek
  · rw [hkeys, List.mem_append, List.mem_singleton] at he
    rcases he with he | rfl
    · exact hexp e he hek
    · exact absurd (hk₀.trans hek.symm) (hfree e₀ he₀)

/-- What holds from the configuration on which `k` was retired with `n` operations started:
the key is still retired, and every `Create` started since and carrying it is refused. -/
structure RetiredSince (n : Nat) (k : String) (c : Config) : Prop where
  started : n ≤ c.ops.length
  retired : c.world.store.KeyRetired k c.world.now
  refused : ∀ op ∈ c.ops.drop n, op.RefusedFor k

variable {n : Nat} {c c' : Config}

theorem RetiredSince.step (hi : RetiredSince n k c) (hs : Step m c c') : RetiredSince n k c' := by
  cases hs with
  | start h _ =>
    refine ⟨by simpa using Nat.le_succ_of_le hi.started, hi.retired, ?_⟩
    rw [List.drop_append_of_le_length hi.started]
    intro o ho
    rcases List.mem_append.1 ho with ho | ho
    · exact hi.refused o ho
    · rw [List.mem_singleton.1 ho]
      cases h <;> first | exact fun _ => trivial | trivial
  | @run i _ _ hlt h =>
    refine ⟨by simpa using hi.started, h.keyRetired hi.retired, ?_⟩
    rw [List.drop_set]
    split
    · exact hi.refused
    · have hmem : c.ops[i] ∈ c.ops.drop n := List.mem_drop_iff_getElem.2
        ⟨i - n, by omega, by simp [Nat.add_sub_cancel' (Nat.not_lt.1 ‹_›)]⟩
      exact forall_mem_set hi.refused _ (h.refusedFor hi.retired (hi.refused _ hmem))
  | template h =>
    obtain rfl := h.store
    exact ⟨hi.started, ⟨hi.retired.entry, hi.retired.expired, hi.retired.carried⟩, hi.refused⟩
  | tick d =>
    refine ⟨hi.started, ⟨hi.retired.entry, fun e he hk => ?_, hi.retired.carried⟩, hi.refused⟩
    exact (hi.retired.expired e he hk).trans (Nat.le_add_right _ _)

theorem RetiredSince.run (hi : RetiredSince n k c) (hrun : Relation.ReflTransGen (Step m) c c') :
    RetiredSince n k c' := by
  induction hrun with
  | refl => exact hi
  | tail _ hs ih => exact ih.step hs

/-- A key is retired once every entry for it has expired while a row still carries it. It stays
retired for good, in every mode and every interleaving: in every later configuration the key is
still retired, and every `Create` carrying it that started after it was retired is refused.
`Check` no longer finds the key and the unique column refuses a second row with it, so such a
call never gets past its insert and never returns a notification. -/
theorem retired_key_refused (hk : c.world.store.KeyRetired k c.world.now)
    (hrun : Relation.ReflTransGen (Step m) c c') :
    c'.world.store.KeyRetired k c'.world.now ∧ ∀ op ∈ c'.ops.drop c.ops.length, op.RefusedFor k :=
  have hi := (RetiredSince.mk le_rfl hk (by simp)).run hrun
  ⟨hi.retired, hi.refused⟩

end Retired

/-- A `Create` with the key `order-42` runs to its end and the key's entry expires a day later;
then a second `Create` with the key misses in `Check` and hits the unique column. -/
theorem key_retired_replayed : ∃ c : Config, Reachable Mode.serial c ∧
    c.world.store.KeyRetired "order-42" c.world.now ∧ ∃ c', Relation.ReflTransGen (Step Mode.serial) c c' ∧
    c'.ops.drop c.ops.length =
      [.create ⟨.sms, "+905530050594", "Hello", .normal, none, some "order-42", none, none⟩
        (.done (.error (.sentinel .duplicateIdempotencyKey)))] := by
  have h0 := (Reachable.init (m := Mode.serial)).start
    (.create ⟨.sms, "+905530050594", "Hello", .normal, none, some "order-42", none, none⟩)
    (by simp [Config.init])
  have h1 := h0.run (i := 0) (by decide) (.create (.checkMiss rfl rfl))
  have h2 := h1.run (i := 0) (by decide)
    (.create (.build ⟨List.replicate 16 1, rfl⟩ (.ok "Hello") (.plain rfl)))
  have h3 := h2.run (i := 0) (by decide) (.create (.insert rfl))
  have h4 := h3.run (i := 0) (by decide) (.create (.setNX rfl))
  have h5 := h4.run (i := 0) (by decide) (.create (.enqueue rfl rfl))
  exact ⟨_, h5.step (.tick idempotencyTTL),
    ⟨⟨_, List.mem_singleton_self _, rfl⟩, by decide, ⟨_, List.mem_singleton_self _, rfl⟩⟩, _,
    .tail (.tail (.tail (.single (.start
      (.create ⟨.sms, "+905530050594", "Hello", .normal, none, some "order-42", none, none⟩) (by decide)))
      (.run (i := 1) (by decide) (.create (.checkMiss rfl rfl))))
      (.run (i := 1) (by decide)
        (.create (.build ⟨List.replicate 16 2, rfl⟩ (.ok "Hello") (.plain rfl)))))
      (.run (i := 1) (by decide) (.create (.insertError rfl))), rfl⟩

/-- The replay of a retired key is refused, and the key stays retired. -/
theorem retired_key_refused_replay : ∃ c c' : Config, Reachable Mode.serial c ∧
    c.world.store.KeyRetired "order-42" c.world.now ∧ Relation.ReflTransGen (Step Mode.serial) c c' ∧
    c'.ops.drop c.ops.length =
      [.create ⟨.sms, "+905530050594", "Hello", .normal, none, some "order-42", none, none⟩
        (.done (.error (.sentinel .duplicateIdempotencyKey)))] ∧
    c'.world.store.KeyRetired "order-42" c'.world.now ∧
      ∀ op ∈ c'.ops.drop c.ops.length, op.RefusedFor "order-42" := by
  obtain ⟨c, hc, hk, c', hr, hd⟩ := key_retired_replayed
  exact ⟨c, c', hc, hk, hr, hd, retired_key_refused hk hr⟩

end Pipeline
