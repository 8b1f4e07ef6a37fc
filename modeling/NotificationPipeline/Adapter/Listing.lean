-- SUMMARY: GET /notifications: the filter, NotificationRepo.List's keyset page, the next cursor, and reading every page.
import NotificationPipeline.Adapter.Postgres
import Mathlib.Algebra.Group.Nat.Basic

/-!
# Listing notifications

`GET /notifications`: `NotificationHandler.List` binds the query into a
`ListNotificationsRequest`, `ToFilter` turns it into a `domain.NotificationFilter`,
`NotificationService.List` passes it to `NotificationRepo.List`, and
`NewNotificationListResponse` wraps the page, with a `next_cursor` when the page looks full.

`List` is keyset pagination: `id < cursor`, `ORDER BY created_at DESC, id DESC`, and a `LIMIT`
of the requested size clamped to 20 when it is not in 1..100. Postgres compares `uuid`
values byte by byte. `time.Parse(time.RFC3339, ...)` is a parameter: only the bounds it yields
matter here. Gin's recovery middleware answers a handler panic with 500.

A client that follows every `next_cursor` reads each matching row once, in order, when the
rows' ids follow their creation and the page size is in 1..100 (`listAll_pages`). Outside that
range the response compares the page with the size asked for, not the clamped one: the
listing stops after 20 rows, and without `page_size` an empty result indexes
`notifications[-1]` (`listAll_clamped`). A cursor compares ids only, so a row created earlier
with a larger id is skipped (`list_pages_lose_rows`).
-/

namespace Domain

open Uuid

/-- `domain.NotificationFilter`. -/
structure NotificationFilter where
  status : Option Status
  channel : Option Channel
  dateFrom : Option Instant
  dateTo : Option Instant
  batchId : Option UUID
  cursor : Option UUID
  pageSize : Int
deriving DecidableEq, Repr

end Domain

namespace Postgres.NotificationRepo

open Domain Uuid

/-- The big-endian number a byte string spells. -/
def bytesValue : List UInt8 → Nat
  | [] => 0
  | b :: bs => b.toNat * 256 ^ bs.length + bytesValue bs

/-- Postgres orders `uuid` values by `memcmp` of their 16 bytes: as the numbers they spell. -/
def uuidValue (u : UUID) : Nat := bytesValue u.bytes

/-- The `WHERE` of `List`. -/
def listMatches (f : NotificationFilter) (r : Notification) : Bool :=
  f.status.all (r.status == ·) && f.channel.all (r.channel == ·) &&
    f.batchId.all (r.batchId == some ·) && f.dateFrom.all (· ≤ r.createdAt) &&
    f.dateTo.all (r.createdAt ≤ ·) && f.cursor.all (fun c => decide (uuidValue r.id < uuidValue c))

/-- `ORDER BY created_at DESC, id DESC`: `a` may come before `b`. -/
def listedBefore (a b : Notification) : Prop :=
  b.createdAt < a.createdAt ∨ (a.createdAt = b.createdAt ∧ ¬ uuidValue a.id < uuidValue b.id)

instance : DecidableRel listedBefore := fun _ _ =>
  inferInstanceAs (Decidable (_ ∨ (_ ∧ ¬ _)))

/-- The rows `List` selects, in its order, before the `LIMIT`. -/
def listed (s : Store) (f : NotificationFilter) : List Notification :=
  (s.notifications.filter (listMatches f)).insertionSort listedBefore

/-- The `LIMIT`: the requested size, or 20 when it is not in 1..100. -/
def pageLimit (pageSize : Int) : Nat :=
  if pageSize ≤ 0 ∨ 100 < pageSize then 20 else pageSize.toNat

/-- `List`. -/
def list (s : Store) (f : NotificationFilter) : List Notification :=
  (listed s f).take (pageLimit f.pageSize)

-- ---------------------------------------------------------------------------
-- The order of the listing
-- ---------------------------------------------------------------------------

theorem bytesValue_lt : ∀ bs : List UInt8, bytesValue bs < 256 ^ bs.length
  | [] => by simp [bytesValue]
  | b :: bs => by
    have hb : b.toNat < 256 := b.val.isLt
    calc b.toNat * 256 ^ bs.length + bytesValue bs
        < b.toNat * 256 ^ bs.length + 256 ^ bs.length := Nat.add_lt_add_left (bytesValue_lt bs) _
      _ = (b.toNat + 1) * 256 ^ bs.length := by rw [Nat.succ_mul]
      _ ≤ 256 ^ (bs.length + 1) := by
        rw [Nat.pow_succ, Nat.mul_comm (256 ^ _)]; exact Nat.mul_le_mul_right _ hb

theorem bytesValue_inj : ∀ {bs bs' : List UInt8}, bs.length = bs'.length →
    bytesValue bs = bytesValue bs' → bs = bs'
  | [], [], _, _ => rfl
  | b :: bs, b' :: bs', hl, h => by
    simp only [List.length_cons, Nat.succ.injEq] at hl
    simp only [bytesValue, ← hl] at h
    have hdiv : ∀ (x : UInt8) (y : List UInt8), y.length = bs.length →
        (x.toNat * 256 ^ bs.length + bytesValue y) / 256 ^ bs.length = x.toNat := by
      intro x y hy
      rw [Nat.add_comm, Nat.add_mul_div_right _ _ (Nat.pow_pos (by decide)),
        Nat.div_eq_of_lt (hy ▸ bytesValue_lt y), Nat.zero_add]
    have hd : b.toNat = b'.toNat := by rw [← hdiv b bs rfl, h, hdiv b' bs' hl.symm]
    rw [UInt8.toNat.inj hd, bytesValue_inj hl (by rw [hd] at h; omega)]

/-- Distinct uuids compare one way or the other. -/
theorem uuidValue_inj {u v : UUID} (h : uuidValue u = uuidValue v) : u = v := by
  obtain ⟨bs, hb⟩ := u
  obtain ⟨bs', hb'⟩ := v
  obtain rfl := bytesValue_inj (hb.trans hb'.symm) h
  rfl

instance : IsTotal Notification listedBefore := ⟨fun _ _ => by
  unfold listedBefore Instant; omega⟩

instance : IsTrans Notification listedBefore := ⟨fun _ _ _ => by
  unfold listedBefore Instant; omega⟩

/-- The rows of `s` got their ids in the order they were created, as `uuid.NewV7` draws them
in one process: a row created earlier has a smaller id. -/
def IdsFollowCreation (s : Store) : Prop :=
  ∀ a ∈ s.notifications, ∀ b ∈ s.notifications,
    a.createdAt < b.createdAt → uuidValue a.id < uuidValue b.id

section Keyset

variable {s : Store} (hid : (s.notifications.map (·.id)).Nodup) (hord : IdsFollowCreation s)
include hid hord

/-- When ids follow creation, the listing is in descending order of ids. -/
theorem listed_pairwise (f : NotificationFilter) :
    (listed s f).Pairwise (fun a b => uuidValue b.id < uuidValue a.id) := by
  have hsub : listed s f ⊆ s.notifications := fun x hx =>
    (List.mem_filter.1 ((List.mem_insertionSort _).1 hx)).1
  have hnd : ((listed s f).map (·.id)).Nodup :=
    ((List.perm_insertionSort _ _).map _).nodup_iff.2 (((List.filter_sublist _).map _).nodup hid)
  refine ((List.sorted_insertionSort listedBefore _).and (List.pairwise_map.1 hnd)).imp_of_mem ?_
  rintro a b ha hb ⟨hab | ⟨-, hle⟩, hne⟩
  · exact hord b (hsub hb) a (hsub ha) hab
  · have : uuidValue a.id ≠ uuidValue b.id := fun h => hne (uuidValue_inj h)
    omega

/-- A cursor cuts the listing: the rows after it are the listed rows with a smaller id. -/
theorem listed_cursor {f : NotificationFilter} (hf : f.cursor = none) (c : UUID) :
    listed s { f with cursor := some c } =
      (listed s f).filter (fun r => uuidValue r.id < uuidValue c) := by
  have hs := listed_pairwise hid hord
  have hnd : ∀ f, (listed s f).Nodup := fun f =>
    (hs f).imp (by rintro a b h rfl; exact Nat.lt_irrefl _ h)
  haveI : IsAntisymm Notification (fun a b => uuidValue b.id < uuidValue a.id) :=
    ⟨fun _ _ h h' => absurd (h.trans h') (Nat.lt_irrefl _)⟩
  refine List.eq_of_perm_of_sorted ?_ (hs _) ((hs f).filter _)
  rw [List.perm_ext_iff_of_nodup (hnd _) ((hnd f).filter _)]
  intro r
  simp [listed, List.mem_insertionSort, listMatches, hf, and_assoc]

end Keyset

/-- In a list of descending ids, the rows below the `j`-th are those after it. -/
theorem filter_lt_getElem : ∀ {l : List Notification},
    l.Pairwise (fun a b => uuidValue b.id < uuidValue a.id) → ∀ j (hj : j < l.length),
    l.filter (fun r => uuidValue r.id < uuidValue l[j].id) = l.drop (j + 1)
  | x :: xs, hl, 0, _ => by
    rw [List.pairwise_cons] at hl
    simp [List.filter_eq_self.2 fun r hr => decide_eq_true (hl.1 r hr)]
  | x :: xs, hl, j + 1, hj => by
    rw [List.pairwise_cons] at hl
    have hj' : j < xs.length := by simpa using hj
    have hx : ¬ uuidValue x.id < uuidValue xs[j].id := Nat.lt_asymm (hl.1 _ (List.getElem_mem _))
    simp [hx, filter_lt_getElem hl.2 j hj']

end Postgres.NotificationRepo

namespace Http

open Domain Uuid Postgres Postgres.NotificationRepo

/-- `ListNotificationsRequest`, as bound from the query string. -/
structure ListNotificationsRequest where
  status : Option String
  channel : Option String
  dateFrom : Option String
  dateTo : Option String
  cursor : Option String
  pageSize : Int
deriving DecidableEq, Repr

/-- `ListResponse[NotificationResponse]`: the page, each row as `NewNotificationResponse`
renders it, and the cursor of the next page. -/
structure ListResponse where
  data : List Notification
  nextCursor : Option String
deriving DecidableEq, Repr

variable (parseTime : String → Option Instant)

/-- `ToFilter`: a bound that does not parse, or a cursor that is not a uuid, is dropped. -/
def ListNotificationsRequest.toFilter (r : ListNotificationsRequest) : NotificationFilter :=
  { status := r.status.map Status.ofString, channel := r.channel.map Channel.ofString,
    dateFrom := r.dateFrom.bind parseTime, dateTo := r.dateTo.bind parseTime, batchId := none,
    cursor := r.cursor.bind Uuid.parse, pageSize := r.pageSize }

@[simp] theorem ListNotificationsRequest.pageSize_toFilter (r : ListNotificationsRequest) :
    (r.toFilter parseTime).pageSize = r.pageSize := rfl

/-- `NewNotificationListResponse`: a page as long as `pageSize` gets its last id as the next
cursor. `none` is the panic of `notifications[len(notifications)-1]` on an empty page. -/
def newNotificationListResponse (notifications : List Notification) (pageSize : Int) :
    Option ListResponse :=
  if (notifications.length : Int) = pageSize then
    notifications.getLast?.map fun last => ⟨notifications, some last.id.toString⟩
  else some ⟨notifications, none⟩

/-- `NotificationHandler.List` on a bound request: the status code and the body. -/
def NotificationHandler.list (s : Store) (req : ListNotificationsRequest) :
    Nat × Option ListResponse :=
  let filter := req.toFilter parseTime
  match newNotificationListResponse (NotificationRepo.list s filter) filter.pageSize with
  | some resp => (200, some resp)
  | none => (500, none)

/-- A client reading every page: the first request, then the same request with each
`next_cursor`, until a page comes without one. `none` when a call fails or the fuel runs
out. -/
def listAll (s : Store) (req : ListNotificationsRequest) : Nat → Option (List Notification)
  | 0 => none
  | fuel + 1 =>
    match NotificationHandler.list parseTime s req with
    | (_, some resp) =>
      match resp.nextCursor with
      | none => some resp.data
      | some c => (listAll s { req with cursor := some c } fuel).map (resp.data ++ ·)
    | (_, none) => none

variable {parseTime}

theorem listAll_succ_of_cursor {s : Store} {req : ListNotificationsRequest} {code : Nat}
    {data : List Notification} {c : String} {fuel : Nat}
    (h : NotificationHandler.list parseTime s req = (code, some ⟨data, some c⟩)) :
    listAll parseTime s req (fuel + 1) =
      (listAll parseTime s { req with cursor := some c } fuel).map (data ++ ·) := by
  rw [listAll, h]

theorem listAll_succ_of_last {s : Store} {req : ListNotificationsRequest} {code : Nat}
    {data : List Notification} {fuel : Nat}
    (h : NotificationHandler.list parseTime s req = (code, some ⟨data, none⟩)) :
    listAll parseTime s req (fuel + 1) = some data := by
  rw [listAll, h]

/-- The cursor a client holds once it has read the first `j` of `rows`. -/
def cursorAfter (rows : List Notification) (j : Nat) : Option String :=
  (rows.take j).getLast?.map (·.id.toString)

section Keyset

variable {s : Store} (hid : (s.notifications.map (·.id)).Nodup) (hord : IdsFollowCreation s)
include hid hord

/-- Resuming at the cursor of the first `j` rows lists the rows after them. -/
theorem listed_resume {req : ListNotificationsRequest} (hc : req.cursor = none) :
    ∀ {j}, j ≤ (listed s (req.toFilter parseTime)).length →
    listed s ({ req with cursor := cursorAfter (listed s (req.toFilter parseTime)) j }.toFilter
      parseTime) = (listed s (req.toFilter parseTime)).drop j
  | 0, _ => by
    obtain ⟨_, _, _, _, _, _⟩ := req
    subst hc
    rfl
  | j + 1, hj => by
    set L := listed s (req.toFilter parseTime)
    have hl : (L.take (j + 1)).getLast? = some L[j] := by
      rw [List.getLast?_eq_getElem?, List.getElem?_take, List.length_take, Nat.min_eq_left hj,
        if_pos (by omega), Nat.add_sub_cancel, List.getElem?_eq_getElem]
    have hf : ({ req with cursor := some L[j].id.toString } : ListNotificationsRequest).toFilter
        parseTime = { req.toFilter parseTime with cursor := some L[j].id } := by
      simp [ListNotificationsRequest.toFilter, parse_toString]
    rw [cursorAfter, hl, Option.map_some', hf,
      listed_cursor hid hord (by simp [ListNotificationsRequest.toFilter, hc]),
      filter_lt_getElem (listed_pairwise hid hord _)]

/-- Reading pages from the cursor of the first `j` rows yields the rest, given a call for every
full page. -/
theorem listAll_resume {req : ListNotificationsRequest} (hc : req.cursor = none)
    (hps : 0 < req.pageSize ∧ req.pageSize ≤ 100) {L : List Notification}
    (hL : listed s (req.toFilter parseTime) = L) :
    ∀ fuel j, j ≤ L.length → L.length - j < req.pageSize.toNat * fuel →
      listAll parseTime s { req with cursor := cursorAfter L j } fuel = some (L.drop j)
  | 0, _, _, hf => by simp at hf
  | fuel + 1, j, hj, hf => by
    have hpage : NotificationRepo.list s ({ req with cursor := cursorAfter L j }.toFilter parseTime)
        = (L.drop j).take req.pageSize.toNat := by
      rw [NotificationRepo.list, ← hL, listed_resume hid hord hc (hL ▸ hj)]
      congr 1
      simp only [ListNotificationsRequest.pageSize_toFilter, pageLimit]
      split_ifs <;> omega
    have hlen : ((L.drop j).take req.pageSize.toNat).length =
        min req.pageSize.toNat (L.length - j) := by
      simp
    rw [listAll, NotificationHandler.list, hpage, newNotificationListResponse,
      ListNotificationsRequest.pageSize_toFilter]
    by_cases hfull : (((L.drop j).take req.pageSize.toNat).length : Int) = req.pageSize
    · -- a full page: its last row is the next cursor
      obtain ⟨last, hlast⟩ : ∃ last, ((L.drop j).take req.pageSize.toNat).getLast? = some last :=
        Option.isSome_iff_exists.1 (by simp [List.getLast?_isSome]; omega)
      have hcur : cursorAfter L (j + req.pageSize.toNat) = some last.id.toString := by
        rw [cursorAfter, List.take_add, List.getLast?_append, hlast]; rfl
      have ih := listAll_resume hc hps hL fuel (j + req.pageSize.toNat) (by omega) (by
        rw [Nat.mul_succ] at hf; omega)
      rw [hcur] at ih
      simp only [if_pos hfull, hlast, Option.map_some', ih, ← List.drop_drop,
        List.take_append_drop]
    · -- a short page ends the listing, and holds every remaining row
      have hshort : (L.drop j).length ≤ req.pageSize.toNat := by
        rw [List.length_take] at hfull; omega
      rw [if_neg hfull]
      simp only [List.take_of_length_le hshort]

end Keyset

/-- When ids follow creation and the page size is in 1..100, a client that follows every
`next_cursor` reads each matching row once, in the listing's order. -/
theorem listAll_pages {s : Store} (hwf : s.Wf) (hord : IdsFollowCreation s)
    {req : ListNotificationsRequest} (hc : req.cursor = none)
    (hps : 0 < req.pageSize ∧ req.pageSize ≤ 100) (fuel : Nat)
    (hfuel : (listed s (req.toFilter parseTime)).length < req.pageSize.toNat * fuel) :
    listAll parseTime s req fuel = some (listed s (req.toFilter parseTime)) := by
  have h := listAll_resume hwf.ids_nodup hord hc hps rfl fuel 0 (Nat.zero_le _)
    (by simpa using hfuel)
  obtain ⟨_, _, _, _, _, _⟩ := req
  subst hc
  simpa [cursorAfter] using h

/-- Two rows created in the order of their ids, read one per page. -/
theorem listAll_pages_two_rows : ∃ s : Store,
    (listed s (ListNotificationsRequest.toFilter (fun _ => none)
      ⟨none, none, none, none, none, 1⟩)).length = 2 ∧
    listAll (fun _ => none) s ⟨none, none, none, none, none, 1⟩ 3 =
      some (listed s (ListNotificationsRequest.toFilter (fun _ => none)
        ⟨none, none, none, none, none, 1⟩)) := by
  let row := fun (id : UUID) (t : Instant) => (⟨id, none, none, .sms, "+905530050594", "Hello",
    .normal, .pending, none, none, none, none, 0, 3, none, none, none, t, t⟩ : Notification)
  let s : Store := ⟨[row ⟨List.replicate 16 1, rfl⟩ 5, row ⟨List.replicate 16 2, rfl⟩ 10], [], [], []⟩
  refine ⟨s, rfl, listAll_pages ⟨?_, ?_, ?_, ?_, ?_, ?_⟩ ?_ rfl (by decide) 3 (by decide)⟩
  all_goals first | decide | (unfold IdsFollowCreation; decide)

/-- A page size outside 1..100 reads one page of at most 20 rows: the `LIMIT` is 20, but a
cursor is only given for a page as long as the size asked for. With no size (0) and no
match, the response panics. -/
theorem listAll_clamped (s : Store) (req : ListNotificationsRequest)
    (hps : req.pageSize ≤ 0 ∨ 100 < req.pageSize) (fuel : Nat) :
    listAll parseTime s req (fuel + 1) =
      if req.pageSize = 0 ∧ listed s (req.toFilter parseTime) = [] then none
      else some ((listed s (req.toFilter parseTime)).take 20) := by
  have hk : pageLimit req.pageSize = 20 := if_pos hps
  rw [listAll, NotificationHandler.list, NotificationRepo.list,
    ListNotificationsRequest.pageSize_toFilter, hk, newNotificationListResponse]
  by_cases h0 : req.pageSize = 0 ∧ listed s (req.toFilter parseTime) = []
  · simp [h0]
  · have hne : ¬ (((listed s (req.toFilter parseTime)).take 20).length : Int) = req.pageSize := by
      rw [List.length_take]
      intro h
      have hlen : (listed s (req.toFilter parseTime)).length ≠ 0 := fun hl =>
        h0 ⟨by omega, List.length_eq_zero.1 hl⟩
      omega
    rw [if_neg h0, if_neg hne]

/-- Listing an empty table without `page_size` fails. -/
theorem listAll_clamped_empty :
    listAll (fun _ => none) Store.empty ⟨none, none, none, none, none, 0⟩ 1 = none := by
  rw [listAll_clamped Store.empty _ (by decide) 0]
  rfl

/-- Without `page_size`, an empty listing answers 500; and with `page_size=1`, a row created
before another but with a larger id is never listed: two rows match, the client reads one. -/
theorem list_pages_lose_rows (parseTime : String → Option Instant) :
    NotificationHandler.list parseTime Store.empty ⟨none, none, none, none, none, 0⟩ =
      (500, none) ∧
    ∃ s : Store, s.Wf ∧
      (listed s (ListNotificationsRequest.toFilter parseTime
        ⟨none, none, none, none, none, 1⟩)).length = 2 ∧
      (listAll parseTime s ⟨none, none, none, none, none, 1⟩ 3).map List.length = some 1 := by
  let row := fun (id : UUID) (t : Instant) => (⟨id, none, none, .sms, "+905530050594", "Hello",
    .normal, .pending, none, none, none, none, 0, 3, none, none, none, t, t⟩ : Notification)
  let s : Store := ⟨[row ⟨List.replicate 16 2, rfl⟩ 5, row ⟨List.replicate 16 1, rfl⟩ 10], [], [], []⟩
  -- the first page is the newer row, whose id is the smaller
  have h1 : NotificationHandler.list parseTime s ⟨none, none, none, none, none, 1⟩ =
      (200, some ⟨[row ⟨List.replicate 16 1, rfl⟩ 10],
        some (row ⟨List.replicate 16 1, rfl⟩ 10).id.toString⟩) := by
    rw [NotificationHandler.list, show ListNotificationsRequest.toFilter parseTime
      ⟨none, none, none, none, none, 1⟩ = ⟨none, none, none, none, none, none, 1⟩ from rfl]
    decide
  -- past its id nothing is left
  have h2 : NotificationHandler.list parseTime s
      ⟨none, none, none, none, some (row ⟨List.replicate 16 1, rfl⟩ 10).id.toString, 1⟩ =
      (200, some ⟨[], none⟩) := by
    have hf : (⟨none, none, none, none, some (row ⟨List.replicate 16 1, rfl⟩ 10).id.toString, 1⟩ :
        ListNotificationsRequest).toFilter parseTime =
        ⟨none, none, none, none, none, some ⟨List.replicate 16 1, rfl⟩, 1⟩ := by
      simp [ListNotificationsRequest.toFilter, parse_toString, row]
    rw [NotificationHandler.list, hf]
    decide
  refine ⟨rfl, s, ⟨?_, ?_, ?_, ?_, ?_, ?_⟩, rfl, ?_⟩
  any_goals decide
  rw [listAll_succ_of_cursor h1, listAll_succ_of_last h2]
  rfl

end Http
