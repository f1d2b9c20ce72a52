import PyAuth.Server.Answers
import PyAuth.Server.OperationLogs
import PyAuth.Support.Collation
import PyAuth.Support.Paging

/-!
# Paging through the devices and the logs

Every page is a query of its own, ordered by one column only.  Where rows with
equal values stand on both sides of a page boundary, the database may show one
of them twice and hide another.
-/

namespace PyAuth.Server

open Support

/-! ## The orders -/

/-- `NULL` comes first. -/
def nullsFirst {β : Type} (le : β → β → Bool) : Option β → Option β → Bool
  | none, _ => true
  | some _, none => false
  | some a, some b => le a b

/-- The ascending order of a column. -/
def columnLe (C : Collation) : SortField → Device → Device → Bool
  | .createdAt, d, e => decide (d.createdAt ≤ e.createdAt)
  | .updatedAt, d, e => decide (d.updatedAt ≤ e.updatedAt)
  | .lastCheck, d, e =>
      nullsFirst (fun a b => decide (a ≤ b)) d.lastCheck e.lastCheck
  | .deviceId, d, e => C.le d.deviceId e.deviceId
  | .softwareName, d, e => nullsFirst C.le d.softwareName e.softwareName
  | .isAuthorized, d, e => !d.isAuthorized || e.isAuthorized

/-- The order of a query. -/
def DeviceOrder (C : Collation) (field : SortField) (ascending : Bool)
    (d e : Device) : Prop :=
  (if ascending then columnLe C field d e else columnLe C field e d) = true

instance (C : Collation) (field : SortField) (ascending : Bool) :
    DecidableRel (DeviceOrder C field ascending) := fun _ _ =>
  inferInstanceAs (Decidable (_ = _))

/-- `OperationLog.created_at.desc()`. -/
def LogOrder (a b : OperationLog) : Prop := b.createdAt ≤ a.createdAt

instance : DecidableRel LogOrder := fun _ _ =>
  inferInstanceAs (Decidable (_ ≤ _))

/-- The results of a query come in an order which it asks for. -/
def Backend.Consistent (C : Collation) (B : Backend) : Prop :=
  ∀ field ascending devices,
    (B.orderBy field ascending devices).Pairwise (DeviceOrder C field ascending)

/-! ## The pages -/

/-- The number of pages of `size` rows. -/
def pageCount (total size : ℕ) : ℕ := (total + size - 1) / size

/-- A request for page `page`. -/
def pageRequest (data : Dict String Json) (page size : ℕ) : Dict String Json :=
  (data.set "page" (.int page)).set "page_size" (.int size)

/-- Whatever the database does, every page is answered, and together they list
every device once.  `encodes` tells which values `send_json` can write out. -/
def DevicesListedOnce (C : Collation) (encodes : Json → Bool)
    (data : Dict String Json) (size : ℕ) (t : Tables) : Prop :=
  ∀ B : ℕ → Backend, (∀ i, (B i).Consistent C) →
    ∃ rows : ℕ → List Device,
      (∀ i < pageCount t.devices.length size,
        let reply := AdminReply.devicesList (requestId data) t.devices.length
          (rows i)
        getDevices (B i) (pageRequest data (i + 1) size) t = some reply ∧
          reply.Encodable encodes) ∧
      ((List.range (pageCount t.devices.length size)).flatMap rows).Perm
        t.devices

/-- The log can be reported and written out. -/
def OperationLog.Sendable (encodes : Json → Bool) (log : OperationLog) : Prop :=
  log.Reportable ∧ encodes log.detail = true

instance (encodes : Json → Bool) :
    DecidablePred (OperationLog.Sendable encodes) := fun _ =>
  inferInstanceAs (Decidable (_ ∧ _))

/-- Likewise for the logs, where `encodes` tells which values the response of an
endpoint can hold. -/
def LogsListedOnce (encodes : Json → Bool) (size : ℕ) (t : AdminTables) : Prop :=
  ∀ order : ℕ → List OperationLog → List OperationLog,
    (∀ i logs, SortedBy LogOrder logs (order i logs)) →
    ∃ rows : ℕ → List OperationLog,
      (∀ i < pageCount t.operationLogs.length size,
        getOperationLogs (order i) (i + 1 : ℕ) size t =
          .page t.operationLogs.length (rows i) ∧
        ∀ log ∈ rows i, encodes log.detail = true) ∧
      ((List.range (pageCount t.operationLogs.length size)).flatMap rows).Perm
        t.operationLogs

section

variable {α : Type} {le : α → α → Prop} [DecidableRel le] {rows : List α}

/-- No rows with equal keys stand on both sides of a page boundary. -/
def CleanPages (le : α → α → Prop) [DecidableRel le] (rows : List α)
    (size : ℕ) : Prop :=
  ∀ k, 0 < k → k < pageCount rows.length size → CleanCut le rows (k * size)

/-- The offset of the last page fits into an integer of the database. -/
def OffsetsFit (rows : List α) (size : ℕ) : Prop :=
  (((pageCount rows.length size - 1) * size : ℕ) : ℤ) ≤ maxSqliteInt

instance (rows : List α) (size : ℕ) : Decidable (OffsetsFit rows size) :=
  inferInstanceAs (Decidable (_ ≤ _))

/-- A page, unless its offset is too large or it has a row that cannot be
sent. -/
def servePage (sendable : α → Prop) [DecidablePred sendable] (size i : ℕ)
    (o : List α) : Option (List α) :=
  if maxSqliteInt < ((i * size : ℕ) : ℤ) then none
  else if ∀ d ∈ (o.drop (i * size)).take size, sendable d then
    some ((o.drop (i * size)).take size)
  else none

variable {sendable : α → Prop} [DecidablePred sendable] {size i : ℕ}

theorem servePage_eq_some_iff {o page : List α} :
    servePage sendable size i o = some page ↔
      ((i * size : ℕ) : ℤ) ≤ maxSqliteInt ∧ (∀ d ∈ page, sendable d) ∧
        page = (o.drop (i * size)).take size := by
  rw [servePage]
  by_cases hoffset : maxSqliteInt < ((i * size : ℕ) : ℤ)
  · rw [if_pos hoffset]
    exact iff_of_false (by simp) fun h => absurd h.1 (not_le.mpr hoffset)
  · rw [if_neg hoffset]
    by_cases hall : ∀ d ∈ (o.drop (i * size)).take size, sendable d
    · rw [if_pos hall, Option.some.injEq]
      constructor
      · rintro rfl
        exact ⟨not_lt.mp hoffset, hall, rfl⟩
      · rintro ⟨-, -, rfl⟩
        rfl
    · rw [if_neg hall]
      refine iff_of_false (by simp) ?_
      rintro ⟨-, hpage, rfl⟩
      exact hall hpage

theorem pageCount_zero (hsize : 0 < size) : pageCount 0 size = 0 := by
  rw [pageCount, Nat.zero_add]
  exact Nat.div_eq_of_lt (by omega)

theorem length_le_pageCount (n : ℕ) (hsize : 0 < size) :
    n ≤ pageCount n size * size := by
  have hdiv := Nat.div_add_mod (n + size - 1) size
  have hmod := Nat.mod_lt (n + size - 1) hsize
  rw [pageCount, Nat.mul_comm]
  omega

/-- What has to hold for all pages to be served and to list every row once. -/
theorem servedOnce_iff (htrans : ∀ x y z, le x y → le y z → le x z)
    (htotal : ∀ x y, le x y ∨ le y x) (hnodup : rows.Nodup)
    (hsize : 0 < size) :
    (∀ o : ℕ → List α, (∀ i, SortedBy le rows (o i)) →
      ∃ pages : ℕ → List α,
        (∀ i < pageCount rows.length size,
          servePage sendable size i (o i) = some (pages i)) ∧
        ((List.range (pageCount rows.length size)).flatMap pages).Perm rows) ↔
      CleanPages le rows size ∧ (∀ d ∈ rows, sendable d) ∧
        OffsetsFit rows size := by
  have hiff := concatPages_perm_iff htrans htotal hnodup hsize
    (length_le_pageCount rows.length hsize)
  have : Std.Total le := ⟨htotal⟩
  have : IsTrans α le := ⟨htrans⟩
  have hsorted : ∀ _ : ℕ, SortedBy le rows (rows.insertionSort le) := fun _ =>
    ⟨List.perm_insertionSort le rows, List.pairwise_insertionSort le rows⟩
  constructor
  · intro hserved
    refine ⟨hiff.mp fun o ho => ?_, fun d hd => ?_, ?_⟩
    · obtain ⟨pages, hpages, hperm⟩ := hserved o ho
      have hconcat : concatPages size (pageCount rows.length size) o =
          (List.range (pageCount rows.length size)).flatMap pages := by
        apply List.flatMap_congr
        intro i hi
        exact (servePage_eq_some_iff.mp (hpages i (List.mem_range.mp hi))).2.2.symm
      rw [hconcat]
      exact hperm
    · obtain ⟨pages, hpages, hperm⟩ := hserved _ hsorted
      obtain ⟨i, hi, hd⟩ := List.mem_flatMap.mp (hperm.symm.subset hd)
      exact (servePage_eq_some_iff.mp (hpages i (List.mem_range.mp hi))).2.1 d hd
    · obtain ⟨pages, hpages, -⟩ := hserved _ hsorted
      rcases (pageCount rows.length size).eq_zero_or_pos with hzero | hpos
      · rw [OffsetsFit, hzero, Nat.zero_sub, Nat.zero_mul]
        decide
      · exact (servePage_eq_some_iff.mp
          (hpages (pageCount rows.length size - 1) (by omega))).1
  · rintro ⟨hclean, hall, hfit⟩ o ho
    refine ⟨fun i => ((o i).drop (i * size)).take size, fun i hi => ?_,
      hiff.mpr hclean o ho⟩
    refine servePage_eq_some_iff.mpr ⟨?_, fun d hd => ?_, rfl⟩
    · have hle : i * size ≤ (pageCount rows.length size - 1) * size :=
        Nat.mul_le_mul_right _ (by omega)
      exact le_trans (by exact_mod_cast hle) hfit
    · exact hall d ((ho i).1.subset (List.mem_of_mem_drop (List.mem_of_mem_take hd)))

end

/-! ## The devices -/

section

variable {C : Collation} {field : SortField} {ascending : Bool}

theorem nullsFirst_total {β : Type} {le : β → β → Bool}
    (h : ∀ a b, le a b = true ∨ le b a = true) (x y : Option β) :
    nullsFirst le x y = true ∨ nullsFirst le y x = true := by
  rcases x with _ | a <;> rcases y with _ | b
  · exact .inl rfl
  · exact .inl rfl
  · exact .inr rfl
  · exact h a b

theorem nullsFirst_trans {β : Type} {le : β → β → Bool}
    (h : ∀ a b c, le a b = true → le b c = true → le a c = true)
    (x y z : Option β) (hxy : nullsFirst le x y = true)
    (hyz : nullsFirst le y z = true) : nullsFirst le x z = true := by
  rcases x with _ | a
  · rfl
  · rcases y with _ | b
    · cases hxy
    · rcases z with _ | c
      · cases hyz
      · exact h a b c hxy hyz

theorem columnLe_total (d e : Device) :
    columnLe C field d e = true ∨ columnLe C field e d = true := by
  have hle (a b : ℚ) : decide (a ≤ b) = true ∨ decide (b ≤ a) = true := by
    simpa using le_total a b
  cases field with
  | createdAt => exact hle _ _
  | updatedAt => exact hle _ _
  | lastCheck => exact nullsFirst_total hle _ _
  | deviceId => exact C.total _ _
  | softwareName => exact nullsFirst_total C.total _ _
  | isAuthorized =>
      rw [columnLe, columnLe]
      cases d.isAuthorized <;> simp

theorem columnLe_trans {d e f : Device} (hde : columnLe C field d e = true)
    (hef : columnLe C field e f = true) : columnLe C field d f = true := by
  have hle (a b c : ℚ) (hab : decide (a ≤ b) = true)
      (hbc : decide (b ≤ c) = true) : decide (a ≤ c) = true :=
    decide_eq_true ((of_decide_eq_true hab).trans (of_decide_eq_true hbc))
  cases field with
  | createdAt => exact hle _ _ _ hde hef
  | updatedAt => exact hle _ _ _ hde hef
  | lastCheck => exact nullsFirst_trans hle _ _ _ hde hef
  | deviceId => exact C.trans _ _ _ hde hef
  | softwareName => exact nullsFirst_trans C.trans _ _ _ hde hef
  | isAuthorized =>
      rw [columnLe] at hde hef ⊢
      cases hd : d.isAuthorized <;> simp_all

theorem deviceOrder_total (d e : Device) :
    DeviceOrder C field ascending d e ∨ DeviceOrder C field ascending e d := by
  rw [DeviceOrder, DeviceOrder]
  split
  · exact columnLe_total d e
  · exact columnLe_total e d

theorem deviceOrder_trans (d e f : Device)
    (hde : DeviceOrder C field ascending d e)
    (hef : DeviceOrder C field ascending e f) :
    DeviceOrder C field ascending d f := by
  rw [DeviceOrder] at hde hef ⊢
  split at hde
  · next h =>
      rw [if_pos h] at hef ⊢
      exact columnLe_trans hde hef
  · next h =>
      rw [if_neg h] at hef ⊢
      exact columnLe_trans hef hde

instance : Std.Total (DeviceOrder C field ascending) := ⟨deviceOrder_total⟩

instance : IsTrans Device (DeviceOrder C field ascending) :=
  ⟨deviceOrder_trans⟩

/-- A backend that sorts the rows after they were rearranged. -/
def Backend.rearranged (C : Collation) (turn : List Device → List Device)
    (hturn : ∀ devices, (turn devices).Perm devices) : Backend :=
  { Backend.plain with
    orderBy := fun field ascending devices =>
      (turn devices).insertionSort (DeviceOrder C field ascending)
    orderBy_perm := fun _ _ devices =>
      (List.perm_insertionSort _ _).trans (hturn devices) }

theorem consistent_rearranged (turn : List Device → List Device)
    (hturn : ∀ devices, (turn devices).Perm devices) :
    (Backend.rearranged C turn hturn).Consistent C :=
  fun _ _ _ => List.pairwise_insertionSort _ _

/-- The column a request sorts by. -/
def requestField (data : Dict String Json) : SortField :=
  sortField (getOr data "sort_by" (.str "updated_at"))

variable {data : Dict String Json} {sortOrder : String} {size : ℕ} {t : Tables}
  {encodes : Json → Bool}

theorem pageQuery_pageRequest
    (hsort : getOr data "sort_order" (.str "desc") = .str sortOrder)
    (hsize : 0 < size) (hmax : size ≤ 200) (i : ℕ) :
    pageQuery (pageRequest data (i + 1) size) =
      some ⟨requestField data, decide (sortOrder.toLower = "asc"),
        (i * size : ℕ), size⟩ := by
  have hpage : getOr (pageRequest data (i + 1) size) "page" (.int 1) =
      .int (i + 1 : ℕ) := by
    simp [getOr, pageRequest, Dict.get_set]
  have hpageSize : getOr (pageRequest data (i + 1) size) "page_size" (.int 50) =
      .int size := by
    simp [getOr, pageRequest]
  have hother (k : String) (ifMissing : Json) (hk : k ≠ "page")
      (hk' : k ≠ "page_size") :
      getOr (pageRequest data (i + 1) size) k ifMissing =
        getOr data k ifMissing := by
    simp [getOr, pageRequest, Dict.get_set, hk, hk']
  have hpageMax : max 1 ((i + 1 : ℕ) : ℤ) = i + 1 := by omega
  have hsizeMax : max 1 (min 200 (size : ℤ)) = size := by omega
  rw [pageQuery, hpage, hpageSize, hother _ _ (by decide) (by decide), hsort,
    Python.int_int, Python.int_int]
  dsimp only
  rw [hother _ _ (by decide) (by decide), hpageMax, hsizeMax, requestField,
    add_sub_cancel_right, Nat.cast_mul]

/-- The answer to a request for a page. -/
theorem getDevices_pageRequest
    (hsort : getOr data "sort_order" (.str "desc") = .str sortOrder)
    (hsize : 0 < size) (hmax : size ≤ 200)
    (hid : encodes (requestId data) = true) (B : Backend) (i : ℕ)
    (rows : List Device) :
    (getDevices B (pageRequest data (i + 1) size) t =
        some (.devicesList (requestId data) t.devices.length rows) ∧
      (AdminReply.devicesList (requestId data) t.devices.length
        rows).Encodable encodes) ↔
      servePage (Device.Sendable encodes) size i
          (B.orderBy (requestField data) (decide (sortOrder.toLower = "asc"))
            t.devices) = some rows := by
  have hid' : requestId (pageRequest data (i + 1) size) = requestId data := by
    simp [requestId, getOr, pageRequest, Dict.get_set]
  rw [getDevices, pageQuery_pageRequest hsort hsize hmax,
    servePage_eq_some_iff, AdminReply.Encodable, and_iff_right hid]
  dsimp only
  rw [fetchPage, Int.toNat_natCast, Int.toNat_natCast, hid']
  by_cases hoffset : maxSqliteInt < ((i * size : ℕ) : ℤ)
  · rw [if_pos hoffset]
    exact iff_of_false (by simp) fun h => absurd h.1 (not_le.mpr hoffset)
  rw [if_neg hoffset, and_iff_right (not_lt.mp hoffset)]
  constructor
  · rintro ⟨hlist, hencodes⟩
    split at hlist
    · next hreport =>
        simp only [Option.some.injEq, AdminReply.devicesList.injEq,
          true_and] at hlist
        obtain rfl := hlist
        exact ⟨fun d hd => ⟨hreport d hd, hencodes d hd⟩, rfl⟩
    · contradiction
  · rintro ⟨hrows, rfl⟩
    exact ⟨if_pos fun d hd => (hrows d hd).1, fun d hd => (hrows d hd).2⟩

/-- No page is asked for when there are no devices. -/
theorem devicesListedOnce_of_nil (hnil : t.devices = []) (hsize : 0 < size) :
    DevicesListedOnce C encodes data size t := by
  intro B hB
  have hzero : pageCount t.devices.length size = 0 := by
    rw [hnil, List.length_nil, pageCount_zero hsize]
  refine ⟨fun _ => [], fun i hi => ?_, ?_⟩
  · rw [hzero] at hi
    exact absurd hi (Nat.not_lt_zero i)
  · rw [hzero, hnil]
    exact List.Perm.nil

/-- The request id of a first page is written out. -/
theorem encodes_of_devicesListedOnce
    (h : DevicesListedOnce C encodes data size t) (hne : t.devices ≠ [])
    (hsize : 0 < size) : encodes (requestId data) = true := by
  obtain ⟨rows, hpages, -⟩ := h
    (fun _ => .rearranged C (fun devices => devices) fun _ => .refl _)
    fun _ => consistent_rearranged _ _
  have hlength : 0 < t.devices.length := List.length_pos_of_ne_nil hne
  have hpos : 0 < pageCount t.devices.length size :=
    Nat.div_pos (by omega) hsize
  exact (hpages 0 hpos).2.1

/-- The pages list every device once if no equal devices stand on both sides of
a page boundary, and only then. -/
theorem devicesListedOnce_iff
    (hsort : getOr data "sort_order" (.str "desc") = .str sortOrder)
    (hsize : 0 < size) (hmax : size ≤ 200)
    (hid : encodes (requestId data) = true) :
    DevicesListedOnce C encodes data size t ↔
      CleanPages (DeviceOrder C (requestField data)
          (decide (sortOrder.toLower = "asc"))) t.devices size ∧
        (∀ d ∈ t.devices, d.Sendable encodes) ∧ OffsetsFit t.devices size := by
  have hnodup : t.devices.Nodup := List.Nodup.of_map _ t.unique
  rw [← servedOnce_iff deviceOrder_trans deviceOrder_total hnodup hsize]
  simp only [DevicesListedOnce, getDevices_pageRequest hsort hsize hmax hid]
  constructor
  · intro hlisted o ho
    -- A backend for each page that brings the rows into the given order.
    let turn (i : ℕ) (devices : List Device) : List Device :=
      if devices = t.devices then o i else devices
    have hturn (i : ℕ) (devices : List Device) :
        (turn i devices).Perm devices := by
      dsimp only [turn]
      split
      · next h => exact h ▸ (ho i).1
      · exact .refl _
    have horder (i : ℕ) : (Backend.rearranged C (turn i) (hturn i)).orderBy
        (requestField data) (decide (sortOrder.toLower = "asc")) t.devices =
          o i := by
      change (turn i t.devices).insertionSort _ = o i
      rw [show turn i t.devices = o i from if_pos rfl,
        (ho i).2.insertionSort_eq]
    have hpages := hlisted (fun i => Backend.rearranged C (turn i) (hturn i))
      fun i => consistent_rearranged _ _
    simpa only [horder] using hpages
  · intro hserved B hB
    exact hserved _ fun i => ⟨(B i).orderBy_perm _ _ _, hB i _ _ _⟩

/-- There is nothing to list when there are no devices. -/
theorem listable_of_nil (hnil : t.devices = []) (hsize : 0 < size)
    {le : Device → Device → Prop} [DecidableRel le] :
    CleanPages le t.devices size ∧ (∀ d ∈ t.devices, d.Sendable encodes) ∧
      OffsetsFit t.devices size := by
  rw [hnil]
  have hzero : pageCount ([] : List Device).length size = 0 :=
    pageCount_zero hsize
  refine ⟨fun k _ hk => ?_, by simp, ?_⟩
  · rw [hzero] at hk
    exact absurd hk (Nat.not_lt_zero k)
  · rw [OffsetsFit, hzero, Nat.zero_sub, Nat.zero_mul]
    decide

end

/-! ## The logs -/

section

variable {size : ℕ} {t : AdminTables} {encodes : Json → Bool}

theorem logOrder_total (a b : OperationLog) : LogOrder a b ∨ LogOrder b a :=
  le_total b.createdAt a.createdAt

theorem logOrder_trans (a b c : OperationLog) (hab : LogOrder a b)
    (hbc : LogOrder b c) : LogOrder a c :=
  le_trans hbc hab

theorem getOperationLogs_page (hsize : 0 < size) (hmax : size ≤ 200)
    (order : List OperationLog → List OperationLog) (i : ℕ)
    (rows : List OperationLog) :
    (getOperationLogs order (i + 1 : ℕ) size t =
        .page t.operationLogs.length rows ∧
      ∀ log ∈ rows, encodes log.detail = true) ↔
      servePage (OperationLog.Sendable encodes) size i
        (order t.operationLogs) = some rows := by
  have hpageMax : max 1 ((i + 1 : ℕ) : ℤ) = i + 1 := by omega
  have hsizeMax : max 1 (min 200 (size : ℤ)) = size := by omega
  simp only [getOperationLogs, hpageMax, hsizeMax]
  rw [add_sub_cancel_right, ← Nat.cast_mul, Int.toNat_natCast,
    Int.toNat_natCast, servePage_eq_some_iff]
  by_cases hoffset : maxSqliteInt < ((i * size : ℕ) : ℤ)
  · rw [if_pos hoffset]
    exact iff_of_false (by simp) fun h => absurd h.1 (not_le.mpr hoffset)
  rw [if_neg hoffset, and_iff_right (not_lt.mp hoffset)]
  constructor
  · rintro ⟨hpage, hencodes⟩
    split at hpage
    · next hreport =>
        simp only [LogReply.page.injEq, true_and] at hpage
        obtain rfl := hpage
        exact ⟨fun log hlog => ⟨hreport log hlog, hencodes log hlog⟩, rfl⟩
    · contradiction
  · rintro ⟨hrows, rfl⟩
    exact ⟨if_pos fun log hlog => (hrows log hlog).1,
      fun log hlog => (hrows log hlog).2⟩

theorem logsListedOnce_iff (hids : (t.operationLogs.map (·.id)).Nodup)
    (hsize : 0 < size) (hmax : size ≤ 200) :
    LogsListedOnce encodes size t ↔
      CleanPages LogOrder t.operationLogs size ∧
        (∀ log ∈ t.operationLogs, log.Sendable encodes) ∧
        OffsetsFit t.operationLogs size := by
  have hnodup : t.operationLogs.Nodup := List.Nodup.of_map _ hids
  rw [← servedOnce_iff logOrder_trans logOrder_total hnodup hsize]
  simp only [LogsListedOnce, getOperationLogs_page hsize hmax]
  have : Std.Total LogOrder := ⟨logOrder_total⟩
  have : IsTrans OperationLog LogOrder := ⟨logOrder_trans⟩
  constructor
  · intro hlisted o ho
    -- A query for each page that brings the rows into the given order.
    have hpages := hlisted
      (fun i logs => if logs = t.operationLogs then o i
        else logs.insertionSort LogOrder)
      (fun i logs => by
        split
        · next h => exact h ▸ ho i
        · exact ⟨List.perm_insertionSort _ _,
            List.pairwise_insertionSort _ _⟩)
    simpa only [if_true] using hpages
  · intro hserved order horder
    exact hserved _ fun i => horder i t.operationLogs

end

/-- **When paging shows every row once.**  The pages of the devices, and those
of the logs, list every row once whatever the database does with equal rows if
and only if no equal rows stand on both sides of a page boundary, all rows can
be reported and written out and the offsets fit; the request for devices needs
an id that can be written out as well. -/
theorem paging_lists_once_iff (C : Collation) (encodes encodes' : Json → Bool)
    (data : Dict String Json) (sortOrder : String) (size : ℕ) (t : AdminTables)
    (hsort : getOr data "sort_order" (.str "desc") = .str sortOrder)
    (hsize : 0 < size) (hmax : size ≤ 200)
    (hids : (t.operationLogs.map (·.id)).Nodup) :
    (DevicesListedOnce C encodes data size t.toTables ↔
      (t.devices ≠ [] → encodes (requestId data) = true) ∧
        CleanPages (DeviceOrder C (requestField data)
          (decide (sortOrder.toLower = "asc"))) t.devices size ∧
        (∀ d ∈ t.devices, d.Sendable encodes) ∧ OffsetsFit t.devices size) ∧
    (LogsListedOnce encodes' size t ↔
      CleanPages LogOrder t.operationLogs size ∧
        (∀ log ∈ t.operationLogs, log.Sendable encodes') ∧
        OffsetsFit t.operationLogs size) := by
  refine ⟨?_, logsListedOnce_iff hids hsize hmax⟩
  by_cases hnil : t.devices = []
  · exact iff_of_true (devicesListedOnce_of_nil hnil hsize)
      ⟨fun hne => absurd hnil hne, listable_of_nil hnil hsize⟩
  by_cases hid : encodes (requestId data) = true
  · rw [devicesListedOnce_iff hsort hsize hmax hid]
    exact (and_iff_right fun _ => hid).symm
  · exact iff_of_false
      (fun h => hid (encodes_of_devicesListedOnce h hnil hsize))
      fun h => hid (h.1 hnil)

/-- Three devices and three entries, each with a time of its own. -/
def labTables : AdminTables :=
  { firstAdmin with
    devices := [⟨1, "lab-1", none, .null, none, true, 100, 300, none⟩,
      ⟨2, "lab-2", none, .null, none, true, 100, 200, none⟩,
      ⟨3, "lab-3", none, .obj [], none, true, 100, 100, none⟩]
    unique := by decide
    operationLogs :=
      [⟨1, "admin", "delete_device", "device", some "lab-7", .null, 100⟩,
        ⟨2, "admin", "delete_device", "device", some "lab-8", .null, 200⟩,
        ⟨3, "admin", "delete_device", "device", some "lab-9", .null, 300⟩] }

/-- Their two pages list each of them once. -/
theorem paging_lists_once_iff_lab :
    DevicesListedOnce .codePoint exampleEncodes .empty 2 labTables.toTables ∧
      LogsListedOnce exampleEncodes 2 labTables := by
  have hone {le : ℕ → Prop} (h : le 1) :
      ∀ k, 0 < k → k < 2 → le k := by
    intro k hpos hlt
    obtain rfl : k = 1 := by omega
    exact h
  obtain ⟨hdevices, hlogs⟩ := paging_lists_once_iff .codePoint exampleEncodes
    exampleEncodes .empty "desc" 2 labTables (by decide) (by decide) (by decide)
    (by decide)
  exact ⟨hdevices.mpr ⟨fun _ => by decide, hone (by decide +kernel),
      by decide +kernel, by decide +kernel⟩,
    hlogs.mpr ⟨hone (by decide +kernel), by decide +kernel,
      by decide +kernel⟩⟩

/-- Two devices that were updated in the same second. -/
def twoDevices : Tables where
  devices := [⟨1, "lab-1", none, .null, none, true, 100, 200, none⟩,
    ⟨2, "lab-2", none, .null, none, true, 100, 200, none⟩]
  config := .empty
  unique := by decide
  operationLogs := []

theorem turned_perm (i : ℕ) (devices : List Device) :
    (if i = 0 then devices else devices.reverse).Perm devices := by
  split
  · exact .refl _
  · exact List.reverse_perm devices

/-- A database that turns the ties around after the first page. -/
def turningBackend (i : ℕ) : Backend :=
  .rearranged .codePoint (fun devices => if i = 0 then devices else devices.reverse)
    (turned_perm i)

/-- Both pages of one row show the same device. -/
theorem device_hidden_by_paging :
    (∀ i, (turningBackend i).Consistent .codePoint) ∧
      getDevices (turningBackend 0) (pageRequest .empty 1 1) twoDevices =
        some (.devicesList .null 2
          [⟨1, "lab-1", none, .null, none, true, 100, 200, none⟩]) ∧
      getDevices (turningBackend 1) (pageRequest .empty 2 1) twoDevices =
        some (.devicesList .null 2
          [⟨1, "lab-1", none, .null, none, true, 100, 200, none⟩]) := by
  refine ⟨fun i => consistent_rearranged _ _, ?_, ?_⟩
  · decide +kernel
  · decide +kernel

end PyAuth.Server
