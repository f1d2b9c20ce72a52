import PyAuth.Server.Users

/-!
# The operation logs

Reading a page of the operation logs, and their cleanup.  The age of the
entries to be removed is not bounded, while a `datetime` does not reach back
behind the year 1.
-/

namespace PyAuth.Server

open Support

/-! ## Points in time -/

/-- `datetime.min`, in seconds. -/
def datetimeMin : ℚ := -62135596800

/-- `datetime.max`, in seconds. -/
def datetimeMax : ℚ := 253402300799999999 / 1000000

/-- What `datetime.now()` returns. -/
structure Datetime where
  val : ℚ
  min_le : datetimeMin ≤ val
  le_max : val ≤ datetimeMax

/-- `timedelta(days=days)` in seconds, `none` for an `OverflowError`. -/
def timedelta (days : ℤ) : Option ℚ :=
  if -999999999 ≤ days ∧ days ≤ 999999999 then some (days * 86400) else none

/-- `x - delta`, `none` for an `OverflowError`. -/
def Datetime.sub (x : Datetime) (delta : ℚ) : Option Datetime :=
  if h : datetimeMin ≤ x.val - delta ∧ x.val - delta ≤ datetimeMax then
    some ⟨x.val - delta, h.1, h.2⟩
  else none

/-! ## The requests -/

/-- The replies to requests about the logs. -/
inductive LogReply
  | page (total : ℕ) (logs : List OperationLog)
  | cleaned (message : String) (deletedCount : ℕ) (days : ℤ)
  | unprocessable
  | internalServerError
deriving DecidableEq

/-- `OperationLogResponse.model_validate` accepts the row. -/
def OperationLog.Reportable (log : OperationLog) : Prop :=
  log.detail = .null ∨ log.detail.isDict = true

instance (log : OperationLog) : Decidable log.Reportable :=
  inferInstanceAs (Decidable (_ ∨ _))

/-- `get_operation_logs` up to writing the reply out, where `order` is the order
of the database. -/
def getOperationLogs (order : List OperationLog → List OperationLog)
    (page pageSize : ℤ) (t : AdminTables) : LogReply :=
  let page := max 1 page
  let pageSize := max 1 (min 200 pageSize)
  let offset := (page - 1) * pageSize
  let logs := ((order t.operationLogs).drop offset.toNat).take pageSize.toNat
  if maxSqliteInt < offset then .internalServerError
  else if ∀ log ∈ logs, log.Reportable then .page t.operationLogs.length logs
  else .internalServerError

/-- The tables when `kept` is left and the cleanup is logged. -/
def AdminTables.cleaned (t : AdminTables) (kept : List OperationLog)
    (username mode : String) (days : ℤ) (deletedCount : ℕ) (loggedAt : ℚ) :
    AdminTables :=
  let t' : AdminTables := { t with operationLogs := kept }
  { t' with
    operationLogs := kept ++ [⟨t'.nextLogId, username, "cleanup_logs",
      "operation_log", none, .ofDict (.ofList
        [("mode", .str mode), ("days", .int days),
          ("deleted_count", .int deletedCount)]),
      loggedAt⟩] }

/-- `cleanup_operation_logs`; `now` and `loggedAt` are readings of the clock,
and the commit is taken to succeed. -/
def cleanupOperationLogs (actor : User) (now : Datetime) (loggedAt : ℚ)
    (days : ℤ) (t : AdminTables) : AdminTables × LogReply :=
  if days < 0 then (t, .unprocessable)
  else if days ≤ 0 then
    let deletedCount := t.operationLogs.length
    (t.cleaned [] actor.username "all" days deletedCount loggedAt,
      .cleaned "已清空全部审计日志" deletedCount days)
  else
    match (timedelta days).bind now.sub with
    | none => (t, .internalServerError)
    | some cutoff =>
        let deletedCount := t.operationLogs.countP fun log =>
          log.createdAt < cutoff.val
        let kept := t.operationLogs.filter fun log =>
          ¬log.createdAt < cutoff.val
        (t.cleaned kept actor.username "older_than_days" days deletedCount
            loggedAt,
          .cleaned ("已清理 " ++ toString days ++ " 天前日志") deletedCount days)

/-! ## Cleanup -/

section

variable {days : ℤ} {now : Datetime}

/-- The entries which a cleanup is to leave. -/
def recentLogs (now : Datetime) (days : ℤ) (t : AdminTables) :
    List OperationLog :=
  if days = 0 then []
  else t.operationLogs.filter fun log =>
    now.val - days * 86400 ≤ log.createdAt

/-- The cleanup removed the old entries and added one for itself, and reports
how many it removed. -/
def CleansUp (actor : User) (now : Datetime) (loggedAt : ℚ) (days : ℤ)
    (t : AdminTables) : Prop :=
  ∃ log message deletedCount,
    cleanupOperationLogs actor now loggedAt days t =
      ({ t with operationLogs := recentLogs now days t ++ [log] },
        .cleaned message deletedCount days) ∧
    log.action = "cleanup_logs" ∧
    deletedCount + (recentLogs now days t).length = t.operationLogs.length

/-- The limit of `timedelta` is never reached first. -/
theorem map_cutoff (hdays : 0 < days) :
    ((timedelta days).bind now.sub).map Datetime.val =
      if datetimeMin ≤ now.val - days * 86400 then
        some (now.val - days * 86400)
      else none := by
  have hnow := now.le_max
  have hpos : (0 : ℚ) < days := by exact_mod_cast hdays
  rw [timedelta]
  split
  · next hlimit =>
      rw [Option.bind_some, Datetime.sub]
      by_cases hmin : datetimeMin ≤ now.val - days * 86400
      · rw [dif_pos ⟨hmin, by linarith⟩, if_pos hmin]
        rfl
      · rw [dif_neg fun h => hmin h.1, if_neg hmin]
        rfl
  · next hlimit =>
      rw [if_neg, Option.bind_none, Option.map_none]
      intro hmin
      apply hlimit
      refine ⟨by omega, ?_⟩
      have hle : (days : ℚ) ≤ 999999999 := by
        unfold datetimeMin at hmin
        unfold datetimeMax at hnow
        linarith
      exact_mod_cast hle

theorem cleaned_eq (t : AdminTables) (kept : List OperationLog)
    (username mode : String) (days : ℤ) (deletedCount : ℕ) (loggedAt : ℚ) :
    ∃ log : OperationLog, log.action = "cleanup_logs" ∧
      t.cleaned kept username mode days deletedCount loggedAt =
        { t with operationLogs := kept ++ [log] } :=
  ⟨_, rfl, rfl⟩

/-- **When a cleanup removes exactly the old entries.**  It does unless the
clock less the days lies before the year 1. -/
theorem cleansUp_iff (actor : User) (now : Datetime) (loggedAt : ℚ) (days : ℤ)
    (t : AdminTables) (hdays : 0 ≤ days) :
    CleansUp actor now loggedAt days t ↔
      days = 0 ∨ datetimeMin ≤ now.val - days * 86400 := by
  rw [CleansUp, cleanupOperationLogs, if_neg (by omega)]
  rcases hdays.eq_or_lt with rfl | hpos
  · obtain ⟨log, haction, heq⟩ := cleaned_eq t [] actor.username "all" 0
      t.operationLogs.length loggedAt
    exact iff_of_true ⟨log, _, _, congrArg₂ Prod.mk heq rfl, haction, rfl⟩
      (.inl rfl)
  · have hne : days ≠ 0 := by omega
    have hcutoff : ((timedelta days).bind now.sub).map Datetime.val = _ :=
      map_cutoff hpos
    rw [if_neg (by omega), recentLogs, if_neg hne]
    by_cases hmin : datetimeMin ≤ now.val - days * 86400
    · rw [if_pos hmin, Option.map_eq_some_iff] at hcutoff
      obtain ⟨cutoff, hcutoff, hval⟩ := hcutoff
      rw [hcutoff, ← hval]
      have hkept : (t.operationLogs.filter fun log =>
          ¬log.createdAt < cutoff.val) =
            t.operationLogs.filter fun log => cutoff.val ≤ log.createdAt := by
        simp only [not_lt]
      obtain ⟨log, haction, heq⟩ := cleaned_eq t
        (t.operationLogs.filter fun log => ¬log.createdAt < cutoff.val)
        actor.username "older_than_days" days
        (t.operationLogs.countP fun log => log.createdAt < cutoff.val) loggedAt
      rw [← hkept]
      refine iff_of_true
        ⟨log, _, _, congrArg₂ Prod.mk heq rfl, haction, ?_⟩
        (.inr (hval ▸ hmin))
      rw [← List.countP_eq_length_filter]
      simpa using (List.length_eq_countP_add_countP (fun log : OperationLog =>
        decide (log.createdAt < cutoff.val))).symm
    · rw [if_neg hmin, Option.map_eq_none_iff] at hcutoff
      rw [hcutoff]
      refine iff_of_false ?_ ?_
      · rintro ⟨log, message, deletedCount, heq, -⟩
        cases congrArg Prod.snd heq
      · rintro (h | h)
        · exact hne h
        · exact hmin h

end

/-- The first of January 2026. -/
def newYear : Datetime :=
  ⟨1767225600, by norm_num [datetimeMin], by norm_num [datetimeMax]⟩

/-- Entries of the first of November and of the last of December. -/
def winterLogs : AdminTables :=
  { firstAdmin with
    operationLogs :=
      [⟨1, "admin", "delete_device", "device", some "lab-1", .null, 1761955200⟩,
        ⟨2, "admin", "delete_device", "device", some "lab-2", .null,
          1767139200⟩] }

/-- Of the two the recent one is left. -/
theorem cleansUp_iff_month :
    recentLogs newYear 30 winterLogs =
        [⟨2, "admin", "delete_device", "device", some "lab-2", .null,
          1767139200⟩] ∧
      CleansUp ⟨1, "admin", "$5$admin123", true, true, 100, 100⟩ newYear
        1767225600 30 winterLogs :=
  ⟨by decide +kernel,
    (cleansUp_iff _ newYear 1767225600 30 winterLogs (by decide)).mpr
      (Or.inr (by norm_num [datetimeMin, newYear]))⟩

/-- A million days do not fit behind the year 1. -/
theorem million_days_not_cleaned :
    cleanupOperationLogs ⟨1, "admin", "$5$admin123", true, true, 100, 100⟩ newYear
        1767225600 1000000 firstAdmin = (firstAdmin, .internalServerError) := by
  decide +kernel

end PyAuth.Server
