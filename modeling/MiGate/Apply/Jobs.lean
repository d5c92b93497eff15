import MiGate.Db.Core
import Mathlib.Logic.Function.Basic

namespace MiGate.Apply

open Go Db

/-! The jobs by which the configuration of a core is applied, and the manager that keeps them. -/

inductive Core where
  | xray
  | singbox
deriving DecidableEq, Repr

/-- `CoreApplyJobStatus.Status`. -/
inductive Status where
  | queued
  | running
  | retrying
  | succeeded
  | failed
deriving DecidableEq, Repr

/-- `coreApplyJobActive`. -/
def Status.active : Status → Bool
  | .queued | .running | .retrying => true
  | .succeeded | .failed => false

structure CoreApplyJobStatus where
  core : Core
  status : Status
  message : String
  error : String
  detail : String
  retryCount : Nat
  maxRetries : Nat
deriving DecidableEq, Repr

/-- `coreApplyWorkResult`. -/
structure WorkResult where
  ok : Bool
  message : String
  errCode : String
  detail : String
deriving DecidableEq, Repr

/-- `coreApplyJobManager`: whether `applySem` is taken, the newest job of a core, and every job. -/
structure JobManager where
  applySem : Bool
  byCore : Core → Option Nat
  byID : Nat → Option CoreApplyJobStatus

namespace JobManager

/-- `newCoreApplyJobManager`. -/
def new : JobManager :=
  ⟨false, fun _ => none, fun _ => none⟩

def latest (manager : JobManager) (core : Core) : Option CoreApplyJobStatus :=
  (manager.byCore core).bind manager.byID

def running (manager : JobManager) (core : Core) : Bool :=
  match manager.latest core with
  | some job => job.status.active
  | none => false

/-- The job that `tryStart` makes. -/
def queuedJob (core : Core) (message : String) (maxRetries : Nat) : CoreApplyJobStatus :=
  ⟨core, .queued, message, "", "", 0, maxRetries⟩

/-- `tryStart` with the identifier that is drawn, if no job of the core is active. -/
def tryStart (manager : JobManager) (core : Core) (id : Nat) (message : String) (maxRetries : Nat) : Option JobManager :=
  if manager.running core then none
  else some { manager with
    byCore := Function.update manager.byCore core (some id)
    byID := Function.update manager.byID id (some (queuedJob core message maxRetries)) }

def update (manager : JobManager) (id : Nat) (mutate : CoreApplyJobStatus → CoreApplyJobStatus) : JobManager :=
  match manager.byID id with
  | none => manager
  | some job => { manager with byID := Function.update manager.byID id (some (mutate job)) }

def markRunning (manager : JobManager) (id : Nat) (message : String) : JobManager :=
  manager.update id fun job =>
    { job with status := .running, message := if message = "" then job.message else message }

def markRetrying (manager : JobManager) (id : Nat) (message : String) (result : WorkResult)
    (retryCount maxRetries : Nat) : JobManager :=
  manager.update id fun job =>
    { job with
      status := .retrying, message, error := result.errCode, detail := result.detail, retryCount, maxRetries }

def markSucceeded (manager : JobManager) (id : Nat) (result : WorkResult) : JobManager :=
  manager.update id fun job =>
    { job with status := .succeeded, message := result.message, error := "", detail := result.detail }

def markFailed (manager : JobManager) (id : Nat) (result : WorkResult) : JobManager :=
  manager.update id fun job =>
    { job with status := .failed, message := result.message, error := result.errCode, detail := result.detail }

end JobManager

/-! ### What is told of a job -/

def autoApplyMessage : Core → String
  | .xray => "正在同步 Xray 配置"
  | .singbox => "正在同步 sing-box 配置"

def coreAutoRetryMessage : Core → String
  | .xray => "Xray 自动同步暂时失败，稍后重试"
  | .singbox => "sing-box 自动同步暂时失败，稍后重试"

/-- The message of a job that a handler starts. -/
def applyMessage : Core → String
  | .xray => "正在应用 Xray 配置"
  | .singbox => "正在应用 sing-box 配置"

def appliedMessage : Core → String
  | .xray => "Xray 配置已应用"
  | .singbox => "sing-box 配置已应用"

def applyFailedMessage : Core → String
  | .xray => "Xray 应用失败"
  | .singbox => "sing-box 应用失败"

def cancelledResult : WorkResult :=
  ⟨false, "核心应用取消", "apply_cancelled", "context canceled"⟩

def timeoutResult : WorkResult :=
  ⟨false, "核心应用超时", "apply_timeout", "context deadline exceeded"⟩

def cleanupTimeoutResult : WorkResult :=
  ⟨false, "核心应用清理超时", "apply_cleanup_timeout", "timed out waiting for cancelled core apply attempt to exit"⟩

def lockedResult (detail : String) : WorkResult :=
  ⟨false, "核心应用失败", "apply_locked", detail⟩

def lockBusy : String := "lock busy: /run/migate/apply.lock"

def retryableErrors : List String :=
  ["apply_locked", "apply_timeout", "status_failed", "service_status_failed", "listener_check_failed",
    "port_check_failed", "restart_in_progress"]

def finalErrors : List String :=
  ["apply_cleanup_timeout", "build_failed", "build_xray_config_failed", "validation_failed", "validate_failed",
    "config_invalid", "unsupported_core", "store_unavailable", "core_apply_state_store_unavailable",
    "record_apply_state_failed", "permission_denied", "write_failed", "write_config_failed", "cert_failed"]

def coreApplyErrorRetryable (errCode detail : String) : Bool :=
  if retryableErrors.contains errCode then true
  else if finalErrors.contains errCode then false
  else
    let text := toLower (errCode ++ " " ++ detail)
    contains text "temporar" || contains text "timeout" || contains text "locked" || contains text "lock" ||
      (contains text "systemd" && contains text "busy") || (contains text "restart" && contains text "progress")

/-! ### The manager's part of the invariants -/

section

variable {manager started : JobManager} {core : Core} {id : Nat}

theorem JobManager.tryStart_eq_some {message : String} {maxRetries : Nat} :
    manager.tryStart core id message maxRetries = some started ↔
      manager.running core = false ∧ started = { manager with
        byCore := Function.update manager.byCore core (some id)
        byID := Function.update manager.byID id (some (queuedJob core message maxRetries)) } := by
  unfold tryStart
  cases manager.running core <;> simp [eq_comm]

@[simp] theorem JobManager.update_byCore (mutate : CoreApplyJobStatus → CoreApplyJobStatus) :
    (manager.update id mutate).byCore = manager.byCore := by
  unfold update
  split <;> rfl

@[simp] theorem JobManager.update_applySem (mutate : CoreApplyJobStatus → CoreApplyJobStatus) :
    (manager.update id mutate).applySem = manager.applySem := by
  unfold update
  split <;> rfl

theorem JobManager.update_byID (mutate : CoreApplyJobStatus → CoreApplyJobStatus) (other : Nat) :
    (manager.update id mutate).byID other = if other = id then (manager.byID id).map mutate else manager.byID other := by
  unfold update
  split
  · rename_i missing
    split
    · rename_i same
      rw [same, missing]
      rfl
    · rfl
  · rename_i job found
    simp only [Function.update_apply, found, Option.map_some]

end

end MiGate.Apply
