import AegisFortress.Python.Value

/-!
# The kill switch

`risk/kill_switch.py`.  Three things trip it: an explicit `trigger`, a drawdown reported to
`update_balance`, a loss reported to `update_pnl`.  Once tripped it stays so until `reset`.
-/

namespace Aegis

section Definitions

variable {α : Type} [Add α] [Sub α] [Mul α] [Div α] [Neg α] [Zero α] [LT α] [LE α]
  [DecidableLT α] [DecidableLE α] [PyFloat α]

/-- `risk.kill_switch.KillSwitch`, with the constructor's checks, less the time of tripping. -/
structure KillSwitch (α : Type) [Zero α] [LE α] where
  maxDailyLoss : α
  maxDrawdownPct : α
  loss_checked : ¬ maxDailyLoss ≤ 0
  drawdown_checked : ¬ maxDrawdownPct ≤ 0
  dailyPnl : α
  peakBalance : Option α
  triggered : Bool
  reason : Option String

namespace KillSwitch

/-- `KillSwitch(max_daily_loss, max_drawdown_pct)`. -/
def init (maxDailyLoss maxDrawdownPct : α) : Except PyError (KillSwitch α) :=
  if hloss : maxDailyLoss ≤ 0 then .error ⟨.valueError, "max_daily_loss must be positive"⟩
  else if hdrawdown : maxDrawdownPct ≤ 0 then
    .error ⟨.valueError, "max_drawdown_pct must be positive"⟩
  else .ok ⟨maxDailyLoss, maxDrawdownPct, hloss, hdrawdown, 0, none, false, none⟩

/-- `trigger(reason)`: the first reason stays. -/
def trigger (switch : KillSwitch α) (reason : String) : KillSwitch α :=
  if switch.triggered then switch else { switch with triggered := true, reason := some reason }

/-- `reset()`. -/
def reset (switch : KillSwitch α) : KillSwitch α :=
  { switch with triggered := false, reason := none, dailyPnl := 0, peakBalance := none }

/-- `is_active()`. -/
def isActive (switch : KillSwitch α) : Bool := !switch.triggered

/-- The peak after a balance has been reported. -/
def peakWith (switch : KillSwitch α) (currentBalance : α) : α :=
  match switch.peakBalance with
  | none => currentBalance
  | some peak => if peak < currentBalance then currentBalance else peak

/-- `update_balance(current_balance)`. -/
def updateBalance (switch : KillSwitch α) (currentBalance : α) : KillSwitch α × Bool :=
  if currentBalance ≤ 0 then (switch.trigger "Current balance is zero or negative", false)
  else
    let peak := switch.peakWith currentBalance
    let switch := { switch with peakBalance := some peak }
    let drawdownPct := (peak - currentBalance) / peak * PyFloat.ofRat 100
    if switch.maxDrawdownPct ≤ drawdownPct then
      (switch.trigger (s!"Drawdown {PyFloat.fixed 4 drawdownPct}% exceeded "
        ++ s!"limit {PyFloat.fixed 4 switch.maxDrawdownPct}%"), false)
    else (switch, switch.isActive)

/-- `update_pnl(pnl)`. -/
def updatePnl (switch : KillSwitch α) (pnl : α) : KillSwitch α × Bool :=
  let switch := { switch with dailyPnl := switch.dailyPnl + pnl }
  if switch.dailyPnl ≤ -pyAbs switch.maxDailyLoss then
    (switch.trigger (s!"Daily loss {PyFloat.fixed 8 switch.dailyPnl} exceeded "
      ++ s!"limit {PyFloat.fixed 8 (-pyAbs switch.maxDailyLoss)}"), false)
  else (switch, switch.isActive)

/-- `status()`. -/
def status (switch : KillSwitch α) : PyVal α :=
  .dict [("active", .bool switch.isActive), ("triggered", .bool switch.triggered),
    ("reason", switch.reason.elim .none .str), ("daily_pnl", .float switch.dailyPnl),
    ("peak_balance", switch.peakBalance.elim .none .float)]

end KillSwitch

end Definitions

namespace KillSwitch

variable (switch : KillSwitch ℚ)

@[simp] lemma trigger_triggered (reason : String) : (switch.trigger reason).triggered = true := by
  rw [trigger]
  split_ifs with h
  · exact h
  · rfl

@[simp] lemma trigger_dailyPnl (reason : String) :
    (switch.trigger reason).dailyPnl = switch.dailyPnl := by
  rw [trigger]
  split_ifs <;> rfl

/-- A new switch has the limits it was given and has not tripped. -/
lemma init_ok {maxDailyLoss maxDrawdownPct : ℚ} {switch : KillSwitch ℚ}
    (h : init maxDailyLoss maxDrawdownPct = .ok switch) :
    switch.maxDailyLoss = maxDailyLoss ∧ switch.triggered = false ∧ switch.dailyPnl = 0 := by
  rw [init] at h
  split_ifs at h
  rw [← Except.ok.inj h]
  exact ⟨rfl, rfl, rfl⟩

end KillSwitch

end Aegis
