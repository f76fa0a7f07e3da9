import AegisFortress.Lib.Dict
import AegisFortress.Lib.Raising
import AegisFortress.Lib.WithNan
import AegisFortress.Models.Order
import AegisFortress.Python.Value
import Mathlib.Data.List.DropRight
import Mathlib.Tactic.Linarith
import Mathlib.Tactic.FieldSimp
import Mathlib.Tactic.Ring

/-!
# The training environment

`TradingEnv` of `rl_agent.py`.  An access outside of the data frame raises, so a program that returns has
stayed inside.  `episode_solvent`: whatever is done in an episode, nothing raises, cash and position are never
negative, the episode is over after a fixed number of steps, and then nothing is held and the equity is the
capital with what the deals have brought.
-/

namespace Aegis.Pro

open Raising

/-- A row of the data frame: the close, and the cells of the other columns. -/
structure BarRow where
  c : ℚ
  cells : Dict String (WithNan ℚ) := ∅

/-- `row.get(col, 0.0)`. -/
def BarRow.value (row : BarRow) (col : String) : WithNan ℚ :=
  if col = "c" then .num row.c else row.cells.getD col (.num 0)

/-- A purchase or a sale: what is paid for the units, and the fee. -/
structure Deal where
  side : OrderSide
  notional : ℚ
  fee : ℚ

/-- `TradingEnv`, with the deals of the episode. -/
structure TradingEnv where
  featureCols : List String
  initialCapital : ℚ := 10000
  df : Option (List BarRow) := none
  idx : ℕ := 0
  cash : ℚ := initialCapital
  position : ℚ := 0
  entryPrice : ℚ := 0
  returns : List ℚ := []
  equityStart : ℚ := initialCapital
  deals : List Deal := []

/-- What `step` returns, with the entries of `info`. -/
structure StepResult where
  obs : List ℚ
  reward : ℚ
  done : Bool
  equity : ℚ
  position : ℚ
  price : ℚ
  action : String

namespace TradingEnv

def TAKER_FEE : ℚ := 1 / 1000
def SLIPPAGE : ℚ := 1 / 2000
def REWARD_SCALE : ℚ := 100

/-- `ACTIONS[action]`. -/
def actionName (action : ℤ) : Except PyError String :=
  if action = 0 then .ok "HOLD"
  else if action = 1 then .ok "BUY"
  else if action = 2 then .ok "SELL"
  else .error ⟨.keyError, toString action⟩

/-! ## Reading -/

/-- `self._df.iloc[i]`. -/
def iloc (i : ℕ) : EStateM PyError TradingEnv BarRow := do
  let env ← get
  match env.df with
  | none => throw ⟨.typeError, "'NoneType' object is not subscriptable"⟩
  | some rows =>
      match rows[i]? with
      | some row => return row
      | none => throw ⟨.other, "single positional indexer is out-of-bounds"⟩

/-- `len(self._df)`. -/
def length (env : TradingEnv) : ℕ := (env.df.map List.length).getD 0

/-- `_equity()`. -/
def equity : EStateM PyError TradingEnv ℚ := do
  let env ← get
  match env.df with
  | none => return env.cash + env.position * 0
  | some _ => do
      let row ← iloc env.idx
      return env.cash + env.position * row.c

/-- `_obs()`. -/
def obs : EStateM PyError TradingEnv (List ℚ) := do
  let env ← get
  let row ← iloc env.idx
  let vals := env.featureCols.map fun col =>
    match row.value col with
    | .num v => v
    | .nan => 0
  let eq ← equity
  return vals ++ [if 0 < env.position then 1 else 0,
    (eq - env.initialCapital) / max env.initialCapital 1]

/-- `_sharpe_reward(step_ret)`; mean and deviation are those of numpy. -/
def sharpeReward (mean std : List ℚ → ℚ) (env : TradingEnv) (stepRet : ℚ) : ℚ :=
  if env.returns.length < 5 then stepRet
  else
    let arr := env.returns.rtake 50
    mean arr / (std arr + 1 / 10 ^ 8)

/-! ## Stepping -/

/-- `reset(df)`. -/
def reset (df : List BarRow) : EStateM PyError TradingEnv (List ℚ) := do
  modify fun env =>
    { env with
      df := some df
      idx := 50
      cash := env.initialCapital
      position := 0
      entryPrice := 0
      returns := []
      equityStart := env.initialCapital
      deals := [] }
  obs

/-- The purchase of `step`, with the penalty for its fee. -/
def buy (price prevEq : ℚ) : EStateM PyError TradingEnv ℚ := do
  let env ← get
  let buyPrice := price * (1 + SLIPPAGE)
  if buyPrice = 0 then throw zeroDivisionError
  else do
    let units := env.cash * (19 / 20) / buyPrice
    let cost := units * buyPrice
    let fee := cost * TAKER_FEE
    modify fun env =>
      { env with
        cash := env.cash - (cost + fee)
        position := units
        entryPrice := buyPrice
        deals := env.deals ++ [⟨.buy, cost, fee⟩] }
    return -fee / max prevEq 1

/-- The whole position is sold, at the price less the slippage. -/
def sellAt (price : ℚ) (env : TradingEnv) : TradingEnv :=
  let proceeds := env.position * (price * (1 - SLIPPAGE))
  let fee := proceeds * TAKER_FEE
  { env with
    cash := env.cash + (proceeds - fee)
    position := 0
    deals := env.deals ++ [⟨.sell, proceeds, fee⟩] }

/-- The sale of `step`, with the penalty for its fee. -/
def sell (price prevEq : ℚ) : EStateM PyError TradingEnv ℚ := do
  let env ← get
  let fee := env.position * (price * (1 - SLIPPAGE)) * TAKER_FEE
  modify (sellAt price)
  return -fee / max prevEq 1

/-- What `step` does for an action. -/
def execute (action : ℤ) (price prevEq : ℚ) : EStateM PyError TradingEnv ℚ := do
  let env ← get
  if action = 1 ∧ env.position = 0 then buy price prevEq
  else if action = 2 ∧ 0 < env.position then sell price prevEq
  else return 0

/-- A position is closed at the last close when the episode ends. -/
def forceClose (done : Bool) : EStateM PyError TradingEnv Unit := do
  let env ← get
  if done ∧ 0 < env.position then do
    let last ← iloc (env.length - 1)
    modify (sellAt last.c)
  else return ()

/-- `step(action)`. -/
def step (mean std : List ℚ → ℚ) (action : ℤ) : EStateM PyError TradingEnv StepResult := do
  let env ← get
  if env.df.isNone then throw ⟨.other, "Call reset() first"⟩
  else do
    let row ← iloc env.idx
    let price := row.c
    let prevEq ← equity
    let rewardPenalty ← execute action price prevEq
    modify fun env => { env with idx := env.idx + 1 }
    let env ← get
    let done : Bool := env.length ≤ env.idx + 1
    forceClose done
    let newEq ← equity
    let stepRet := (newEq - prevEq) / max prevEq 1
    modify fun env => { env with returns := env.returns ++ [stepRet] }
    let env ← get
    let reward := env.sharpeReward mean std stepRet + rewardPenalty
    let name ← lift (actionName action)
    let obs ← obs
    return { obs, reward := reward * REWARD_SCALE, done, equity := newEq, position := env.position, price,
             action := name }

/-- Steps until one of them returns `done`; its result. -/
def play (mean std : List ℚ → ℚ) : List ℤ → EStateM PyError TradingEnv (Option StepResult)
  | [] => return none
  | action :: rest => do
      let result ← step mean std action
      if result.done then return some result else play mean std rest

/-- An episode on a data frame. -/
def episode (mean std : List ℚ → ℚ) (df : List BarRow) (actions : List ℤ) :
    EStateM PyError TradingEnv (Option StepResult) := do
  let _ ← reset df
  play mean std actions

/-! ## The account of an episode -/

/-- What the deals of one side are worth. -/
def turnover (side : OrderSide) (deals : List Deal) : ℚ :=
  ((deals.filter fun deal => deal.side = side).map Deal.notional).sum

/-- The fees of the deals. -/
def fees (deals : List Deal) : ℚ := (deals.map Deal.fee).sum

lemma turnover_snoc (side : OrderSide) (deals : List Deal) (deal : Deal) :
    turnover side (deals ++ [deal])
      = turnover side deals + if deal.side = side then deal.notional else 0 := by
  simp only [turnover, List.filter_append, List.map_append, List.sum_append, add_right_inj]
  by_cases h : deal.side = side <;> simp [h]

lemma fees_snoc (deals : List Deal) (deal : Deal) : fees (deals ++ [deal]) = fees deals + deal.fee := by
  simp [fees]

/-- An episode on these rows that has not lost more than it had. -/
structure Solvent (rows : List BarRow) (capital : ℚ) (env : TradingEnv) : Prop where
  frame : env.df = some rows
  initialCapital : env.initialCapital = capital
  cash : 0 ≤ env.cash
  position : 0 ≤ env.position
  balance : env.cash
    = capital + turnover .sell env.deals - turnover .buy env.deals - fees env.deals

variable {rows : List BarRow} {capital : ℚ} {env : TradingEnv} {mean std : List ℚ → ℚ}
  {E : PyError → TradingEnv → Prop}

lemma Solvent.length_eq (h : Solvent rows capital env) : env.length = rows.length := by
  rw [length, h.frame]
  rfl

/-! ## Reading inside of the frame -/

lemma leads_iloc (h : Solvent rows capital env) {i : ℕ} (hi : i < rows.length)
    {Q : BarRow → TradingEnv → Prop} : Leads (iloc i) env Q E ↔ Q rows[i] env := by
  simp only [iloc, leads_bind, leads_get, h.frame, List.getElem?_eq_getElem hi, leads_pure]

lemma leads_equity (h : Solvent rows capital env) (hi : env.idx < rows.length)
    {Q : ℚ → TradingEnv → Prop} :
    Leads equity env Q E ↔ Q (env.cash + env.position * rows[env.idx].c) env := by
  simp only [equity, leads_bind, leads_get, h.frame, leads_iloc h hi, leads_pure]

lemma leads_obs (h : Solvent rows capital env) (hi : env.idx < rows.length)
    {Q : List ℚ → TradingEnv → Prop} (hQ : ∀ l, Q l env) : Leads obs env Q E := by
  simp only [obs, leads_bind, leads_get, leads_iloc h hi, leads_equity h hi, leads_pure]
  exact hQ _

/-! ## Deals -/

/-- The sale of a position at a positive price. -/
lemma Solvent.sellAt (h : Solvent rows capital env) {price : ℚ} (hprice : 0 < price) :
    Solvent rows capital (sellAt price env) where
  frame := h.frame
  initialCapital := h.initialCapital
  cash := by
    have hproceeds : 0 ≤ env.position * (price * (1 - SLIPPAGE)) :=
      mul_nonneg h.position (mul_nonneg hprice.le (by norm_num [SLIPPAGE]))
    have hcash := h.cash
    simp only [TradingEnv.sellAt, TAKER_FEE]
    linarith
  position := le_rfl
  balance := by
    simp only [TradingEnv.sellAt, turnover_snoc, fees_snoc, reduceCtorEq, if_false, if_true]
    rw [h.balance]
    ring

/-- A purchase takes less than the cash, its fee included. -/
lemma buy_solvent (h : Solvent rows capital env) {price : ℚ} (hprice : 0 < price) (prevEq : ℚ) :
    Leads (buy price prevEq) env (fun _ after => Solvent rows capital after ∧ after.idx = env.idx)
      fun _ _ => False := by
  have hbuy : 0 < price * (1 + SLIPPAGE) := mul_pos hprice (by norm_num [SLIPPAGE])
  have hcost : env.cash * (19 / 20) / (price * (1 + SLIPPAGE)) * (price * (1 + SLIPPAGE))
      = env.cash * (19 / 20) := div_mul_cancel₀ _ hbuy.ne'
  have hcash := h.cash
  simp only [buy, leads_bind, leads_get, leads_ite, leads_throw, leads_modify, leads_pure, hcost]
  refine ⟨fun hzero => hbuy.ne' hzero, fun _ => ⟨⟨h.frame, h.initialCapital, ?_, ?_, ?_⟩, trivial⟩⟩
  · simp only [TAKER_FEE]
    linarith
  · exact div_nonneg (by linarith) hbuy.le
  · simp only [turnover_snoc, fees_snoc, reduceCtorEq, if_false, if_true]
    rw [h.balance]
    ring

/-- **An action** keeps the account, at whatever bar it is taken. -/
lemma execute_solvent (h : Solvent rows capital env) (action : ℤ) {price : ℚ} (hprice : 0 < price)
    (prevEq : ℚ) :
    Leads (execute action price prevEq) env (fun _ after => Solvent rows capital after ∧ after.idx = env.idx)
      fun _ _ => False := by
  simp only [execute, leads_bind, leads_get, leads_ite, leads_pure]
  refine ⟨fun _ => buy_solvent h hprice prevEq, fun _ => ⟨fun _ => ?_, fun _ => ⟨h, trivial⟩⟩⟩
  simp only [sell, leads_bind, leads_get, leads_modify, leads_pure]
  exact ⟨h.sellAt hprice, rfl⟩

/-- **The forced close** leaves nothing when the episode is over. -/
lemma forceClose_solvent (h : Solvent rows capital env) (hrows : rows ≠ [])
    (hclose : ∀ row ∈ rows, 0 < row.c) (done : Bool) :
    Leads (forceClose done) env (fun _ after => Solvent rows capital after ∧ after.idx = env.idx
      ∧ (done = true → after.position = 0)) fun _ _ => False := by
  have hlast : env.length - 1 < rows.length := by
    rw [h.length_eq]
    exact Nat.sub_lt (List.length_pos_of_ne_nil hrows) Nat.one_pos
  simp only [forceClose, leads_bind, leads_get, leads_ite, leads_iloc h hlast, leads_modify, leads_pure]
  refine ⟨fun _ => ⟨h.sellAt (hclose _ (List.getElem_mem hlast)), rfl, fun _ => rfl⟩,
    fun hopen => ⟨h, trivial, fun hdone => ?_⟩⟩
  exact le_antisymm (not_lt.mp fun hpos => hopen ⟨hdone, hpos⟩) h.position

/-! ## Steps and episodes -/

/-- What a step has returned at a bar. -/
structure Stepped (rows : List BarRow) (capital : ℚ) (bar : ℕ) (result : StepResult)
    (after : TradingEnv) : Prop where
  solvent : Solvent rows capital after
  advanced : after.idx = bar + 1
  done : result.done = true ↔ rows.length ≤ bar + 2
  closed : result.done = true → after.position = 0 ∧ result.equity = after.cash

/-- **One step** from a bar that is not the last. -/
lemma step_solvent (h : Solvent rows capital env) (hbar : env.idx + 1 < rows.length)
    (hclose : ∀ row ∈ rows, 0 < row.c) {action : ℤ} (haction : action ∈ [0, 1, 2]) :
    Leads (step mean std action) env (Stepped rows capital env.idx) fun _ _ => False := by
  have hnow : env.idx < rows.length := Nat.lt_of_succ_lt hbar
  have hrows : rows ≠ [] := List.ne_nil_of_length_pos (Nat.zero_lt_of_lt hnow)
  obtain ⟨name, hname⟩ : ∃ name, actionName action = .ok name := by
    simp only [List.mem_cons, List.not_mem_nil, or_false] at haction
    rcases haction with rfl | rfl | rfl <;> exact ⟨_, rfl⟩
  simp only [step, leads_bind, leads_get, leads_ite, h.frame, Option.isNone_some, Bool.false_eq_true,
    false_implies, not_false_eq_true, true_implies, true_and, leads_iloc h hnow, leads_equity h hnow]
  refine (execute_solvent h action (hclose _ (List.getElem_mem hnow)) _).mono ?_ fun _ _ => False.elim
  rintro penalty acted ⟨hacted, hidx⟩
  -- the bar is advanced
  have hnext : Solvent rows capital { acted with idx := acted.idx + 1 } := { hacted with }
  simp only [leads_modify, hname]
  refine (forceClose_solvent hnext hrows hclose _).mono ?_ fun _ _ => False.elim
  rintro - closed ⟨hclosed, hclosedIdx, hempty⟩
  have hin : closed.idx < rows.length := by
    rw [hclosedIdx]
    simpa [hidx] using hbar
  have hlogged : ∀ returns, Solvent rows capital { closed with returns } := fun _ => { hclosed with }
  simp only [leads_equity hclosed hin, leads_lift, Except.ok.injEq, reduceCtorEq, false_implies,
    implies_true, and_true, forall_eq']
  refine leads_obs (hlogged _) ?_ fun obs => ?_
  · exact hin
  rw [leads_pure]
  refine ⟨hlogged _, ?_, ?_, fun hdone => ⟨hempty hdone, ?_⟩⟩
  · simp [hclosedIdx, hidx]
  · rw [decide_eq_true_iff, hnext.length_eq, hidx]
  · simp [hempty hdone]

/-- **Steps until the end.** -/
lemma play_solvent (hclose : ∀ row ∈ rows, 0 < row.c) (actions : List ℤ)
    (hactions : ∀ action ∈ actions, action ∈ [0, 1, 2]) :
    ∀ {env}, Solvent rows capital env → env.idx + 1 < rows.length →
      Leads (play mean std actions) env (fun result after => Solvent rows capital after
        ∧ (result.isSome = true ↔ rows.length ≤ env.idx + 1 + actions.length)
        ∧ ∀ last, result = some last → last.done = true ∧ after.position = 0 ∧ last.equity = after.cash)
        fun _ _ => False := by
  induction actions with
  | nil =>
      intro env h hbar
      rw [play, leads_pure]
      exact ⟨h, by simpa using hbar, fun last hlast => by cases hlast⟩
  | cons action rest ih =>
      intro env h hbar
      rw [play, leads_bind]
      refine (step_solvent h hbar hclose (hactions action List.mem_cons_self)).mono ?_
        fun _ _ => False.elim
      intro result after hstep
      have hdone := hstep.done
      rw [leads_ite]
      refine ⟨fun hover => ?_, fun hgoes => ?_⟩
      · rw [leads_pure]
        obtain ⟨hposition, hequity⟩ := hstep.closed hover
        refine ⟨hstep.solvent, ?_, fun last hlast => ?_⟩
        · simp only [Option.isSome_some, List.length_cons, true_iff]
          have hlength := hdone.mp hover
          omega
        · cases hlast
          exact ⟨hover, hposition, hequity⟩
      · have hbar' : after.idx + 1 < rows.length := by
          rw [hstep.advanced]
          exact not_le.mp fun hle => hgoes (hdone.mpr hle)
        refine (ih (fun action hmem => hactions action (List.mem_cons_of_mem _ hmem)) hstep.solvent
          hbar').mono ?_ fun _ _ => False.elim
        rintro last final ⟨hsolvent, hsome, hlast⟩
        refine ⟨hsolvent, ?_, hlast⟩
        rw [hsome, hstep.advanced, List.length_cons]
        omega

/-- **An episode is solvent and in bounds.**  From a positive capital, on at least 52 rows with positive
closes, no sequence of actions raises; cash and position are never negative; `done` is returned with the
action for the last bar but one, and then nothing is held and the equity is the capital with all proceeds,
less all costs and fees. -/
theorem episode_solvent (mean std : List ℚ → ℚ) (env : TradingEnv) (hcapital : 0 < env.initialCapital)
    (df : List BarRow) (hrows : 52 ≤ df.length) (hclose : ∀ row ∈ df, 0 < row.c)
    (actions : List ℤ) (hactions : ∀ action ∈ actions, action ∈ [0, 1, 2]) :
    ∃ result after, (episode mean std df actions).run env = .ok result after
      ∧ 0 ≤ after.cash ∧ 0 ≤ after.position
      ∧ (result.isSome = true ↔ df.length ≤ actions.length + 51)
      ∧ ∀ last, result = some last → last.done = true ∧ after.position = 0
        ∧ last.equity = env.initialCapital + turnover .sell after.deals - turnover .buy after.deals
          - fees after.deals := by
  refine Leads.returns ?_
  rw [episode, leads_bind, reset, leads_bind, leads_modify]
  have hstart : Solvent df env.initialCapital
      { env with
        df := some df
        idx := 50
        cash := env.initialCapital
        position := 0
        entryPrice := 0
        returns := []
        equityStart := env.initialCapital
        deals := [] } :=
    ⟨rfl, rfl, hcapital.le, le_rfl, by simp [turnover, fees]⟩
  refine leads_obs hstart (show 50 < df.length by omega) fun _ => ?_
  refine (play_solvent hclose actions hactions hstart (show 50 + 1 < df.length by omega)).mono ?_
    fun _ _ => id
  rintro result after ⟨hsolvent, hsome, hlast⟩
  refine ⟨hsolvent.cash, hsolvent.position, ?_, fun last hresult => ?_⟩
  · rw [hsome]
    simp only
    omega
  · obtain ⟨hdone, hposition, hequity⟩ := hlast last hresult
    exact ⟨hdone, hposition, hequity.trans hsolvent.balance⟩

/-- The shortest frame, with a close that does not move. -/
def stillRows : List BarRow := List.replicate 52 { c := 100 }

/-- A purchase on the last bar but one is sold again in the same step. -/
theorem episode_solvent_still_rows :
    ∃ result after, (episode (fun _ => 0) (fun _ => 0) stillRows [1]).run { featureCols := ["c"] }
        = .ok result after
      ∧ 0 ≤ after.cash ∧ 0 ≤ after.position ∧ (result.isSome = true ↔ stillRows.length ≤ [1].length + 51)
      ∧ ∀ last, result = some last → last.done = true ∧ after.position = 0
        ∧ last.equity = 10000 + turnover .sell after.deals - turnover .buy after.deals
          - fees after.deals :=
  episode_solvent (fun _ => 0) (fun _ => 0) { featureCols := ["c"] } (by norm_num) stillRows
    (by simp [stillRows]) (fun row hrow => by rw [List.eq_of_mem_replicate hrow]; norm_num) [1] (by simp)

end TradingEnv

end Aegis.Pro
