import AegisFortress.Pro.FeatureEngine

/-!
# What the backtester knows

`run` cuts the frame of 15 minutes at the bar it looks at, but hands the frames of one and four hours over
whole, and the row before the last of such a frame is carried to every bar.

`same_decision_iff` compares two inputs that agree in all that has happened when a bar closes: what they
decide differs by the hours to come, and by what the next open lets be bought.  `same_decision` says that
nothing else that comes later matters, and that the frame of four hours does not matter at all.
-/

namespace Aegis.Pro

open FeatureEngine Backtester WithNan

/-- The frames that `run` is given. -/
structure Frames where
  df15m : List Bar
  df1h : Option (List Bar)
  df4h : Option (List Bar)

namespace Frames

/-! ## Decisions -/

section Decisions

variable (cfg : AegisConfig) (sqrt : ℚ → ℚ) (btcBullish : Bool) (symbol : String) (frames : Frames)
  (i : ℕ) (state : RunState)

/-- The row that is looked at after a bar. -/
def row : Option FeatureRow :=
  (compute cfg sqrt (frames.df15m.take (i + 1)) frames.df1h frames.df4h).toOption.join

/-- The signal of a bar with the average true range, as the loop of `run` takes them. -/
def signals : Option BarSignal :=
  (frames.row cfg sqrt i).bind fun row =>
    (row.validateSignalConditions cfg btcBullish symbol).map fun signal => ⟨signal, row.atr⟩

/-- The bar of the loop with this index. -/
def loopBar : Option LoopBar := (loopBars frames.df15m).find? fun now => now.i = i

/-- **The decision after a bar**: the type of the signal by which a position is opened. -/
def decision : Option String :=
  if frames.df15m.length < 230 then none
  else
    (frames.loopBar i).bind fun now =>
      (entryAt cfg (frames.signals cfg sqrt btcBullish symbol) frames.df15m.length now
        (manage cfg now state)).map Position.signalType

end Decisions

/-! ## Two inputs with the same past -/

/-- The bars of a frame that have closed by a time, each bar lasting this long. -/
def closedBars (frame : Option (List Bar)) (lasts time : ℤ) : List Bar :=
  (frame.getD []).filter fun bar => bar.ts + lasts ≤ time

/-- A quarter of an hour, in milliseconds. -/
def quarter : ℤ := 900000

/-- **The same past**: the frames of 15 minutes agree up to a bar, and the others in all bars that have
closed when that bar closes. -/
structure AgreeUntil (i : ℕ) (x y : Frames) : Prop where
  left : i + 2 < x.df15m.length
  right : i + 2 < y.df15m.length
  df15m : x.df15m.take (i + 1) = y.df15m.take (i + 1)
  df1h : ∀ bar ∈ x.df15m[i]?,
    closedBars x.df1h (4 * quarter) (bar.ts + quarter)
      = closedBars y.df1h (4 * quarter) (bar.ts + quarter)
  df4h : ∀ bar ∈ x.df15m[i]?,
    closedBars x.df4h (16 * quarter) (bar.ts + quarter)
      = closedBars y.df4h (16 * quarter) (bar.ts + quarter)

/-! ## What a decision rests on -/

/-- The equity after a bar that leaves no position open: there was none, or it is left at this bar. -/
def flatEquity (cfg : AegisConfig) (bar : Bar) (i : ℕ) (state : RunState) : Option ℚ :=
  match state.position with
  | none => some state.equity
  | some pos =>
      match checkExit guardEps cfg pos bar i with
      | (none, _) => none
      | (some (price, reason), pos) => some (closePosition pos price reason state.equity).1

/-- The risk of a trade, bought at the next open, costs neither too much nor too little. -/
def Affordable (cfg : AegisConfig) (atr : WithNan ℚ) (nextOpen equity : ℚ) : Prop :=
  match atr with
  | nan => False
  | num atr =>
      let stopDist := cfg.atrStopMult * atr
      let cost := equity * cfg.baseRiskPerTrade / stopDist * (nextOpen * (1 + slippage))
      0 < stopDist ∧ 10 ≤ cost ∧ cost ≤ equity * (19 / 20)

instance (cfg : AegisConfig) (atr : WithNan ℚ) (nextOpen equity : ℚ) :
    Decidable (Affordable cfg atr nextOpen equity) := by
  cases atr with
  | nan => exact isFalse id
  | num atr => exact inferInstanceAs (Decidable (_ ∧ _ ∧ _))

section Conditions

variable (cfg : AegisConfig) (sqrt : ℚ → ℚ) (frames : Frames) (i : ℕ)

/-- The features of the bar, from the bars up to it, when none of the critical ones is missing. -/
def own : Option BarFeatures :=
  (barFeatures cfg sqrt (frames.df15m.take (i + 1))).toOption.filter fun own => ¬ own.Incomplete

/-- There are enough bars, and a trade can be bought at the next open. -/
def Affords (atr : WithNan ℚ) (equity : ℚ) : Prop :=
  230 ≤ frames.df15m.length ∧ ∀ next ∈ frames.df15m[i + 1]?, Affordable cfg atr next.o equity

/-- The frame of an hour allows a trend signal. -/
def AdxHour : Prop := ∀ adx1h ∈ (carried (adx cfg) frames.df1h).toOption, Adx1hOk cfg adx1h

/-- The frame of an hour allows a range signal. -/
def RsiHour : Prop := ∀ rsi1h ∈ (carried (rsi cfg) frames.df1h).toOption, Rsi1hOk rsi1h

instance (atr : WithNan ℚ) (equity : ℚ) : Decidable (frames.Affords cfg i atr equity) :=
  inferInstanceAs (Decidable (_ ∧ _))
instance : Decidable (frames.AdxHour cfg) := inferInstanceAs (Decidable (∀ _ ∈ _, _))
instance : Decidable (frames.RsiHour cfg) := inferInstanceAs (Decidable (∀ _ ∈ _, _))

variable (own : BarFeatures)

/-- One of the three setups is there. -/
def Setup : Prop :=
  (own.TrendSetup cfg ∧ frames.AdxHour cfg) ∨ (own.RangeSetup cfg ∧ frames.RsiHour cfg) ∨ own.Breakout

/-- The conditions of the hour are the same wherever the signal depends on them. -/
def HoursAgree (x y : Frames) : Prop :=
  (own.TrendSetup cfg → (x.AdxHour cfg ↔ y.AdxHour cfg))
    ∧ (own.RangeSetup cfg → ¬ (own.TrendSetup cfg ∧ x.AdxHour cfg) → (x.RsiHour cfg ↔ y.RsiHour cfg))

instance : Decidable (frames.Setup cfg own) := inferInstanceAs (Decidable (_ ∨ _ ∨ _))
instance (x y : Frames) : Decidable (HoursAgree cfg own x y) :=
  inferInstanceAs (Decidable ((_ → (_ ↔ _)) ∧ (_ → ¬ (_ ∧ _) → (_ ↔ _))))

/-- The signal by the features of the bar and the frame of an hour. -/
def signalBy (btcBullish : Bool) (symbol : String) : Option String :=
  if ¬ own.Tradable cfg btcBullish symbol then none
  else if own.TrendSetup cfg ∧ frames.AdxHour cfg then some "TREND"
  else if own.RangeSetup cfg ∧ frames.RsiHour cfg then some "RANGE"
  else if own.Breakout then some "BREAKOUT"
  else none

end Conditions

section Spec

variable {cfg : AegisConfig} {sqrt : ℚ → ℚ} {btcBullish : Bool} {symbol : String} {frames : Frames}
  {i : ℕ} {state : RunState}

/-! ### The bar of the loop -/

/-- A bar of the loop, by its index. -/
lemma mem_loopBars_iff {bars : List Bar} {now : LoopBar} : now ∈ loopBars bars
    ↔ 210 ≤ now.i ∧ bars[now.i]? = some now.bar ∧ (bars[now.i + 1]?).map Bar.o = some now.nextOpen := by
  simp only [loopBars, List.mem_iff_getElem?, List.getElem?_map, List.getElem?_drop, List.getElem?_zipIdx,
    List.getElem?_zip_eq_some, List.getElem?_tail, Option.map_eq_some_iff, Prod.exists]
  constructor
  · rintro ⟨k, bar, next, i, ⟨_, _, ⟨hbar, hnext⟩, heq⟩, rfl⟩
    cases heq
    simp only [zero_add]
    exact ⟨by omega, hbar, next, hnext, rfl⟩
  · rintro ⟨hi, hbar, next, hnext, hopen⟩
    obtain ⟨k, hk⟩ := Nat.exists_eq_add_of_le hi
    rw [hk] at hbar hnext
    refine ⟨k, now.bar, next, now.i, ⟨now.bar, next, ⟨hbar, hnext⟩, ?_⟩, ?_⟩
    · rw [hk, zero_add]
    · rw [hopen]

lemma loopBar_eq {bar next : Bar} (hi : 210 ≤ i) (hbar : frames.df15m[i]? = some bar)
    (hnext : frames.df15m[i + 1]? = some next) : frames.loopBar i = some ⟨bar, next.o, i⟩ := by
  have hmem : (⟨bar, next.o, i⟩ : LoopBar) ∈ loopBars frames.df15m :=
    mem_loopBars_iff.mpr ⟨hi, hbar, by rw [hnext, Option.map_some]⟩
  rw [loopBar]
  cases hfound : (loopBars frames.df15m).find? fun now => now.i = i with
  | none => exact absurd (decide_eq_true rfl) (List.find?_eq_none.mp hfound _ hmem)
  | some now =>
      have hat : now.i = i := by simpa using List.find?_some hfound
      obtain ⟨-, hbar', hopen⟩ := mem_loopBars_iff.mp (List.mem_of_find?_eq_some hfound)
      rw [hat] at hbar' hopen
      cases now
      simp_all

lemma loopBar_early (hi : ¬ 210 ≤ i) : frames.loopBar i = none := by
  rw [loopBar, List.find?_eq_none]
  intro now hmem hat
  have hat : now.i = i := of_decide_eq_true hat
  exact hi (hat ▸ (mem_loopBars_iff.mp hmem).1)

/-! ### The signal -/

variable (cfg sqrt) in
/-- The row joins the features of the bar and what is carried over. -/
lemma row_eq (hlong : 60 ≤ i + 1) (hi : i + 2 < frames.df15m.length) :
    ∃ carry, addHtfCarry cfg frames.df1h frames.df4h = .ok carry
      ∧ frames.row cfg sqrt i
        = (frames.own cfg sqrt i).map fun own => { own with toHtfCarry := carry } := by
  have htake : 60 ≤ (frames.df15m.take (i + 1)).length := by
    rw [List.length_take]
    omega
  obtain ⟨own, carry, hown, hcarry, hcompute⟩ := compute_eq cfg sqrt htake frames.df1h frames.df4h
  refine ⟨carry, hcarry, ?_⟩
  rw [Frames.row, hcompute, Frames.own, hown]
  by_cases hincomplete : own.Incomplete
  · simp [Except.toOption, Option.filter, hincomplete]
  · simp [Except.toOption, Option.filter, hincomplete]

lemma validate_eq {carry : HtfCarry} (hcarry : addHtfCarry cfg frames.df1h frames.df4h = .ok carry)
    (own : BarFeatures) :
    FeatureRow.validateSignalConditions { own with toHtfCarry := carry } cfg btcBullish symbol
      = frames.signalBy cfg own btcBullish symbol := by
  obtain ⟨hadx, hrsi⟩ := carried_of_addHtfCarry hcarry
  have hadxHour : frames.AdxHour cfg ↔ Adx1hOk cfg carry.adx1h := by
    simp [AdxHour, hadx, Except.toOption]
  have hrsiHour : frames.RsiHour cfg ↔ Rsi1hOk carry.rsi1h := by
    simp [RsiHour, hrsi, Except.toOption]
  simp only [FeatureRow.validateSignalConditions, signalBy, hadxHour, hrsiHour]

lemma signalBy_eq_none_iff {own : BarFeatures} : frames.signalBy cfg own btcBullish symbol = none
    ↔ (own.Tradable cfg btcBullish symbol → ¬ frames.Setup cfg own) := by
  rw [signalBy, Setup]
  split_ifs <;> simp_all

/-- Two chains of alternatives whose first ones have an answer of their own. -/
lemma ite_eq_ite_iff {β : Type} {a p q : Prop} [Decidable a] [Decidable p] [Decidable q]
    {answer rest rest' : β} (h : rest ≠ answer) (h' : rest' ≠ answer) :
    (if a ∧ p then answer else rest) = (if a ∧ q then answer else rest')
      ↔ (a → (p ↔ q)) ∧ (¬ (a ∧ p) → rest = rest') := by
  by_cases ha : a <;> by_cases hp : p <;> by_cases hq : q <;> simp [ha, hp, hq, h, h'.symm]

/-- Two frames give the same signal exactly if the hours agree. -/
lemma signalBy_eq_iff {own : BarFeatures} {x y : Frames} :
    x.signalBy cfg own btcBullish symbol = y.signalBy cfg own btcBullish symbol
      ↔ (own.Tradable cfg btcBullish symbol → HoursAgree cfg own x y) := by
  rw [signalBy, signalBy]
  by_cases ht : own.Tradable cfg btcBullish symbol
  · rw [if_neg (not_not.mpr ht), if_neg (not_not.mpr ht), ite_eq_ite_iff (by split_ifs <;> simp)
      (by split_ifs <;> simp), ite_eq_ite_iff (by split_ifs <;> simp) (by split_ifs <;> simp),
      HoursAgree]
    simp only [implies_true, and_true, ht, forall_const]
    exact and_congr_right fun _ => ⟨fun h hsetup hno => h hno hsetup, fun h hno hsetup => h hsetup hno⟩
  · simp only [ht, not_false_eq_true, if_true, false_implies]

/-! ### The position -/

/-- What the loop has after the exits. -/
lemma flatEquity_eq (bar : Bar) (nextOpen : ℚ) : flatEquity cfg bar i state
    = if (manage cfg ⟨bar, nextOpen, i⟩ state).position.isNone then
        some (manage cfg ⟨bar, nextOpen, i⟩ state).equity
      else none := by
  rw [flatEquity, manage]
  cases hpos : state.position with
  | none => simp [hpos]
  | some pos =>
      simp only
      rcases checkExit guardEps cfg pos bar i with ⟨_ | ⟨price, reason⟩, pos'⟩
      · simp
      · simp [leave]

lemma openPosition_signalType (signal : BarSignal) (nextOpen equity : ℚ) :
    (openPosition cfg signal nextOpen i equity).map Position.signalType
      = if Affordable cfg signal.atr nextOpen equity then some signal.signal else none := by
  rw [openPosition]
  cases signal.atr with
  | nan => rfl
  | num atr =>
      simp only [newPosition, Affordable]
      by_cases hstop : 0 < cfg.atrStopMult * atr
      · simp only [hstop, true_and, if_true]
        rw [apply_ite (Option.map Position.signalType), ← ite_not]
        simp only [not_or, not_lt, Option.map_some, Option.map_none, and_comm]
      · have hzero : (0 : ℚ) < 10 := by norm_num
        simp [hstop, hzero]

/-- **A decision**: without an open position, by the complete features of the bar, if a trade can be bought
at the next open. -/
lemma decision_eq {bar : Bar} (hi : 210 ≤ i) (hlen : i + 2 < frames.df15m.length)
    (hbar : frames.df15m[i]? = some bar) :
    frames.decision cfg sqrt btcBullish symbol i state
      = (flatEquity cfg bar i state).bind fun equity => (frames.own cfg sqrt i).bind fun own =>
        if frames.Affords cfg i own.atr equity then frames.signalBy cfg own btcBullish symbol
        else none := by
  obtain ⟨next, hnext⟩ : ∃ next, frames.df15m[i + 1]? = some next :=
    ⟨_, List.getElem?_eq_getElem (by omega)⟩
  obtain ⟨carry, hcarry, hrow⟩ := row_eq cfg sqrt (by omega) hlen
  rw [decision, loopBar_eq hi hbar hnext, Option.bind_some, entryAt, flatEquity_eq bar next.o]
  by_cases hnone : (manage cfg ⟨bar, next.o, i⟩ state).position.isNone
  · simp only [hnone, hlen, and_self, if_true, signals, hrow, Option.bind_some]
    cases frames.own cfg sqrt i with
    | none => simp
    | some own =>
        simp only [Option.map_some, Option.bind_some, validate_eq hcarry]
        by_cases hshort : frames.df15m.length < 230
        · have hnot : ∀ equity, ¬ frames.Affords cfg i own.atr equity := fun _ h => by
            exact absurd h.1 hshort.not_ge
          simp [hshort, hnot]
        · have haffords : ∀ equity, frames.Affords cfg i own.atr equity
              ↔ Affordable cfg own.atr next.o equity := by
            intro equity
            simp [Affords, hnext, not_lt.mp hshort]
          simp only [if_neg hshort, haffords]
          cases frames.signalBy cfg own btcBullish symbol with
          | none => simp
          | some signal =>
              rw [Option.map_some, Option.bind_some, openPosition_signalType]
  · simp [hnone]

/-- The loop decides so: without a position it opens the one of the decision. -/
lemma runBar_decision (hlong : 230 ≤ frames.df15m.length) {now : LoopBar}
    (hbar : frames.loopBar i = some now) (hnone : (manage cfg now state).position = none) :
    (runBar cfg (frames.signals cfg sqrt btcBullish symbol) frames.df15m.length state now).position.map
        Position.signalType
      = frames.decision cfg sqrt btcBullish symbol i state := by
  rw [decision, if_neg hlong.not_gt, hbar, Option.bind_some, runBar]
  cases hentry : entryAt cfg (frames.signals cfg sqrt btcBullish symbol) frames.df15m.length now
      (manage cfg now state) with
  | none => rw [(enter_none _ _ hentry).1, hnone]
  | some pos => rw [enter, hentry]

lemma decision_early (hi : ¬ 210 ≤ i) :
    frames.decision cfg sqrt btcBullish symbol i state = none := by
  rw [decision, loopBar_early hi, Option.bind_none, ite_self]

end Spec

section SamePast

variable {cfg : AegisConfig} {sqrt : ℚ → ℚ} {i : ℕ} {x y : Frames}

/-- The features of the bar belong to the past. -/
lemma AgreeUntil.own_eq (h : AgreeUntil i x y) : x.own cfg sqrt i = y.own cfg sqrt i := by
  rw [own, own, h.df15m]

lemma AgreeUntil.bar_eq (h : AgreeUntil i x y) : x.df15m[i]? = y.df15m[i]? := by
  rw [← List.getElem?_take_of_lt (Nat.lt_succ_self i), h.df15m,
    List.getElem?_take_of_lt (Nat.lt_succ_self i)]

end SamePast

/-- **Two runs with the same past** decide alike after a bar exactly if this holds, where no position is left
open and the bar is tradable with complete features: if both inputs afford a trade, the conditions of the
hour agree, and if only one of them does, it has no setup. -/
theorem same_decision_iff (cfg : AegisConfig) (sqrt : ℚ → ℚ) (btcBullish : Bool) (symbol : String)
    {i : ℕ} {x y : Frames} (h : AgreeUntil i x y) (state : RunState) :
    x.decision cfg sqrt btcBullish symbol i state = y.decision cfg sqrt btcBullish symbol i state
      ↔ (210 ≤ i → ∀ bar ∈ x.df15m[i]?, ∀ equity ∈ flatEquity cfg bar i state,
          ∀ own ∈ x.own cfg sqrt i, own.Tradable cfg btcBullish symbol →
            (x.Affords cfg i own.atr equity → y.Affords cfg i own.atr equity → HoursAgree cfg own x y)
              ∧ (x.Affords cfg i own.atr equity → ¬ y.Affords cfg i own.atr equity → ¬ x.Setup cfg own)
              ∧ (y.Affords cfg i own.atr equity → ¬ x.Affords cfg i own.atr equity →
                ¬ y.Setup cfg own)) := by
  by_cases hi : 210 ≤ i
  · have hlast : i < x.df15m.length := by
      have hleft := h.left
      omega
    obtain ⟨bar, hbar⟩ : ∃ bar, x.df15m[i]? = some bar := ⟨_, List.getElem?_eq_getElem hlast⟩
    rw [decision_eq hi h.left hbar, decision_eq hi h.right (h.bar_eq ▸ hbar), ← h.own_eq, hbar]
    simp only [hi, forall_const, Option.mem_def, Option.some.injEq, forall_eq']
    cases flatEquity cfg bar i state with
    | none => simp
    | some equity =>
        cases x.own cfg sqrt i with
        | none => simp
        | some own =>
            simp only [Option.bind_some, Option.some.injEq, forall_eq']
            -- the two signals, as far as they can be acted on
            by_cases hx : x.Affords cfg i own.atr equity
            · by_cases hy : y.Affords cfg i own.atr equity
              · simpa [hx, hy] using signalBy_eq_iff
              · simpa [hx, hy] using signalBy_eq_none_iff
            · by_cases hy : y.Affords cfg i own.atr equity
              · simpa [hx, hy, eq_comm] using signalBy_eq_none_iff
              · simp [hx, hy]
  · rw [decision_early hi, decision_early hi]
    exact iff_of_true rfl fun hi' => absurd hi' hi

/-! ## Two markets -/

/-- The price after some quarters of an hour: it rises, faster from the 208th on, until it stands still. -/
def priceAfter (turn k : ℕ) : ℚ := 100 + 2 * min k 208 + 11 * (min k turn - 208 : ℕ)

def priceBar (turn k : ℕ) : Bar where
  ts := k * quarter
  o := priceAfter turn k
  h := priceAfter turn (k + 1) + 20
  l := priceAfter turn k - 20
  c := priceAfter turn (k + 1)
  v := 1

/-- The bar of an hour, from the four bars of it. -/
def hourBar (turn k : ℕ) : Bar where
  ts := k * (4 * quarter)
  o := priceAfter turn (4 * k)
  h := priceAfter turn (4 * k + 4) + 20
  l := priceAfter turn (4 * k) - 20
  c := priceAfter turn (4 * k + 4)
  v := 4

/-- The frames of a market that has been watched for some hours. -/
def market (turn hours : ℕ) : Frames where
  df15m := (List.range (4 * hours)).map (priceBar turn)
  df1h := some ((List.range hours).map (hourBar turn))
  df4h := none

/-- Short periods, so that a single bar shows a trend. -/
def shortPeriods : AegisConfig where
  atrPeriod := 1
  adxPeriod := 1
  rsiPeriod := 1
  emaFast := 1
  emaSlow := 3
  macdSignal := 3
  bbPeriod := 3
  rsiTrendBullMax := 100

/-- The square root of a square. -/
def exactSqrt (x : ℚ) : ℚ := Nat.sqrt x.num.toNat / Nat.sqrt x.den

/-- When bar 210 closes, 52 hours have closed. -/
lemma agree_of_closed {turn turn' hours hours' : ℕ} (hlong : 54 ≤ hours) (hlong' : 54 ≤ hours')
    (h15m : (market turn hours).df15m.take 211 = (market turn' hours').df15m.take 211)
    (h1h : closedBars (market turn hours).df1h (4 * quarter) (211 * quarter)
      = closedBars (market turn' hours').df1h (4 * quarter) (211 * quarter)) :
    AgreeUntil 210 (market turn hours) (market turn' hours') := by
  refine ⟨?_, ?_, h15m, fun bar hbar => ?_, fun _ _ => rfl⟩
  · simp only [market, List.length_map, List.length_range]
    omega
  · simp only [market, List.length_map, List.length_range]
    omega
  · have hts : bar.ts + quarter = 211 * quarter := by
      simp only [market, List.getElem?_map, Option.mem_def, Option.map_eq_some_iff] at hbar
      obtain ⟨k, hk, rfl⟩ := hbar
      rw [List.getElem?_range (by omega), Option.some.injEq] at hk
      rw [priceBar, ← hk]
      rfl
    rw [hts]
    exact h1h

/-- Two more hours of the rise at the end make no difference. -/
theorem same_decision_iff_rising :
    (market 240 58).decision shortPeriods exactSqrt true "BTC/USDT" 210 (.init "BTC/USDT" 10000)
      = (market 240 60).decision shortPeriods exactSqrt true "BTC/USDT" 210 (.init "BTC/USDT" 10000) := by
  have hpast : AgreeUntil 210 (market 240 58) (market 240 60) :=
    agree_of_closed (by decide) (by decide) (by decide +kernel) (by decide +kernel)
  refine (same_decision_iff shortPeriods exactSqrt true "BTC/USDT" hpast
    (.init "BTC/USDT" 10000)).mpr fun _ bar hbar => ?_
  -- there is no position before the bar
  rintro _ ⟨⟩
  decide +kernel

/-- Until bar 210 closes the two markets are the same; whether the rise goes on after bar 212 decides what is
done after bar 210. -/
theorem looks_ahead :
    AgreeUntil 210 (market 240 58) (market 212 58)
      ∧ (market 240 58).decision shortPeriods exactSqrt true "BTC/USDT" 210 (.init "BTC/USDT" 10000)
        = some "TREND"
      ∧ (market 212 58).decision shortPeriods exactSqrt true "BTC/USDT" 210 (.init "BTC/USDT" 10000)
        = none := by
  refine ⟨agree_of_closed (by decide) (by decide) (by decide +kernel) (by decide +kernel), ?_⟩
  decide +kernel

/-! ## What later bars change -/

/-- **With the next open and the hours the decision is settled**, whatever else comes later, and whatever the
frame of four hours is. -/
theorem same_decision (cfg : AegisConfig) (sqrt : ℚ → ℚ) (btcBullish : Bool) (symbol : String) {i : ℕ}
    {x y : Frames} (h : AgreeUntil i x y) (hx : 230 ≤ x.df15m.length) (hy : 230 ≤ y.df15m.length)
    (hnext : x.df15m.take (i + 2) = y.df15m.take (i + 2)) (hhour : x.df1h = y.df1h) (state : RunState) :
    x.decision cfg sqrt btcBullish symbol i state = y.decision cfg sqrt btcBullish symbol i state := by
  have hopen : x.df15m[i + 1]? = y.df15m[i + 1]? := by
    rw [← List.getElem?_take_of_lt (Nat.lt_succ_self (i + 1)), hnext,
      List.getElem?_take_of_lt (Nat.lt_succ_self (i + 1))]
  have haffords : ∀ atr equity, x.Affords cfg i atr equity ↔ y.Affords cfg i atr equity := by
    intro atr equity
    simp only [Affords, hx, hy, hopen]
  refine (same_decision_iff cfg sqrt btcBullish symbol h state).mpr fun _ _ _ equity _ own _ _ => ?_
  refine ⟨fun _ _ => ⟨fun _ => ?_, fun _ _ => ?_⟩, fun hcan hcannot => ?_, fun hcan hcannot => ?_⟩
  · rw [AdxHour, AdxHour, hhour]
  · rw [RsiHour, RsiHour, hhour]
  · exact absurd ((haffords _ _).mp hcan) hcannot
  · exact absurd ((haffords _ _).mpr hcan) hcannot

end Frames

end Aegis.Pro
