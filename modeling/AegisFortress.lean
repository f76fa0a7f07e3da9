import AegisFortress.Lib.Dict
import AegisFortress.Lib.Run
import AegisFortress.Python.Value
import AegisFortress.Models.Order
import AegisFortress.Portfolio.PositionLedger
import AegisFortress.Lib.CashBook
import AegisFortress.Portfolio.LedgerSteps
import AegisFortress.Portfolio.LedgerAccounting
import AegisFortress.Lib.AverageCost
import AegisFortress.Portfolio.FillSplitting
import AegisFortress.Portfolio.LedgerCalls
import AegisFortress.Portfolio.EntryPriceRange
import AegisFortress.Portfolio.PositionProfit
import AegisFortress.Portfolio.UnrealizedPnl
import AegisFortress.Portfolio.ExposureEngine
import AegisFortress.Risk.PortfolioGuard
import AegisFortress.Risk.PreTradeRisk
import AegisFortress.Risk.Projection
import AegisFortress.Risk.GuardAfterFill
import AegisFortress.Risk.Exits
import AegisFortress.Risk.Reconciliation
import AegisFortress.Lib.Raising
import AegisFortress.Portfolio.Snapshot
import AegisFortress.Portfolio.RestoreFailures
import AegisFortress.Execution.ExchangeResponseNormalizer
import AegisFortress.Execution.FillProcessor
import AegisFortress.Execution.ReportGuarantees
import AegisFortress.Execution.CrashRecovery
import AegisFortress.Execution.Restart
import AegisFortress.Execution.SavedSnapshot
import AegisFortress.Execution.ExecutionPipeline
import AegisFortress.Execution.SubmitOutcome
import AegisFortress.Execution.SubmitGuarantees
import AegisFortress.Execution.OrderRecord
import AegisFortress.Execution.OrderEventCodec
import AegisFortress.Risk.KillSwitch
import AegisFortress.Risk.KillSwitchHistory
import AegisFortress.Lib.EventLoop
import AegisFortress.Lib.Fifo
import AegisFortress.Lib.Joined
import AegisFortress.Lib.TtlCache
import AegisFortress.Runtime.Services
import AegisFortress.Core.DatabaseManager
import AegisFortress.Runtime.DailyLoss
import AegisFortress.Runtime.OrdersStop
import AegisFortress.Runtime.RiskAudit
import AegisFortress.Risk.FirstOrder
import AegisFortress.Execution.StatusChanges
import AegisFortress.Core.EventBus
import AegisFortress.Core.EventBusStop
import AegisFortress.Feeds.BestLevels
import AegisFortress.Feeds.MarkPrices
import AegisFortress.Strategies.AttainableScores
import AegisFortress.Execution.LimitOrders
import AegisFortress.Strategies.SpreadFilter
import AegisFortress.Strategies.ProfitAfterCosts
import AegisFortress.Feeds.MarketDataRoundTrip
import AegisFortress.Feeds.ExchangePollingSource
import AegisFortress.Feeds.MarketDataService
import AegisFortress.Backtesting.SimulatedExchange
import AegisFortress.Backtesting.SimulatedOrders
import AegisFortress.Feeds.MarketDataNormalizer
import AegisFortress.Backtesting.Replay
import AegisFortress.Backtesting.ReplayOrder
import AegisFortress.Backtesting.BacktestRuntime
import AegisFortress.Models.Signal
import AegisFortress.Portfolio.ProfitReports
import AegisFortress.Python.Builtins
import AegisFortress.Strategies.MeanReversionImbalance
import AegisFortress.Runtime.LiveTrading
import AegisFortress.Strategies.SignalSteps
import AegisFortress.Runtime.LiveSteps
import AegisFortress.Lib.InFlight
import AegisFortress.Runtime.ShortPositions
import AegisFortress.Runtime.PositionCap
import AegisFortress.Exchange.ExchangeWrapper
import AegisFortress.Core.RateLimiter
import AegisFortress.Core.CircuitBreaker
import AegisFortress.Lib.ObjectGraph
import AegisFortress.Lib.PathWrites
import AegisFortress.Lib.Causal
import AegisFortress.Strategies.MomentumTrap
import AegisFortress.Runtime.MomentumTrapRuns
import AegisFortress.Configs.YamlConfig
import AegisFortress.Lib.Drawdown
import AegisFortress.Backtesting.PerformanceMetrics
import AegisFortress.Runtime.Orchestrator
import AegisFortress.Runtime.RuntimeSettings
import AegisFortress.Core.SmartOrderRouter
import AegisFortress.Core.BestPrice
import AegisFortress.Risk.EntrySizing
import AegisFortress.Execution.FullExit
import AegisFortress.Lib.WithNan
import AegisFortress.Execution.NotANumber
import AegisFortress.Execution.CheckedSubmissions
import AegisFortress.Strategies.StopLoss
import AegisFortress.Strategies.StrategyRuns
import AegisFortress.Lib.BestFirst
import AegisFortress.Lib.Deadlines
import AegisFortress.Strategies.Throttling
import AegisFortress.Lib.History
import AegisFortress.Strategies.HoldingTime
import AegisFortress.Strategies.Confirmation
import AegisFortress.Portfolio.SymbolDiscovery
import AegisFortress.Lib.Gather
import AegisFortress.Metrics.MetricsRegistry
import AegisFortress.Monitoring.PrometheusExporter
import AegisFortress.Monitoring.FaithfulExport
import AegisFortress.Lib.BookWalk
import AegisFortress.Pro.OrderBookSnapshot
import AegisFortress.Pro.MarketMaker
import AegisFortress.Pro.MakerInventory
import AegisFortress.Pro.AegisConfig
import AegisFortress.Pro.Backtester
import AegisFortress.Pro.RiskManager
import AegisFortress.Pro.AegisPro
import AegisFortress.Pro.ExitLadders
import AegisFortress.Pro.PaperEquity
import AegisFortress.Pro.SavedState
import AegisFortress.Pro.ExecutionEngine
import AegisFortress.Pro.BacktestAccounting
import AegisFortress.Pro.BacktestExits
import AegisFortress.Python.Pandas
import AegisFortress.Pro.FeatureEngine
import AegisFortress.Pro.LookAhead
import AegisFortress.Lib.Weighting
import AegisFortress.Pro.PositionSizing
import AegisFortress.Pro.SignalFusion
import AegisFortress.Lib.FixedWindow
import AegisFortress.Pro.Watchdog
import AegisFortress.Lib.Heartbeats
import AegisFortress.Pro.Supervision
import AegisFortress.Pro.TradingEnv
import AegisFortress.Pro.TimeStop
import AegisFortress.Pro.TradingLoop
import AegisFortress.Lib.Files
import AegisFortress.Pro.StateFiles
import AegisFortress.Pro.RiskRecord
import AegisFortress.Pro.OhlcvCache
import AegisFortress.Lib.Chunks
import AegisFortress.Lib.Batches
import AegisFortress.Pro.TelegramNotifier
import AegisFortress.Pro.OpeningTick
