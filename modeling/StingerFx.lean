import StingerFx.Lib.Announcements
import StingerFx.Lib.Attempts
import StingerFx.Lib.Dict
import StingerFx.Lib.Domination
import StingerFx.Lib.Drawdown
import StingerFx.Lib.FlatJson
import StingerFx.Lib.ForwardFill
import StingerFx.Lib.Groups
import StingerFx.Lib.Interpolation
import StingerFx.Lib.KeepLast
import StingerFx.Lib.LeastSquares
import StingerFx.Lib.Ledger
import StingerFx.Lib.Mailbox
import StingerFx.Lib.Moments
import StingerFx.Lib.NonInterference
import StingerFx.Lib.PyAst
import StingerFx.Lib.PyEval
import StingerFx.Lib.PyFloat
import StingerFx.Lib.PyResults
import StingerFx.Lib.PySorted
import StingerFx.Lib.PyValue
import StingerFx.Lib.Recurrence
import StingerFx.Lib.RunningMean
import StingerFx.Lib.Runs
import StingerFx.Lib.SlidingWindow
import StingerFx.Lib.StableMerge
import StingerFx.Lib.StableSort
import StingerFx.Lib.Visits
import StingerFx.Lib.Watermark
import StingerFx.Domain
import StingerFx.Config.Backtest
import StingerFx.Config.Models
import StingerFx.Config.Reload
import StingerFx.Config.Watcher
import StingerFx.Core.BusTasks
import StingerFx.Core.EventBus
import StingerFx.Core.Events
import StingerFx.Data.ParquetStore
import StingerFx.Data.Reconciliation
import StingerFx.Data.TradePersister
import StingerFx.Risk.Config
import StingerFx.Risk.Mirror
import StingerFx.Risk.Monitor
import StingerFx.Brokers.BarAggregator
import StingerFx.Brokers.BarBuckets
import StingerFx.Brokers.BrokerPool
import StingerFx.Brokers.Mt5Feed
import StingerFx.Brokers.Mt5Orders
import StingerFx.Brokers.Mt5Ticks
import StingerFx.Brokers.OrderQueue
import StingerFx.Execution.OrderRouter
import StingerFx.Execution.PreTrade
import StingerFx.Execution.RequestHandlers
import StingerFx.Strategies.Aggregation
import StingerFx.Strategies.BucketKeys
import StingerFx.Strategies.Cointegration
import StingerFx.Strategies.Context
import StingerFx.Strategies.ErrorBudget
import StingerFx.Strategies.Examples.D1H4Trend
import StingerFx.Strategies.Examples.LiquiditySweepReversal
import StingerFx.Strategies.Examples.OneTicket
import StingerFx.Strategies.Examples.OneTicketScalpers
import StingerFx.Strategies.Examples.OpeningRangeBreakout
import StingerFx.Strategies.Examples.SessionScalper
import StingerFx.Strategies.Examples.TrendFold
import StingerFx.Strategies.Examples.VwapPullbackContinuation
import StingerFx.Strategies.HistoryView
import StingerFx.Strategies.Indicators.Channels
import StingerFx.Strategies.Indicators.Correlation
import StingerFx.Strategies.Indicators.Incremental
import StingerFx.Strategies.Indicators.Oscillators
import StingerFx.Strategies.Indicators.Psar
import StingerFx.Strategies.Indicators.Smoothing
import StingerFx.Strategies.Indicators.Wilder
import StingerFx.Strategies.Managers.Ladder
import StingerFx.Strategies.Managers.Oco
import StingerFx.Strategies.Managers.Stops
import StingerFx.Strategies.Managers.TimeExit
import StingerFx.Strategies.Runner
import StingerFx.Strategies.StateStore
import StingerFx.Observability.CircuitBreaker
import StingerFx.Observability.Notifications
import StingerFx.Backtest.BrokerMoves
import StingerFx.Backtest.BrokerRisk
import StingerFx.Backtest.FileBacktester
import StingerFx.Backtest.GeneticSearch
import StingerFx.Backtest.MetricDsl
import StingerFx.Backtest.MonteCarlo
import StingerFx.Backtest.Mt5Tester
import StingerFx.Backtest.Pareto
import StingerFx.Backtest.Portfolio
import StingerFx.Backtest.Replay
import StingerFx.Backtest.Reports
import StingerFx.Backtest.SimBroker
import StingerFx.Backtest.Slippage
import StingerFx.Backtest.Sweep
import StingerFx.Backtest.TickMode
import StingerFx.Backtest.TickReplay
import StingerFx.Backtest.WalkForward
import StingerFx.Runtime.AccountDesk
import StingerFx.Runtime.BarFeeds
import StingerFx.Runtime.Bookkeeping
import StingerFx.Runtime.BracketDesk
import StingerFx.Runtime.HotReload
import StingerFx.Runtime.LadderDesk
import StingerFx.Runtime.LiveBacktests
import StingerFx.Runtime.Mt5Desk
import StingerFx.Runtime.OrderFlowBus
import StingerFx.Runtime.PositionTracking
import StingerFx.Runtime.ScalperDesk
import StingerFx.Runtime.Startup
import StingerFx.Runtime.StopDesk
import StingerFx.Runtime.TickFeed
import StingerFx.Runtime.TimeExitDesk
import StingerFx.Runtime.TradingSystem
import StingerFx.Runtime.TrendDesk
import StingerFx.Runtime.WarmUp
import StingerFx.Proofs.AccountIsolation
import StingerFx.Proofs.AccountRouting
import StingerFx.Proofs.BarExits
import StingerFx.Proofs.BarGroups
import StingerFx.Proofs.BarOnce
import StingerFx.Proofs.BarStore
import StingerFx.Proofs.BooksExact
import StingerFx.Proofs.BracketExclusion
import StingerFx.Proofs.BreakerTrips
import StingerFx.Proofs.BusAccounting
import StingerFx.Proofs.BusDelivery
import StingerFx.Proofs.CashConservation
import StingerFx.Proofs.ChandelierStops
import StingerFx.Proofs.ChannelMessages
import StingerFx.Proofs.ChannelProgress
import StingerFx.Proofs.ConfigNotifications
import StingerFx.Proofs.Correlations
import StingerFx.Proofs.CustomMetrics
import StingerFx.Proofs.DailyLossGate
import StingerFx.Proofs.DailyLossRestart
import StingerFx.Proofs.EquitySamples
import StingerFx.Proofs.ErrorBudgets
import StingerFx.Proofs.EventDelivery
import StingerFx.Proofs.ExposureCap
import StingerFx.Proofs.FalseAlarms
import StingerFx.Proofs.FirstBars
import StingerFx.Proofs.FoldWindows
import StingerFx.Proofs.GapFill
import StingerFx.Proofs.GeneticEvolution
import StingerFx.Proofs.H1Groups
import StingerFx.Proofs.HedgeRatio
import StingerFx.Proofs.HistoryViews
import StingerFx.Proofs.KillSwitchRestart
import StingerFx.Proofs.LadderBounds
import StingerFx.Proofs.Lookahead
import StingerFx.Proofs.LostTickets
import StingerFx.Proofs.MetricChecks
import StingerFx.Proofs.MetricContainment
import StingerFx.Proofs.MetricMeaning
import StingerFx.Proofs.ModifyFrame
import StingerFx.Proofs.MonteCarloBands
import StingerFx.Proofs.Mt5Events
import StingerFx.Proofs.OcoBooks
import StingerFx.Proofs.OpeningRanges
import StingerFx.Proofs.OrderFates
import StingerFx.Proofs.OrderFlow
import StingerFx.Proofs.OrderFlowSums
import StingerFx.Proofs.OscillatorRanges
import StingerFx.Proofs.Outbox
import StingerFx.Proofs.Outcomes
import StingerFx.Proofs.OwnershipIsolation
import StingerFx.Proofs.ParetoFrontier
import StingerFx.Proofs.PartialCloses
import StingerFx.Proofs.PendingTriggers
import StingerFx.Proofs.PortfolioCurve
import StingerFx.Proofs.PortfolioTotals
import StingerFx.Proofs.PositionCaps
import StingerFx.Proofs.PositionView
import StingerFx.Proofs.ReloadConvergence
import StingerFx.Proofs.SarSide
import StingerFx.Proofs.SessionCaps
import StingerFx.Proofs.StateStores
import StingerFx.Proofs.StopRatchet
import StingerFx.Proofs.StopRisk
import StingerFx.Proofs.StreamingIndicators
import StingerFx.Proofs.SwapNights
import StingerFx.Proofs.SweepRanking
import StingerFx.Proofs.SwitchHistory
import StingerFx.Proofs.TesterLink
import StingerFx.Proofs.TickReappend
import StingerFx.Proofs.TickReplayChunks
import StingerFx.Proofs.TickStream
import StingerFx.Proofs.TicketLedger
import StingerFx.Proofs.TimeExits
import StingerFx.Proofs.TradingWindows
import StingerFx.Proofs.TrendFolds
import StingerFx.Proofs.TrendHooks
import StingerFx.Proofs.WalkForwardParity
import StingerFx.Proofs.WilderMeans
import StingerFx.Lib.Edges
