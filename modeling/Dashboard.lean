import Dashboard.Backend
import Dashboard.Button
import Dashboard.Cache
import Dashboard.Definition
import Dashboard.History
import Dashboard.Locator
import Dashboard.Panel
import Dashboard.Screen
import Dashboard.Undo
import Dashboard.Waiting
import Dashboard.Scan.Service
import Dashboard.Session.Summary
import Dashboard.Api.Handler
import Dashboard.Config.Settings
import Dashboard.Proofs.CacheKeys
import Dashboard.Proofs.CommandFrame
import Dashboard.Proofs.Deliveries
import Dashboard.Proofs.Drain
import Dashboard.Proofs.FailedLoads
import Dashboard.Proofs.FinishHistory
import Dashboard.Proofs.KeyStrokes
import Dashboard.Proofs.LoadGroups
import Dashboard.Proofs.LoadOrder
import Dashboard.Proofs.Posts
import Dashboard.Proofs.Presses
import Dashboard.Proofs.ScanActions
import Dashboard.Proofs.ScreenContent
import Dashboard.Proofs.SlotsSound
import Dashboard.Proofs.UndoBound
import Dashboard.Proofs.UndoOffer
import Dashboard.Proofs.WaitingOrder
import Dashboard.Proofs.JsonTexts
import Dashboard.Proofs.Definitions
import Dashboard.Proofs.Executions
import Dashboard.Proofs.Parameters
import Dashboard.Proofs.Payloads
import Dashboard.Proofs.PrintableKeys
