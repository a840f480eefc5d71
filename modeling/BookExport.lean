import BookExport.Binary64
import BookExport.Binary64.Shortest
import BookExport.Broadcaster
import BookExport.CancelToken
import BookExport.Config
import BookExport.Decimal
import BookExport.Error
import BookExport.Exporter.Arguments
import BookExport.Exporter.Message
import BookExport.Exporter.Session
import BookExport.Exporter.Transcript
import BookExport.Files
import BookExport.Format
import BookExport.Http.Error
import BookExport.Http.EventStream
import BookExport.Http.MediaType
import BookExport.Http.Router
import BookExport.Job
import BookExport.Job.Codec
import BookExport.Json.Basic
import BookExport.Json.Decoder
import BookExport.Json.Document
import BookExport.Json.Printer
import BookExport.Json.Token
import BookExport.Mailbox
import BookExport.Mirror
import BookExport.Mirror.Address
import BookExport.Mirror.Host
import BookExport.Mirror.Path
import BookExport.Moment
import BookExport.Outcome
import BookExport.Proofs.BroadcasterMemory
import BookExport.Proofs.QueuePositions
import BookExport.Queue
import BookExport.Queue.Watch
import BookExport.Rehearsal
import BookExport.Rehearsal.Crew
import BookExport.Rehearsal.Script
import BookExport.Request
import BookExport.Request.Codec
import BookExport.Retry
import BookExport.Retry.Timetable
import BookExport.Service
import BookExport.Service.Cancelling
import BookExport.Service.Loop
import BookExport.Service.Move
import BookExport.Snapshot
import BookExport.Snapshot.Codec
import BookExport.Status
import BookExport.Telemetry
import BookExport.Text.Blank
import BookExport.Text.Digits
import BookExport.Text.Form
import BookExport.Text.Number
import BookExport.Text.Quoted
import BookExport.Text.Utf8
import BookExport.Timestamp
import BookExport.Timestamp.Text
import BookExport.Trace
import BookExport.Tracker
import BookExport.Transport
import BookExport.Turn
import BookExport.Worker
import BookExport.Proofs.JobStories
import BookExport.Proofs.ServiceDeeds
import BookExport.Proofs.PositionAgreement
import BookExport.Proofs.JobCourse
import BookExport.Proofs.JobLifecycle
import BookExport.Proofs.QueueHistory
import BookExport.Proofs.SequentialReports
import BookExport.Proofs.FlightSteps
import BookExport.Proofs.ActivePlace
import BookExport.Proofs.FlightOrder
import BookExport.Proofs.LatestSnapshots
import BookExport.Proofs.SerialExecution
import BookExport.Proofs.TrackedHeadline
import BookExport.Broadcaster.Traffic
import BookExport.Proofs.MailboxTurns
import BookExport.Proofs.ExactDelivery
import BookExport.Proofs.StreamConvergence
import BookExport.Proofs.FinishedJobs
import BookExport.Proofs.ForgettingOrder
import BookExport.Proofs.PollAfterPublish
import BookExport.Proofs.CallAnnouncements
import BookExport.Proofs.EndsAreRead
import BookExport.Proofs.EndsAreTold
import BookExport.Proofs.RetryCancellation
import BookExport.Proofs.RetryOutcome
import BookExport.Proofs.CancelFeedback
import BookExport.Proofs.ExporterOutcome
import BookExport.Proofs.QueueMoves
import BookExport.Proofs.QueueViews
import BookExport.Service.Exporting
import BookExport.Proofs.CancelledExports
import BookExport.Json.Shape
import BookExport.Proofs.WrittenJson
import BookExport.Proofs.KeptValues
import BookExport.Proofs.CalendarDays
import BookExport.Proofs.WrittenTimes
import BookExport.Proofs.RecordFields
import BookExport.Proofs.WrittenValues
import BookExport.Proofs.WireRoundTrips
import BookExport.Proofs.LoneFlights
import BookExport.Proofs.UntimedStories
import BookExport.Proofs.Wakeups
import BookExport.Proofs.SnapshotForms
import BookExport.Proofs.FailedRequests
import BookExport.Proofs.ServiceBooks
import BookExport.Proofs.ServedJobs
import BookExport.Proofs.WorkerRounds
import BookExport.Proofs.JobIsolation
import BookExport.Proofs.WindingDown
import BookExport.Proofs.HandedTokens
import BookExport.Proofs.ExactCancels
import BookExport.Proofs.AcceptedEvents
import BookExport.Proofs.HandOvers
import BookExport.Proofs.HeadlineJob
import BookExport.Broadcaster.Feed
import BookExport.Http.Viewer
import BookExport.Mirror.Course
import BookExport.Service.Audience
import BookExport.Proofs.ThrottleRecords
import BookExport.Proofs.SpacedWrites
import BookExport.Proofs.MirroredStatus
import BookExport.Proofs.AttentiveReaders
import BookExport.Proofs.SelectiveClosing
import BookExport.Proofs.StreamedEvents
import BookExport.Proofs.TrimmedTexts
import BookExport.Proofs.FormatLists
import BookExport.Proofs.AdmissibleRequests
import BookExport.Proofs.RestatedRequests
import BookExport.Proofs.ScatteredFields
import BookExport.Proofs.TaggedMessages
import BookExport.Queue.Circulation
import BookExport.Service.Handback
import BookExport.Proofs.TokenTree
import BookExport.Proofs.CommutingCancels
import BookExport.Proofs.BareServices
import BookExport.Proofs.UnseenSettings
import BookExport.Proofs.TelemetrySpans
import BookExport.Broadcaster.Trimming
import BookExport.Exporter.CommandLine
import BookExport.Proofs.BoundedNumbers
import BookExport.Proofs.CommandLines
import BookExport.Proofs.LoadedSettings
import BookExport.Proofs.RetryBudget
import BookExport.Proofs.TrimmingRounds
