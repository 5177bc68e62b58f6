import Livetich.Assessment.Remediation
import Livetich.Assessment.Submit
import Livetich.Assignments.Grading
import Livetich.Assignments.Rosters
import Livetich.Assignments.Uploads
import Livetich.Auth.Cache
import Livetich.Auth.Credentials
import Livetich.Auth.Disabling
import Livetich.Auth.Doors
import Livetich.Auth.Invites
import Livetich.Auth.Joining
import Livetich.Auth.Model
import Livetich.Auth.Policy
import Livetich.Auth.QuickAccess
import Livetich.Auth.Recovery
import Livetich.Auth.Silence
import Livetich.Board.Assets
import Livetich.Board.Doc
import Livetich.Board.Durability
import Livetich.Board.Quota
import Livetich.Board.References
import Livetich.Board.Retention
import Livetich.Board.Sweep
import Livetich.Code.Doc
import Livetich.Code.DocService
import Livetich.Code.Durability
import Livetich.Code.Focus
import Livetich.Code.Gateway
import Livetich.Code.Paths
import Livetich.Code.Pointers
import Livetich.Code.References
import Livetich.Code.Seed
import Livetich.Code.Served
import Livetich.Coding.Archive
import Livetich.Coding.ArchiveIndex
import Livetich.Coding.Attempts
import Livetich.Coding.Model
import Livetich.Coding.Prompt
import Livetich.Coding.Review
import Livetich.Coding.ReviewInput
import Livetich.Coding.Ruling
import Livetich.Coding.Upload
import Livetich.Coding.Visibility
import Livetich.Coding.Withheld
import Livetich.Courses.Batch
import Livetich.Courses.Create
import Livetich.Courses.Delete
import Livetich.Courses.Evicted
import Livetich.Courses.Model
import Livetich.Courses.Schema
import Livetich.Courses.Snapshot
import Livetich.Courses.Unenroll
import Livetich.Courses.Update
import Livetich.Exams.Aloc
import Livetich.Exams.Frozen
import Livetich.Exams.Model
import Livetich.Exams.Score
import Livetich.Exams.Secrecy
import Livetich.Exams.Sitting
import Livetich.Hifz.Progress
import Livetich.Js.Json
import Livetich.Js.Number
import Livetich.Js.Text
import Livetich.Js.Units
import Livetich.Js.Uri
import Livetich.Lib.Announce
import Livetich.Lib.Budget
import Livetich.Lib.Calls
import Livetich.Lib.Canonical
import Livetich.Lib.Checked
import Livetich.Lib.Civil
import Livetich.Lib.Cursor
import Livetich.Lib.Digits
import Livetich.Lib.Erasure
import Livetich.Lib.Filled
import Livetich.Lib.Grouped
import Livetich.Lib.Ical
import Livetich.Lib.Intervals
import Livetich.Lib.Ledger
import Livetich.Lib.Occurs
import Livetich.Lib.Offset
import Livetich.Lib.Ownership
import Livetich.Lib.Passes
import Livetich.Lib.Purge
import Livetich.Lib.Registry
import Livetich.Lib.Relational
import Livetich.Lib.Replica
import Livetich.Lib.RoundRegister
import Livetich.Lib.Spaced
import Livetich.Lib.Table
import Livetich.Lib.Tally
import Livetich.Lib.ThreeWay
import Livetich.Lib.TieBreak
import Livetich.Lib.TransSys
import Livetich.Lib.Utf8
import Livetich.Lib.Watermarks
import Livetich.Lib.Window
import Livetich.Lib.WriteBack
import Livetich.Model
import Livetich.Performance.Records
import Livetich.Performance.Stats
import Livetich.Points.Leaderboard
import Livetich.Points.Ledger
import Livetich.Points.Projection
import Livetich.Points.Service
import Livetich.Quiz.Course
import Livetich.Quran.Surahs
import Livetich.Recordings.Ended
import Livetich.Recordings.Finished
import Livetich.Recordings.Invariants
import Livetich.Recordings.Model
import Livetich.Recordings.Report
import Livetich.Recordings.Retention
import Livetich.Recordings.Single
import Livetich.Recordings.Starvation
import Livetich.Recordings.Steps
import Livetich.Recordings.Tick
import Livetich.Room.Announced
import Livetich.Room.Attempts
import Livetich.Room.Buzzer
import Livetich.Room.BuzzerWinner
import Livetich.Room.Hands
import Livetich.Room.Membership
import Livetich.Room.Mushaf
import Livetich.Room.Presence
import Livetich.Room.Staff
import Livetich.Room.TeachMode
import Livetich.Schedule.Calendar
import Livetich.Schedule.Ics
import Livetich.Schedule.NextClass
import Livetich.Schedule.Occurrences
import Livetich.Schedule.Overrides
import Livetich.Schedule.Reminders
import Livetich.Schedule.Run
import Livetich.Schedule.WallClock
import Livetich.Sessions.JoinButton
import Livetich.Sessions.Live
import Livetich.Sessions.Model
import Livetich.Sessions.OneLive
import Livetich.Sockets.Converge
import Livetich.Sockets.Documents
import Livetich.Sockets.Join
import Livetich.Sockets.Mirror
import Livetich.Sockets.Model
import Livetich.Sockets.Parties
import Livetich.Sockets.Recorder
import Livetich.Sockets.References
import Livetich.Sockets.Viewers
import Livetich.Tajweed.Clean
import Livetich.Tajweed.Frame
import Livetich.Tajweed.History
import Livetich.Tajweed.Live
import Livetich.Tajweed.Marks
import Livetich.Tajweed.Model
import Livetich.Tajweed.Parts
import Livetich.Tajweed.Privacy
import Livetich.Terminal.Backlog
import Livetich.Terminal.Gateway
import Livetich.Terminal.Hosts
import Livetich.Terminal.Mirror
import Livetich.Tunnel.Bridges
import Livetich.Tunnel.Cookies
import Livetich.Tunnel.Forward
import Livetich.Tunnel.Gateway
import Livetich.Tunnel.Hosts
import Livetich.Tunnel.Listing
import Livetich.Tunnel.Preview
import Livetich.Tunnel.Responses
import Livetich.Workspace.CommitRef
import Livetich.Workspace.CommitView
import Livetich.Workspace.Connections
import Livetich.Workspace.CourseUpdate
import Livetich.Workspace.Model
import Livetich.Workspace.Names
import Livetich.Workspace.Namespaces
import Livetich.Workspace.OneRepo
import Livetich.Workspace.OwnFiles
import Livetich.Workspace.PathGuards
import Livetich.Workspace.Provision
import Livetich.Workspace.Repeat
import Livetich.Workspace.ReviewBudget
import Livetich.Workspace.ReviewSource
import Livetich.Workspace.SafeMerge
import Livetich.Workspace.Tokens
import Livetich.Workspace.UpdateReport
