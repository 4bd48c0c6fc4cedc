import Switchboard.Account
import Switchboard.Audience
import Switchboard.Binary64
import Switchboard.Channel
import Switchboard.Channel.Requirements
import Switchboard.ChatLog
import Switchboard.Clock
import Switchboard.Config
import Switchboard.Config.Problem
import Switchboard.Config.Reader
import Switchboard.Context
import Switchboard.Delivery
import Switchboard.Directory
import Switchboard.Emoji
import Switchboard.Emoji.Activity
import Switchboard.Emoji.Body
import Switchboard.Emoji.Face
import Switchboard.Emoji.Flag
import Switchboard.Emoji.Food
import Switchboard.Emoji.Nature
import Switchboard.Emoji.Object
import Switchboard.Emoji.People
import Switchboard.Emoji.Place
import Switchboard.Emoji.Sky
import Switchboard.Emoji.Symbol
import Switchboard.Event
import Switchboard.Event.Reader
import Switchboard.Feature
import Switchboard.Filter
import Switchboard.Filter.Chain
import Switchboard.Filter.History
import Switchboard.Filter.Memory
import Switchboard.Filter.Shortcode
import Switchboard.Filters
import Switchboard.Format
import Switchboard.Hocon
import Switchboard.Hocon.Piece
import Switchboard.Hocon.Reader
import Switchboard.Hocon.Tree
import Switchboard.Hocon.Value
import Switchboard.IdMap
import Switchboard.Json
import Switchboard.Json.Reader
import Switchboard.Json.Token
import Switchboard.Json.Writer
import Switchboard.Main
import Switchboard.Message
import Switchboard.Message.Links
import Switchboard.Numeral
import Switchboard.Outbox
import Switchboard.Permission
import Switchboard.Proofs.Accounting
import Switchboard.Proofs.Activation
import Switchboard.Proofs.Blocking
import Switchboard.Proofs.Broadcast
import Switchboard.Proofs.BuiltIn
import Switchboard.Proofs.Calls
import Switchboard.Proofs.ChainHistory
import Switchboard.Proofs.Conveyance
import Switchboard.Proofs.Coupling
import Switchboard.Proofs.Course
import Switchboard.Proofs.CustomShortcodes
import Switchboard.Proofs.Cutting
import Switchboard.Proofs.DeliveryStream
import Switchboard.Proofs.DirectMessage
import Switchboard.Proofs.Dispatching
import Switchboard.Proofs.EventLines
import Switchboard.Proofs.FanOut
import Switchboard.Proofs.Folding
import Switchboard.Proofs.Framing
import Switchboard.Proofs.Frequency
import Switchboard.Proofs.Gate
import Switchboard.Proofs.Guests
import Switchboard.Proofs.Handling
import Switchboard.Proofs.Hearing
import Switchboard.Proofs.Ignoring
import Switchboard.Proofs.Isolation
import Switchboard.Proofs.Joining
import Switchboard.Proofs.Links
import Switchboard.Proofs.LocalChat
import Switchboard.Proofs.LogFile
import Switchboard.Proofs.Logging
import Switchboard.Proofs.Merging
import Switchboard.Proofs.Muting
import Switchboard.Proofs.Naming
import Switchboard.Proofs.Overlaps
import Switchboard.Proofs.OwnEvents
import Switchboard.Proofs.OwnHistories
import Switchboard.Proofs.Pacing
import Switchboard.Proofs.Parsing
import Switchboard.Proofs.Placeholders
import Switchboard.Proofs.PlainText
import Switchboard.Proofs.Presence
import Switchboard.Proofs.Processing
import Switchboard.Proofs.Recipients
import Switchboard.Proofs.Recollection
import Switchboard.Proofs.Registration
import Switchboard.Proofs.Rejection
import Switchboard.Proofs.Relaying
import Switchboard.Proofs.Repetition
import Switchboard.Proofs.Requirements
import Switchboard.Proofs.Rereading
import Switchboard.Proofs.Runs
import Switchboard.Proofs.Scanning
import Switchboard.Proofs.Sharing
import Switchboard.Proofs.Shortcodes
import Switchboard.Proofs.Speech
import Switchboard.Proofs.Spelling
import Switchboard.Proofs.Staleness
import Switchboard.Proofs.Standing
import Switchboard.Proofs.Traces
import Switchboard.Proofs.Uniformity
import Switchboard.Proofs.Validation
import Switchboard.Proofs.Verdict
import Switchboard.Proofs.Writing
import Switchboard.Regex
import Switchboard.Regex.Automaton
import Switchboard.Regex.ClassReader
import Switchboard.Regex.Code
import Switchboard.Regex.Footprint
import Switchboard.Regex.Machine
import Switchboard.Regex.Pattern
import Switchboard.Regex.Posix
import Switchboard.Regex.Reader
import Switchboard.Registry
import Switchboard.Session
import Switchboard.Session.Dispatch
import Switchboard.Session.Events
import Switchboard.Setting
import Switchboard.Size
import Switchboard.Template
import Switchboard.Text.Blank
import Switchboard.Text.Pieces
import Switchboard.Unicode.Age
import Switchboard.Unicode.CaseOrbit
import Switchboard.Unicode.Category
import Switchboard.Unicode.CharSet
import Switchboard.Unicode.Name
import Switchboard.Unicode.Property
import Switchboard.Unicode.Property.Case
import Switchboard.Unicode.Property.Display
import Switchboard.Unicode.Property.Emoji
import Switchboard.Unicode.Property.Grapheme
import Switchboard.Unicode.Property.Identifier
import Switchboard.Unicode.Property.Ideograph
import Switchboard.Unicode.Property.Segment
import Switchboard.Unicode.Property.Sign
import Switchboard.Unicode.Script
import Switchboard.Unicode.Script.Extension
import Switchboard.Unicode.Utf8
