import Lifeline.About
import Lifeline.Proofs.Detection.Acceptance
import Lifeline.Proofs.Layout.Bounds
import Lifeline.Proofs.Layout.Collapse
import Lifeline.Proofs.Layout.Labels
import Lifeline.Proofs.Layout.Shown
import Lifeline.Proofs.Layout.Views
import Lifeline.Proofs.Reader.Enclosure
import Lifeline.Proofs.Order.Serving
import Lifeline.Proofs.Reader.Reindent
import Lifeline.Proofs.Diagram.Mentions
import Lifeline.Proofs.Reader.Roster
import Lifeline.Proofs.Reader.Membership
import Lifeline.Proofs.Reader.Failure
import Lifeline.Proofs.Reader.NoteBody
import Lifeline.Proofs.Reader.Head
import Lifeline.Proofs.Reader.Names
import Lifeline.Proofs.Reader.Comment
import Lifeline.Proofs.Reader.Enrolment
import Lifeline.Proofs.Timeline.Extension
import Lifeline.Proofs.Timeline.Matching
import Lifeline.Proofs.Text.Columns
import Lifeline.Proofs.Inline.Filling
import Lifeline.Proofs.Inline.Wrapping
import Lifeline.Proofs.Inline.Fitting
import Lifeline.Proofs.Inline.Neighbours
import Lifeline.Proofs.Syntax.Reply
import Lifeline.Proofs.Syntax.Wording
import Lifeline.Proofs.Layout.Descent
import Lifeline.Proofs.Layout.Account
import Lifeline.Proofs.Layout.Activity
import Lifeline.Proofs.Layout.Dividers
import Lifeline.Proofs.Layout.Stacks
import Lifeline.Proofs.Layout.Headers
import Lifeline.Proofs.Layout.Canvas
import Lifeline.Proofs.Order.Targets
import Lifeline.Proofs.Reader.Attributes
import Lifeline.Proofs.Layout.Index
import Lifeline.Proofs.Detection.Choice
import Lifeline.Proofs.Kind.Precedence
import Lifeline.Proofs.Inline.Plain
