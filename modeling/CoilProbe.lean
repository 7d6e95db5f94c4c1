import CoilProbe.Insist
import CoilProbe.Main
import CoilProbe.Program
import CoilProbe.Proofs.Addresses
import CoilProbe.Proofs.Answers
import CoilProbe.Proofs.Attempts
import CoilProbe.Proofs.Conformity
import CoilProbe.Proofs.Connecting
import CoilProbe.Proofs.Directives
import CoilProbe.Proofs.Endings
import CoilProbe.Proofs.Frames
import CoilProbe.Proofs.Glyphs
import CoilProbe.Proofs.Grammar
import CoilProbe.Proofs.Hosts
import CoilProbe.Proofs.Invocations
import CoilProbe.Proofs.Limits
import CoilProbe.Proofs.Lines
import CoilProbe.Proofs.Literals
import CoilProbe.Proofs.Lockstep
import CoilProbe.Proofs.Moves
import CoilProbe.Proofs.Numerals
import CoilProbe.Proofs.Opacity
import CoilProbe.Proofs.Openness
import CoilProbe.Proofs.Printing
import CoilProbe.Proofs.Probes
import CoilProbe.Proofs.Programs
import CoilProbe.Proofs.Quiet
import CoilProbe.Proofs.Reads
import CoilProbe.Proofs.Records
import CoilProbe.Proofs.Refusals
import CoilProbe.Proofs.Regrouping
import CoilProbe.Proofs.Renewals
import CoilProbe.Proofs.Reports
import CoilProbe.Proofs.Runs
import CoilProbe.Proofs.Stepwise
import CoilProbe.Proofs.Streams
import CoilProbe.Proofs.Thresholds
import CoilProbe.Proofs.Timeouts
import CoilProbe.Proofs.Verbosity
import CoilProbe.Proofs.Views
import CoilProbe.Proofs.Waiting
import CoilProbe.Proofs.Wire
