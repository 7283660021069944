import StreamLinks.Main
import StreamLinks.Proofs.Challenge.Attempts
import StreamLinks.Proofs.Challenge.Reply
import StreamLinks.Proofs.CommandLine.Layers
import StreamLinks.Proofs.CommandLine.Output
import StreamLinks.Proofs.Decoder.Native
import StreamLinks.Proofs.Engine.Probing
import StreamLinks.Proofs.Engine.Sources
import StreamLinks.Proofs.Engine.Template
import StreamLinks.Proofs.Http.Acceptance
import StreamLinks.Proofs.Http.Retries
import StreamLinks.Proofs.Player.Spellings
import StreamLinks.Proofs.Player.VideoId
import StreamLinks.Proofs.Script.Arrays
import StreamLinks.Proofs.Script.Assembly
import StreamLinks.Proofs.Script.Declarations
import StreamLinks.Proofs.Script.FirstReference
import StreamLinks.Proofs.Script.Markers
import StreamLinks.Proofs.Script.Nearest
import StreamLinks.Proofs.Script.NormalForm
import StreamLinks.Proofs.Script.Operands
import StreamLinks.Proofs.Stream.Absorption
import StreamLinks.Proofs.Stream.Batch
import StreamLinks.Proofs.Stream.Budget
import StreamLinks.Proofs.Stream.CipherQuery
import StreamLinks.Proofs.Stream.Clients
import StreamLinks.Proofs.Stream.Document
import StreamLinks.Proofs.Stream.Emptied
import StreamLinks.Proofs.Stream.Merging
import StreamLinks.Proofs.Stream.Order
import StreamLinks.Proofs.Stream.Recovered
import StreamLinks.Proofs.Stream.Rejection
import StreamLinks.Proofs.Stream.Replacement
import StreamLinks.Proofs.Stream.SampleRate
import StreamLinks.Proofs.Stream.Views
import StreamLinks.Proofs.Transform.Grammar
import StreamLinks.Proofs.Transform.Objects
import StreamLinks.Proofs.Transform.Positions
import StreamLinks.Proofs.Transform.Slices
