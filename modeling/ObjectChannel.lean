import ObjectChannel.Json.Reader
import ObjectChannel.Log.Report
import ObjectChannel.Main
import ObjectChannel.Proofs.Classification
import ObjectChannel.Proofs.CommandLine.Atomicity
import ObjectChannel.Proofs.ContentType
import ObjectChannel.Proofs.Log.Line
import ObjectChannel.Proofs.Metrics.Account
import ObjectChannel.Proofs.Mirrored.Fleet
import ObjectChannel.Proofs.Mirrored.Strategies
import ObjectChannel.Proofs.Mirrored.Unwritten
import ObjectChannel.Proofs.Reader.Arrival
import ObjectChannel.Proofs.Reader.Loss
import ObjectChannel.Proofs.Reader.ToEnd
import ObjectChannel.Proofs.S3.Encryption
import ObjectChannel.Proofs.S3.Failures
import ObjectChannel.Proofs.S3.Refinement
import ObjectChannel.Proofs.Settings.File
import ObjectChannel.Proofs.Time.RoundTrip
import ObjectChannel.Proofs.Writer.Dangling
import ObjectChannel.Proofs.Writer.Interruption
import ObjectChannel.Proofs.Writer.PartLimit
import ObjectChannel.Proofs.Writer.Representation
import ObjectChannel.S3.Listing
import ObjectChannel.Session
import ObjectChannel.Text.Percent
import ObjectChannel.Proofs.Double.Order
import ObjectChannel.Proofs.Time.Reading
