import NumericBytes.Main
import NumericBytes.Store.Step
import NumericBytes.NumericView
import NumericBytes.Proofs.Codec.Conversion
import NumericBytes.Proofs.Codec.Acceptance
import NumericBytes.Proofs.Codec.RoundTrip
import NumericBytes.Proofs.Codec.OppositeOrder
import NumericBytes.Proofs.Transfer.Copy
import NumericBytes.Proofs.Foreign.Refinement
import NumericBytes.Proofs.Store.Effect
import NumericBytes.Proofs.Store.Failures
import NumericBytes.Proofs.Codec.Locality
import NumericBytes.Proofs.Transfer.Selection
import NumericBytes.Proofs.Store.Footprint
import NumericBytes.Proofs.Store.Locality
import NumericBytes.Proofs.Store.Performance
import NumericBytes.Proofs.Store.Independence
import NumericBytes.Proofs.Codec.Parity
import NumericBytes.Proofs.Codec.Integral
import NumericBytes.Proofs.Foreign.Integral
import NumericBytes.Proofs.Store.Integral
import NumericBytes.Proofs.Codec.Primitives
import NumericBytes.Proofs.Foreign.Safety
import NumericBytes.Proofs.Store.Safety
import NumericBytes.Proofs.CopyCall.Basic
import NumericBytes.Proofs.CopyCall.LastWrite
import NumericBytes.Proofs.ByteOrder.Places
import NumericBytes.Proofs.NumericType.Numerals
import NumericBytes.Proofs.NumericType.Comparison
import NumericBytes.Proofs.NumericArray.Sameness
import NumericBytes.Proofs.Chunk.Basic
import NumericBytes.Proofs.Codec.Positional
import NumericBytes.Proofs.Transfer.Overflow
import NumericBytes.Proofs.Chunk.Division
import NumericBytes.Proofs.Codec.LeastSize
import NumericBytes.Proofs.Codec.WholeBuffers
import NumericBytes.Proofs.Foreign.Visibility
import NumericBytes.Proofs.Task.FirstFailure
import NumericBytes.Proofs.Task.Attempts
import NumericBytes.Proofs.Task.Grammar
import NumericBytes.Proofs.Task.Benchmarks
import NumericBytes.Proofs.Task.Lines
import NumericBytes.Proofs.Text.Delimited
import NumericBytes.Proofs.Text.Literals
import NumericBytes.Proofs.OutOfBounds.Texts
import NumericBytes.Proofs.NumericArray.Literals
import NumericBytes.Proofs.Transfer.Literals
