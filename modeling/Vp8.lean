import Vp8.Error
import Vp8.Table
import Vp8.Entropy.Reader
import Vp8.Entropy.Writer
import Vp8.Entropy.Coded
import Vp8.Entropy.Tree
import Vp8.Probability.Coefficient
import Vp8.Probability.Vector
import Vp8.Probability.Tables
import Vp8.Image.Pixel
import Vp8.Image.Plane
import Vp8.Image.Memory
import Vp8.Image.Picture
import Vp8.Image.Pool
import Vp8.Frame.Preamble
import Vp8.Frame.Partition
import Vp8.Frame.Segmentation
import Vp8.Frame.FilterAdjustment
import Vp8.Frame.Header
import Vp8.Frame.Reconstruction
import Vp8.Frame.Output
import Vp8.Macroblock.Mode
import Vp8.Macroblock.MotionVector
import Vp8.Macroblock.Split
import Vp8.Macroblock.Reach
import Vp8.Macroblock.Grid
import Vp8.Macroblock.Candidates
import Vp8.Macroblock.Modes
import Vp8.Residual.Block
import Vp8.Residual.Token
import Vp8.Residual.Context
import Vp8.Residual.Dequantization
import Vp8.Residual.Transform
import Vp8.Prediction.Intra
import Vp8.Prediction.Subblock
import Vp8.Prediction.Motion
import Vp8.Prediction.Macroblock
import Vp8.Deblocking.Level
import Vp8.Deblocking.Edge
import Vp8.Deblocking.Picture
import Vp8.Session.Limits
import Vp8.Session.Headers
import Vp8.Session.Stream
import Vp8.Session
import Vp8.Proofs.Entropy.Interval
import Vp8.Proofs.Entropy.Window
import Vp8.Proofs.Entropy.Register
import Vp8.Proofs.Entropy.RoundTrip
import Vp8.Proofs.Entropy.Extension
import Vp8.Proofs.Frame.Extension
import Vp8.Proofs.Frame.Progress
import Vp8.Proofs.Session.Persistence
import Vp8.Proofs.Session.Truncation
import Vp8.Proofs.Deblocking.Agreement
import Vp8.Proofs.Frame.Header
import Vp8.Proofs.Frame.Independence
import Vp8.Proofs.Image.Pool
import Vp8.Proofs.Session.Equivalence
import Vp8.Proofs.Session.Resynchronisation
import Vp8.Proofs.Image.References
import Vp8.Proofs.Frame.Completion
import Vp8.Proofs.Session.Completion
import Vp8.Proofs.Frame.Marks
import Vp8.Proofs.Session.Rejection
import Vp8.Proofs.Image.Ledger
import Vp8.Proofs.Session.Damage
import Vp8.Proofs.Entropy.Tree
import Vp8.Proofs.Session.Checked
import Vp8.Proofs.Session.Safety
import Vp8.Proofs.Prediction.Border
import Vp8.Proofs.Session.Awaiting
import Vp8.Proofs.Session.Requirement
import Vp8.Proofs.Session.Taint
import Vp8.Proofs.Session.Dimensions
import Vp8.Proofs.Session.FirstPartition
import Vp8.Proofs.Macroblock.Segments
import Vp8.Proofs.Session.SegmentMap
import Vp8.Proofs.Image.Continuation
import Vp8.Proofs.Prediction.Copy
import Vp8.Proofs.Frame.Copy
import Vp8.Proofs.Session.ZeroMotion
import Vp8.Proofs.Entropy.Exact
import Vp8.Proofs.Image.Border
import Vp8.Proofs.Prediction.Interpolation
import Vp8.Proofs.Session.Border
import Vp8.Proofs.Prediction.Footprint
import Vp8.Proofs.Prediction.Neighbourhood
import Vp8.Proofs.Frame.Neighbourhood
import Vp8.Proofs.Prediction.Split
import Vp8.Proofs.Macroblock.Ranking
import Vp8.Proofs.Macroblock.Framed
import Vp8.Proofs.Macroblock.WellFormed
import Vp8.Proofs.Macroblock.KeyframePlan
import Vp8.Proofs.Macroblock.VectorCode
import Vp8.Proofs.Macroblock.MotionPlan
import Vp8.Proofs.Macroblock.InterPlan
import Vp8.Proofs.Residual.RoundTrip
import Vp8.Proofs.Lattice
import Vp8.Proofs.Residual.Visits
import Vp8.Proofs.Residual.Neighbours
import Vp8.Proofs.Frame.Skip
import Vp8.Proofs.Frame.Tiling
import Vp8.Proofs.Residual.Magnitude
import Vp8.Proofs.Residual.Lines
import Vp8.Proofs.Residual.Arithmetic
import Vp8.Proofs.Residual.Words
import Vp8.Proofs.Deblocking.Footprint
import Vp8.Proofs.Entropy.TreeCode
import Vp8.Proofs.Entropy.Overrun
import Vp8.Proofs.Macroblock.Reach
import Vp8.Proofs.Prediction.Transposition
import Vp8.Proofs.Deblocking.Independence
