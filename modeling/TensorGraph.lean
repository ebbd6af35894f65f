import TensorGraph.Proofs.Clearing
import TensorGraph.Proofs.Connections
import TensorGraph.Proofs.Convolving
import TensorGraph.Proofs.Cycles
import TensorGraph.Proofs.Reshaping
import TensorGraph.Proofs.Streams
import TensorGraph.Proofs.Substitution
import TensorGraph.Proofs.Unrolling
import TensorGraph.Proofs.Validity
import TensorGraph.Proofs.Wishes

