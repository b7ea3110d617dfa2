import BytePacking.Host.Primitive
import BytePacking.Pack
import BytePacking.Proofs.FirstFault
import BytePacking.Proofs.Host.Refinement
import BytePacking.Proofs.Host.RoundTrip
import BytePacking.Proofs.RoundTrip
import BytePacking.Proofs.Tensor.RoundTrip
import BytePacking.Proofs.Traps
import BytePacking.Proofs.WriteHistory
import BytePacking.Tensor.Unpack
import BytePacking.Unpack
import BytePacking.View.Pack
import BytePacking.View.Transform
import BytePacking.Proofs.PackingPaths
import BytePacking.Proofs.UnpackingPaths
import BytePacking.Proofs.Host.FirstFault
import BytePacking.Proofs.Tensor.Acceptance
import BytePacking.Proofs.Contents
import BytePacking.Proofs.Tensor.RowMajor
import BytePacking.Proofs.View.Source
import BytePacking.Proofs.View.LogicalOrder
import BytePacking.Proofs.FreshArrays
import BytePacking.Proofs.Parts
import BytePacking.Proofs.Host.ReportedNumbers
import BytePacking.Proofs.Host.NewArrays
import BytePacking.Proofs.Locality
import BytePacking.Proofs.Widths
import BytePacking.Proofs.Host.Log
import BytePacking.Proofs.View.FirstAxis
import BytePacking.Proofs.ElementBlock
import BytePacking.Proofs.Host.Messages
import BytePacking.Proofs.ArrayLibrary
