import VoxelGrid.Batch.Coordinates
import VoxelGrid.Batch.Keys
import VoxelGrid.Catalogue
import VoxelGrid.Key.Column
import VoxelGrid.Main
import VoxelGrid.Proofs.Batch.Decode
import VoxelGrid.Proofs.Batch.Encode
import VoxelGrid.Proofs.Layout.Split
import VoxelGrid.Session
import VoxelGrid.Proofs.Batch.Coordinates
import VoxelGrid.Proofs.Layout.Region
import VoxelGrid.Proofs.Json.Document
import VoxelGrid.Proofs.Text.Utf8
import VoxelGrid.Proofs.Json.Numeral
import VoxelGrid.Proofs.Json.StringLiteral
import VoxelGrid.Proofs.Json.Reader
import VoxelGrid.Proofs.Json.Completeness
import VoxelGrid.Proofs.Text.Newline
import VoxelGrid.Proofs.Json.LineEnds
import VoxelGrid.Proofs.Json.Members
import VoxelGrid.Proofs.Layout.Draft
import VoxelGrid.Proofs.Layout.File
import VoxelGrid.Proofs.Storage.Store
import VoxelGrid.Proofs.Layout.SaveLoad
import VoxelGrid.Proofs.Key.Column
import VoxelGrid.Proofs.Terminal.Integer
import VoxelGrid.Proofs.Terminal.Arguments
import VoxelGrid.Proofs.Terminal.Screen
import VoxelGrid.Proofs.Terminal.Command
import VoxelGrid.Proofs.Terminal.KeyCommands
import VoxelGrid.Proofs.Terminal.LayoutCommands
import VoxelGrid.Proofs.Key.Domain
import VoxelGrid.Proofs.Layout.Sizes
import VoxelGrid.Proofs.Key.Order
import VoxelGrid.Proofs.Key.Capacity
import VoxelGrid.Proofs.Batch.ZigZag
import VoxelGrid.Proofs.Layout.Box
import VoxelGrid.Proofs.Layout.Negative
import VoxelGrid.Proofs.Batch.NegativePower
import VoxelGrid.Proofs.Batch.Estimate
import VoxelGrid.Proofs.Tensor.Plain
import VoxelGrid.Proofs.Batch.Lists
import VoxelGrid.Proofs.Layout.Save
import VoxelGrid.Proofs.Key.TriangularRoot
import VoxelGrid.Proofs.Batch.Offsets
import VoxelGrid.Proofs.Exponent
