import BlockFolding.Main
import BlockFolding.Proofs.DefaultPatterns
import BlockFolding.Proofs.Utf16Columns
import BlockFolding.Proofs.PlanAnchors
import BlockFolding.Proofs.RunFailure
import BlockFolding.Proofs.RegionMarks
import BlockFolding.Proofs.ListingDecoder
import BlockFolding.Proofs.IncrementalScan
import BlockFolding.Proofs.CarriageReturns
import BlockFolding.Proofs.JsonInjective
import BlockFolding.Proofs.PlanOutputs
import BlockFolding.Proofs.RunLog
import BlockFolding.Proofs.ThresholdFilter
import BlockFolding.Proofs.InsertedLines
import BlockFolding.Proofs.VisibleOutput
import BlockFolding.Proofs.SignedNumerals
import BlockFolding.Proofs.WrittenArguments
import BlockFolding.Proofs.BoundaryLines
import BlockFolding.Proofs.AnyRanges
import BlockFolding.Proofs.ReportEntries
import BlockFolding.Proofs.ShownSource
import BlockFolding.Proofs.OverlappingRegions
import BlockFolding.Proofs.EnvironmentLayers
import BlockFolding.Proofs.StepOverflow
