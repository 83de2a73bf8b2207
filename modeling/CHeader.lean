import CHeader.Main
import CHeader.Proofs.Stripping
import CHeader.Proofs.Lines
import CHeader.Proofs.Respacing
import CHeader.Proofs.NormalForm
import CHeader.Proofs.Blocks
import CHeader.Proofs.Concatenation
import CHeader.Proofs.Decimal
import CHeader.Proofs.PrintedHeader
import CHeader.Proofs.BlockLines
import CHeader.Proofs.WellFormed
import CHeader.Proofs.JsonReading
import CHeader.Proofs.HeaderJson
import CHeader.Proofs.BlockBraces
import CHeader.Proofs.EnumNames
import CHeader.Proofs.Traversal
import CHeader.Proofs.ResolveFailure
import CHeader.Proofs.ParseFailure
import CHeader.Proofs.HeaderConstants
import CHeader.Proofs.ByteOrder
import CHeader.Proofs.TableRuns
import CHeader.Proofs.HeaderLoading
import CHeader.Proofs.Runs
import CHeader.Proofs.SplitLayers
import CHeader.Proofs.SplitRuns
import CHeader.Proofs.ParseRuns
import CHeader.Proofs.ConfigLayers
import CHeader.Proofs.BlockDivision
import CHeader.Proofs.BlockPattern
import CHeader.Proofs.EnumCounting
import CHeader.Proofs.EnumFaults
import CHeader.Proofs.EnumPatterns
import CHeader.Proofs.WrittenEnum
import CHeader.Proofs.Layout
import CHeader.Proofs.TrailingComments
import CHeader.Proofs.CommentPattern
import CHeader.Proofs.MacroPattern
import CHeader.Proofs.IntLiterals
import CHeader.Proofs.Stability
import CHeader.Proofs.DecidingDeclarations
import CHeader.Proofs.ArrayCounts
import CHeader.Proofs.CounterBounds
import CHeader.Proofs.ConfigLoading
