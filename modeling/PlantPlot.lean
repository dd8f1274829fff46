import PlantPlot.Grammar.Growth
import PlantPlot.Grammar.Balance
import PlantPlot.Session.Basic
import PlantPlot.Decimal.Exact
import PlantPlot.Proofs.Rewriting
import PlantPlot.Proofs.Growth
import PlantPlot.Proofs.Engine
import PlantPlot.Proofs.Closure
import PlantPlot.Proofs.Balance
import PlantPlot.Proofs.ReplayBalance
import PlantPlot.Replay.Script
import PlantPlot.Proofs.ReplayLog
import PlantPlot.Proofs.ReplayFault
import PlantPlot.Proofs.SessionLoad
import PlantPlot.Proofs.SessionInvariant
import PlantPlot.Proofs.ReplayBrackets
import PlantPlot.Proofs.LineFormat
import PlantPlot.Proofs.ProgramText
import PlantPlot.Proofs.TextComposition
import PlantPlot.Proofs.BracketRewriting
import PlantPlot.Proofs.UnknownSymbols
import PlantPlot.Proofs.LineWalk
import PlantPlot.Proofs.CanvasDraw
import PlantPlot.Proofs.ReplayEnd
