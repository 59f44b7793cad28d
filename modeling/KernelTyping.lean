import KernelTyping.Config.Reader
import KernelTyping.Cuda.Surface
import KernelTyping.Proofs.Allocation
import KernelTyping.Proofs.AtomicUpdates
import KernelTyping.Proofs.Attempts
import KernelTyping.Proofs.CallMixes
import KernelTyping.Proofs.CallTrail
import KernelTyping.Proofs.Coercion
import KernelTyping.Proofs.ConfigLanguage
import KernelTyping.Proofs.Dependence
import KernelTyping.Proofs.DottedPaths
import KernelTyping.Proofs.EventLog
import KernelTyping.Proofs.FirstTaken
import KernelTyping.Proofs.GridQueries
import KernelTyping.Proofs.JsonNumerals
import KernelTyping.Proofs.JsonStrings
import KernelTyping.Proofs.Overloads
import KernelTyping.Proofs.RegistrationOrder
import KernelTyping.Proofs.RepeatedMembers
import KernelTyping.Proofs.RequiredCalls
import KernelTyping.Proofs.Selection
import KernelTyping.Proofs.StaticShapes
import KernelTyping.Proofs.Suggestion
import KernelTyping.Proofs.TraceText
import KernelTyping.Proofs.Transcript
import KernelTyping.Proofs.UniqueText
import KernelTyping.Proofs.WidthTexts
import KernelTyping.Report
import KernelTyping.Session
import KernelTyping.Workload
