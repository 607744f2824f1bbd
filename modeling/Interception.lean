import Interception.Args.Operation
import Interception.Chain
import Interception.Configuration.Load
import Interception.Observable
import Interception.Registry
import Interception.Script.Session
import Interception.Proofs.Hierarchy
import Interception.Proofs.FirstFailure
import Interception.Proofs.Resolution
import Interception.Proofs.Activity
import Interception.Proofs.Stack
import Interception.Proofs.ChainRun
import Interception.Proofs.Exposure
import Interception.Proofs.Dispatch
import Interception.Proofs.Onion
import Interception.Proofs.Tracing
import Interception.Proofs.UniqueNames
import Interception.Proofs.Narrowing
import Interception.Proofs.PassThrough
import Interception.Proofs.Accounting
import Interception.Proofs.FailFast
import Interception.Proofs.Declared
import Interception.Proofs.Machine
import Interception.Proofs.Descent
import Interception.Proofs.Assembly
import Interception.Proofs.Building
import Interception.Proofs.Instances
import Interception.Proofs.Eagerness
import Interception.Proofs.Commuting
import Interception.Proofs.Behaviour
import Interception.Proofs.Interference
import Interception.Proofs.Origins
import Interception.Proofs.SingleFile
import Interception.Proofs.PlainMaps
import Interception.Proofs.Precedence
import Interception.Proofs.Preorder
import Interception.Proofs.Description
import Interception.Proofs.Rewrapping
import Interception.Proofs.Filing
import Interception.Proofs.WrittenPlugins
import Interception.Proofs.MethodSearch
import Interception.Proofs.Conservation
