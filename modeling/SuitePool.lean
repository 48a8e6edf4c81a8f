import SuitePool.FileTree.Build
import SuitePool.Main
import SuitePool.Proofs.Cases.Groups
import SuitePool.Proofs.Cases.Lifecycle
import SuitePool.Proofs.Cases.Sum
import SuitePool.Proofs.Forked.Aborted
import SuitePool.Proofs.Language.Spoken
import SuitePool.Proofs.Loop.Stream
import SuitePool.Proofs.OutputIsolation
import SuitePool.Proofs.Session
import SuitePool.Proofs.Verdict
import SuitePool.Proofs.Wildcards
import SuitePool.Proofs.Wire.Noise
import SuitePool.Proofs.Wire.Results
import SuitePool.Proofs.ModuleRoots
import SuitePool.Proofs.Cases.Bound
import SuitePool.Proofs.Cases.Replaced
import SuitePool.Proofs.Finding.Below
import SuitePool.Proofs.Finding.Built
import SuitePool.Proofs.Finding.Found
import SuitePool.Proofs.Cases.Collected
import SuitePool.Proofs.Finding.Above
import SuitePool.Proofs.Cases.Inspected
import SuitePool.Proofs.TestIds
import SuitePool.Proofs.Wildcards.Places
import SuitePool.Proofs.Settings
import SuitePool.Proofs.Console
import SuitePool.Proofs.Aftermath
