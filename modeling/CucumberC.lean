import CucumberC.Lib.Log
import CucumberC.Lib.Cursor
import CucumberC.Lib.Network
import CucumberC.Lib.Lockstep
import CucumberC.Pickle
import CucumberC.GherkinDoc
import CucumberC.FeatureRunner
import CucumberC.Cucumber
import CucumberC.Steps
import CucumberC.Handler
import CucumberC.Serving
import CucumberC.StepVerdict
import CucumberC.Framing
import CucumberC.Isolation
import CucumberC.Lifecycle
import CucumberC.Transcript
import CucumberC.Run
import CucumberC.Verdict
import CucumberC.Correlation
import CucumberC.Protocol
import CucumberC.Lib.Solitary
import CucumberC.Program
import CucumberC.Control
import CucumberC.Decoding
import CucumberC.Errors
import CucumberC.Dispatch
import CucumberC.Discovery
import CucumberC.Lib.Printf
import CucumberC.Asserts
import CucumberC.Composition
import CucumberC.Listing
import CucumberC.Lib.Snprintf
import CucumberC.ToString
import CucumberC.Lib.MayReturn
import CucumberC.Acceptance
import CucumberC.Lib.Script
import CucumberC.Requests
import CucumberC.Report
import CucumberC.Lib.Descent
import CucumberC.Lib.Schedule
import CucumberC.Completion
import CucumberC.Lib.Family
import CucumberC.Meaning
import CucumberC.Lib.Actor
import CucumberC.Lib.Session
import CucumberC.Lib.Shutdown
import CucumberC.Lib.Turns
import CucumberC.StepRunner
import CucumberC.Conversation
import CucumberC.Startup
import CucumberC.Lib.Ensemble
import CucumberC.Processes
